import Mathlib
import Outline.Proofs.Engine.Confined
import Outline.Proofs.Host.Alike

/-!
# Timeouts count as empty answers

The tools ask a host for four kinds of data. A host on which the requests of one kind always time
out cannot be told apart from one on which they succeed and bring nothing: whatever is done, the
outcome is the same, and so are the calls that the host gets and the state it is left in, the files
among it.
-/

namespace Outline

open Outline.Action

/-! ### Hosts with one kind of request replaced -/

/-- The kinds of requests for data. -/
inductive Inquiry where
  | documentSymbols
  | references
  | rename
  | workspaceSymbols
  deriving DecidableEq, Repr

namespace Inquiry

variable {σ α : Type}

/-- Makes a request. If it is of the given kind, it has the given outcome, whatever it was; what it
does to the host stays done. -/
def ask (inquiry kind : Inquiry) (outcome : Except HostError α) (request : Action σ HostError α) :
    Action σ HostError α :=
  if kind = inquiry then .mk ((fun _ => outcome) <$> request.run) else request

/-- Who takes timeouts for empty answers sees no difference, and the host gets the same call. -/
lemma alike_noting_ask (inquiry kind : Inquiry) (limit : Duration) (call : HostCall) (empty : α)
    (request : Action σ HostError α) :
    Alike Eq
      (orEmpty empty
        (.mk (Watched.noting call (inquiry.ask kind (.error (.timeout limit)) request).run)))
      (orEmpty empty (.mk (Watched.noting call (inquiry.ask kind (.ok empty) request).run))) := by
  rintro w _ rfl
  unfold ask
  split
  · -- the timeout is caught and gives way to the answer that the other host has given
    exact ⟨rfl, rfl⟩
  · exact ⟨rfl, rfl⟩

end Inquiry

namespace Host

variable {σ : Type}

/-- The host with another outcome for all requests of one kind; `reply` gives it from the empty
answer. -/
@[reducible] def replying (host : Host σ) (inquiry : Inquiry)
    (reply : ∀ {α : Type}, α → Except HostError α) : Host σ :=
  { host with
    documentSymbols uri := inquiry.ask .documentSymbols (reply []) (documentSymbols uri)
    references uri position includeDeclaration :=
      inquiry.ask .references (reply []) (references uri position includeDeclaration)
    rename uri position newName :=
      inquiry.ask .rename (reply none) (rename uri position newName)
    workspaceSymbols query := inquiry.ask .workspaceSymbols (reply []) (workspaceSymbols query) }

/-- The host, but requests of one kind time out. -/
@[reducible] def timingOut (host : Host σ) (inquiry : Inquiry) (limit : Duration) : Host σ :=
  host.replying inquiry fun _ => .error (.timeout limit)

/-- The host, but requests of one kind succeed and bring nothing. -/
@[reducible] def bringingNothing (host : Host σ) (inquiry : Inquiry) : Host σ :=
  host.replying inquiry .ok

/-- The host while it is watched. -/
@[reducible] def watched (host : Host σ) : Host (Watched σ) := inferInstance

end Host

/-- The two hosts agree while they are watched, and stay in one and the same state. -/
lemma agree_timingOut_bringingNothing {σ : Type} (host : Host σ) (inquiry : Inquiry)
    (limit : Duration) :
    Agree (host.timingOut inquiry limit).watched (host.bringingNothing inquiry).watched Eq where
  disk := by
    rintro w _ rfl
    rfl
  documentSymbols _ := inquiry.alike_noting_ask .documentSymbols limit _ [] _
  references _ _ _ := inquiry.alike_noting_ask .references limit _ [] _
  rename _ _ _ := inquiry.alike_noting_ask .rename limit _ none _
  workspaceSymbols _ := inquiry.alike_noting_ask .workspaceSymbols limit _ [] _
  applyEdits _ := alike_refl _
  documentText _ := alike_refl _
  diagnostics _ := alike_refl _
  allDiagnostics := alike_refl _

namespace Engine

variable {σ τ : Type} [host : Host σ] [other : Host τ] {R : σ → τ → Prop}

/-! ### Operations on hosts that agree -/

lemma alike_locate (hagree : Agree host other R) (root : Path) (path : String) :
    Alike R (locate root path : Action σ ToolError Uri) (locate root path) := by
  intro s t h
  rw [exec_locate, exec_locate, hagree.disk h]
  exact ⟨rfl, h⟩

lemma alike_loadTree (hagree : Agree host other R) (uri : Uri) :
    Alike R (loadTree uri : Action σ ToolError SymbolTree) (loadTree uri) :=
  (hagree.documentSymbols uri).ofHost.bind fun _ => alike_pure _

lemma alike_resolveSymbol (hagree : Agree host other R) (root : Path) (namePath path : String) :
    Alike R (resolveSymbol root namePath path : Action σ ToolError Symbol)
      (resolveSymbol root namePath path) := by
  refine (alike_locate hagree root path).bind fun uri => (alike_loadTree hagree uri).bind
    fun tree => Alike.check ?_
  cases tree.resolve namePath with
  | some symbol => exact alike_pure symbol
  | none => exact alike_throw _

lemma alike_overview (hagree : Agree host other R) (root : Path) (path : String) (depth : Nat) :
    Alike R (overview root path depth : Action σ ToolError SymbolGroups)
      (overview root path depth) :=
  (alike_locate hagree root path).bind fun uri => (alike_loadTree hagree uri).bind
    fun _ => alike_pure _

lemma alike_findSymbol (hagree : Agree host other R) (root : Path) (pattern path : String)
    (depth : Nat) :
    Alike R (findSymbol root pattern path depth : Action σ ToolError SymbolGroups)
      (findSymbol root pattern path depth) :=
  (alike_locate hagree root path).bind fun uri => (alike_loadTree hagree uri).bind
    fun _ => alike_pure _

lemma alike_loadView (hagree : Agree host other R) (uri : Uri) :
    Alike R (loadView uri : Action σ ToolError DocumentView) (loadView uri) :=
  (alike_loadTree hagree uri).attempt.bind fun _ =>
    (hagree.documentText uri).ofHost.attempt.bind fun _ => alike_pure _

lemma alike_usagesAt (hagree : Agree host other R) (root : Path) (seen : Keyed Uri DocumentView)
    (locations : List Location) :
    Alike R (usagesAt root seen locations : Action σ ToolError (List Usage))
      (usagesAt root seen locations) := by
  induction locations generalizing seen with
  | nil => exact alike_pure []
  | cons l ls ih =>
    rw [usagesAt, usagesAt]
    cases Keyed.get? l.uri seen with
    | some view => exact (alike_pure view).bind fun _ => (ih _).bind fun _ => alike_pure _
    | none => exact (alike_loadView hagree l.uri).bind fun _ => (ih _).bind fun _ => alike_pure _

lemma alike_findUsages (hagree : Agree host other R) (root : Path) (namePath path : String) :
    Alike R (findUsages root namePath path : Action σ ToolError UsageGroups)
      (findUsages root namePath path) :=
  (alike_resolveSymbol hagree root namePath path).bind fun symbol =>
    (alike_liftM _).bind fun position =>
      (hagree.references symbol.uri position false).ofHost.bind fun locations =>
        (alike_usagesAt hagree root [] locations).bind fun _ => alike_pure _

lemma alike_reportSections (hagree : Agree host other R) (root : Path) (includeSource : Bool)
    (documents : List (Uri × List Diagnostic)) :
    Alike R (reportSections root includeSource documents : Action σ ToolError (List String))
      (reportSections root includeSource documents) := by
  induction documents with
  | nil => exact alike_pure []
  | cons document documents ih =>
    rw [reportSections, reportSections]
    split
    · exact ih
    · split
      · exact (hagree.documentText document.1).ofHost.attempt.bind fun _ =>
          ih.bind fun _ => alike_pure _
      · exact (alike_pure none).bind fun _ => ih.bind fun _ => alike_pure _

lemma alike_diagnostics (hagree : Agree host other R) (root : Path) (path : Option String)
    (includeSource : Bool) :
    Alike R (diagnostics root path includeSource : Action σ ToolError DiagnosticsReport)
      (diagnostics root path includeSource) := by
  unfold diagnostics
  cases path with
  | some path =>
    exact (alike_locate hagree root path).bind fun uri => (hagree.diagnostics uri).bind fun ds =>
      (alike_pure _).bind fun documents =>
        (alike_reportSections hagree root includeSource documents).bind fun _ => alike_pure _
  | none =>
    exact hagree.allDiagnostics.bind fun documents =>
      (alike_reportSections hagree root includeSource documents).bind fun _ => alike_pure _

lemma alike_workspaceSymbols (hagree : Agree host other R) (root : Path) (query : String)
    (includeExternal : Bool) (limit : Nat) :
    Alike R
      (workspaceSymbols root query includeExternal limit :
        Action σ ToolError (List WorkspaceSymbol))
      (workspaceSymbols root query includeExternal limit) :=
  (hagree.workspaceSymbols query).ofHost.bind fun _ => alike_pure _

lemma alike_applyPlan (hagree : Agree host other R) (symbol : Symbol) (plan : EditPlan) :
    Alike R (applyPlan symbol plan : Action σ ToolError EditOutcome) (applyPlan symbol plan) :=
  (hagree.applyEdits plan.changes).ofHost.bind fun _ => alike_pure _

lemma alike_editSymbol (hagree : Agree host other R) (root : Path) (namePath path : String)
    (intent : Intent) :
    Alike R (editSymbol root namePath path intent : Action σ ToolError EditOutcome)
      (editSymbol root namePath path intent) :=
  (alike_resolveSymbol hagree root namePath path).bind fun symbol =>
    (alike_liftM _).bind fun plan => alike_applyPlan hagree symbol plan

lemma alike_renameSymbol (hagree : Agree host other R) (root : Path)
    (namePath path newName : String) :
    Alike R (renameSymbol root namePath path newName : Action σ ToolError EditOutcome)
      (renameSymbol root namePath path newName) := by
  unfold renameSymbol
  refine Alike.check ?_
  refine (alike_resolveSymbol hagree root namePath path).bind fun symbol =>
    (alike_liftM _).bind fun position =>
      (hagree.rename symbol.uri position newName).ofHost.bind fun answer => ?_
  cases answer.bind planRename with
  | some plan => exact alike_applyPlan hagree symbol plan
  | none => exact alike_throw _

lemma alike_run (hagree : Agree host other R) (root : Path) (call : ToolCall) :
    Alike R (call.run root : Action σ ToolError Json) (call.run root) := by
  cases call with
  | symbolsOverview path depth =>
    exact (alike_overview hagree root path depth).bind fun _ => alike_pure _
  | findSymbol pattern path depth =>
    exact (alike_findSymbol hagree root pattern path depth).bind fun _ => alike_pure _
  | findUsages a =>
    exact (alike_findUsages hagree root a.namePath a.path).bind fun _ => alike_pure _
  | replaceBody a body | insertAfter a body | insertBefore a body =>
    exact (alike_editSymbol hagree root a.namePath a.path _).bind fun _ => alike_pure _
  | renameSymbol a newName =>
    exact (alike_renameSymbol hagree root a.namePath a.path newName).bind fun _ => alike_pure _
  | diagnostics path includeSource =>
    exact (alike_diagnostics hagree root path includeSource).bind fun _ => alike_pure _
  | workspaceSymbols query includeExternal maxResults =>
    exact (alike_workspaceSymbols hagree root query includeExternal maxResults).bind
      fun _ => alike_pure _

/-! ### Timeouts and empty answers -/

/-- What can be done on any host. -/
abbrev Operation (α : Type) := ∀ (σ : Type) [Host σ], Action σ ToolError α

/-- The outcome of an operation on a host that is watched, and the host afterwards with the calls
that were made of it. -/
def Operation.watch {σ α : Type} (op : Operation α) (host : Host σ) (w : Watched σ) :
    Except ToolError α × Watched σ :=
  exec (@op (Watched σ) host.watched) w

/-- Whether the requests of any one kind time out or bring nothing, the operation does the same. -/
def HidesTimeouts {α : Type} (op : Operation α) : Prop :=
  ∀ (inquiry : Inquiry) (limit : Duration) (σ : Type) (host : Host σ) (w : Watched σ),
    Operation.watch op (host.timingOut inquiry limit) w =
      Operation.watch op (host.bringingNothing inquiry) w

/-- What hosts that agree do alike does not tell timeouts from empty answers. -/
lemma hidesTimeouts_of_alike {α : Type} {op : Operation α}
    (h : ∀ {σ τ : Type} (host : Host σ) (other : Host τ) (R : σ → τ → Prop),
      Agree host other R → Alike R (op σ) (op τ)) : HidesTimeouts op := by
  intro inquiry limit σ host w
  have halike := h _ _ Eq (agree_timingOut_bringingNothing host inquiry limit)
  obtain ⟨houtcome, hstate⟩ := halike w w rfl
  exact Prod.ext houtcome hstate

/-- A request as such does tell a timeout from an empty answer. -/
lemma not_hidesTimeouts_documentSymbols (uri : Uri) :
    ¬ HidesTimeouts fun _ => ofHost (Host.documentSymbols uri) := by
  intro h
  have hwatch := h .documentSymbols ⟨0⟩ CannedHost inferInstance ⟨{ disk := ⟨[]⟩ }, []⟩
  cases congrArg Prod.fst hwatch

/-- No operation tells a request that times out from one that brings nothing, and so no call of a
tool does. -/
theorem operations_hide_timeouts (root : Path) :
    (∀ path depth, HidesTimeouts fun _ => overview root path depth) ∧
    (∀ pattern path depth, HidesTimeouts fun _ => findSymbol root pattern path depth) ∧
    (∀ namePath path, HidesTimeouts fun _ => findUsages root namePath path) ∧
    (∀ namePath path intent, HidesTimeouts fun _ => editSymbol root namePath path intent) ∧
    (∀ namePath path newName, HidesTimeouts fun _ => renameSymbol root namePath path newName) ∧
    (∀ path includeSource, HidesTimeouts fun _ => diagnostics root path includeSource) ∧
    (∀ query includeExternal limit,
      HidesTimeouts fun _ => workspaceSymbols root query includeExternal limit) ∧
    ∀ call : ToolCall, HidesTimeouts fun _ => call.run root := by
  refine ⟨fun path depth => ?_, fun pattern path depth => ?_, fun namePath path => ?_,
    fun namePath path intent => ?_, fun namePath path newName => ?_,
    fun path includeSource => ?_, fun query includeExternal limit => ?_, fun call => ?_⟩
  all_goals refine hidesTimeouts_of_alike fun _ _ _ hagree => ?_
  · exact alike_overview hagree root path depth
  · exact alike_findSymbol hagree root pattern path depth
  · exact alike_findUsages hagree root namePath path
  · exact alike_editSymbol hagree root namePath path intent
  · exact alike_renameSymbol hagree root namePath path newName
  · exact alike_diagnostics hagree root path includeSource
  · exact alike_workspaceSymbols hagree root query includeExternal limit
  · exact alike_run hagree root call

end Engine

end Outline
