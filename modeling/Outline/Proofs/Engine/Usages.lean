import Mathlib
import Outline.Proofs.Engine.Confined
import Outline.Proofs.Symbol.Unplaced
import Outline.Proofs.Usage

/-!
# What is told of the usages of a symbol

The host is asked where a symbol is used, and then about the document of each location, about no
document twice. What it said of a document is kept for the locations that follow, a failure as well.
As long as its answers about a document do not change, this does not show: every location is told of
once, as if its document had been asked about for it alone.
-/

namespace Outline

open Outline.Action

/-! ### Hosts whose answers stay -/

/-- From states with `P`, what the host says of these documents depends on nothing but how they are
written, and asking leads to states with `P`. It may fail for any of them. -/
structure Steady {σ : Type} [Host σ] (P : σ → Prop) (uris : List Uri) : Prop where
  symbols {u v : Uri} {s s' : σ} : u ∈ uris → v ∈ uris → u.text = v.text → P s → P s' →
    (exec (Host.documentSymbols u) s).1 = (exec (Host.documentSymbols v) s').1
  text {u v : Uri} {s s' : σ} : u ∈ uris → v ∈ uris → u.text = v.text → P s → P s' →
    (exec (Host.documentText u) s).1 = (exec (Host.documentText v) s').1
  keepsSymbols {u : Uri} : u ∈ uris →
    Keeps P (Host.documentSymbols u : Action σ HostError (List RawSymbol))
  keepsText {u : Uri} : u ∈ uris → Keeps P (Host.documentText u : Action σ HostError String)

/-- Groups that tell of some locations. -/
structure UsageGroups.Reports (groups : UsageGroups) (root : Path) (usage : Location → Usage)
    (locations : List Location) : Prop where
  /-- Every location is told of once, and nothing else. -/
  once   : groups.usages.Perm (locations.map usage)
  /-- A group holds the locations with its path and its kind, in the order of the locations. -/
  held   : ∀ g ∈ groups, ∀ k ∈ g.2, k.2 = (locations.filter fun l =>
    displayPath root l.uri = g.1 ∧ (usage l).label = k.1).map usage
  filled : ∀ g ∈ groups, g.2 ≠ [] ∧ ∀ k ∈ g.2, k.2 ≠ []
  /-- No path has two groups. -/
  paths  : groups.Pairwise fun g g' => compare g.1 g'.1 = .lt
  /-- Under a path no kind has two groups. -/
  kinds  : ∀ g ∈ groups, g.2.Pairwise fun k k' => compare k.1 k'.1 = .lt

lemma Usage.group_reports {root : Path} {usage : Location → Usage}
    (husage : ∀ l, (usage l).relativePath = displayPath root l.uri) (locations : List Location) :
    (group (locations.map usage)).Reports root usage locations where
  once := usages_group_perm _
  held g hg k hk := by
    have horder := kindsInOrder_of_mem_group _ g hg
    rw [← Keyed.under_of_mem horder.ascending hk, ← Keyed.under_of_mem (ascending_group _) hg,
      under_group, List.filter_map]
    simp [Function.comp_def, husage]
  filled g hg :=
    have horder := kindsInOrder_of_mem_group _ g hg
    ⟨horder.ne_nil, horder.filled⟩
  paths := ascending_group _
  kinds g hg := (kindsInOrder_of_mem_group _ g hg).ascending

namespace Engine

variable {σ : Type} [Host σ] {s : σ}

/-- Asks where a symbol is used. -/
def usageLocations (root : Path) (namePath path : String) :
    Action σ ToolError (List Location) := do
  let symbol ← resolveSymbol root namePath path
  let position ← anchor symbol
  .ofHost (.orEmpty [] (Host.references symbol.uri position false))

/-- Finding the usages is asking where they are, and then going through the locations. -/
lemma exec_findUsages_of_ok {root : Path} {namePath path : String} {s₁ s₂ : σ}
    {locations : List Location} {usages : List Usage}
    (hnamed : exec (usageLocations root namePath path) s = (.ok locations, s₁))
    (husages : exec (usagesAt root [] locations) s₁ = (.ok usages, s₂)) :
    exec (findUsages root namePath path) s = (.ok (Usage.group usages), s₂) := by
  have heq : (findUsages root namePath path : Action σ ToolError UsageGroups) = (do
      let locations ← usageLocations root namePath path
      return Usage.group (← usagesAt root [] locations)) := by
    simp only [findUsages, usageLocations, bind_assoc]
  rw [heq, exec_bind_of_ok hnamed, exec_bind_of_ok husages, exec_pure]

/-- The usage at a location with what the host says now of its document. -/
def usageAfresh (root : Path) (s : σ) (l : Location) : Usage :=
  .ofLocation root l (exec (loadTree l.uri) s).1.toOption
    (exec (Host.documentText l.uri) s).1.toOption

/-! ### The answers about one document -/

/-- On a host that is watched, looking at a document takes two calls. -/
lemma exec_loadView (uri : Uri) (w : Watched σ) :
    exec (loadView uri) w =
      (.ok ⟨(exec (loadTree uri) w.host).1.toOption,
          (exec (Host.documentText uri) (exec (loadTree uri) w.host).2).1.toOption⟩,
        ⟨(exec (Host.documentText uri) (exec (loadTree uri) w.host).2).2,
          .documentText uri :: .documentSymbols uri :: w.calls⟩) := by
  have htree : exec (loadTree uri) w =
      ((exec (loadTree uri) w.host).1,
        ⟨(exec (loadTree uri) w.host).2, .documentSymbols uri :: w.calls⟩) := by
    rw [exec_loadTree_eq, exec_loadTree_eq]
    rfl
  have htext (w : Watched σ) : exec (Host.documentText uri) w =
      ((exec (Host.documentText uri) w.host).1,
        ⟨(exec (Host.documentText uri) w.host).2, .documentText uri :: w.calls⟩) := rfl
  rw [loadView, exec_bind, exec_attempt, htree]
  dsimp only
  rw [exec_bind, exec_attempt_ofHost, htext]
  rfl

section

variable {P : σ → Prop} {uris : List Uri}

lemma keeps_loadTree_of_steady (h : Steady P uris) {u : Uri} (hu : u ∈ uris) :
    Keeps P (loadTree u : Action σ ToolError SymbolTree) :=
  (h.keepsSymbols hu).orEmpty.ofHost.bind fun _ => keeps_pure _

/-- What is known of a document stands for all locations in it. -/
lemma ofLocation_eq_usageAfresh (h : Steady P uris) {u : Uri} {l : Location} (hu : u ∈ uris)
    (hl : l.uri ∈ uris) (hsame : u.text = l.uri.text) (root : Path) {s₁ s₂ s : σ} (hs₁ : P s₁)
    (hs₂ : P s₂) (hs : P s) :
    .ofLocation root l (exec (loadTree u) s₁).1.toOption
      (exec (Host.documentText u) s₂).1.toOption = usageAfresh root s l := by
  rw [usageAfresh, h.text hu hl hsame hs₂ hs, exec_loadTree_eq, exec_loadTree_eq,
    h.symbols hu hl hsame hs₁ hs]
  cases Except.mapError ToolError.host _ with
  | error e => rfl
  | ok raw =>
    -- the two trees are built for URIs that are written the same, but need not be the same
    exact Usage.ofLocation_build root l u l.uri raw _

/-! ### The answers that are kept -/

/-- What is kept of documents is what the host would say now of each of them. -/
def Remembers (P : σ → Prop) (root : Path) (uris : List Uri) (seen : Keyed Uri DocumentView) :
    Prop :=
  ∀ l view s, l.uri ∈ uris → Keyed.get? l.uri seen = some view → P s →
    .ofLocation root l view.tree view.text = usageAfresh root s l

lemma Remembers.insert {root : Path} {seen : Keyed Uri DocumentView} {u : Uri} {view : DocumentView}
    (h : Remembers P root uris seen)
    (hview : ∀ l s, l.uri ∈ uris → u.text = l.uri.text → P s →
      .ofLocation root l view.tree view.text = usageAfresh root s l) :
    Remembers P root uris (Keyed.insert u view seen) := by
  intro l view' s hl hget hs
  by_cases hsame : u.text = l.uri.text
  · rw [Keyed.get?_congr (Uri.compare_eq_iff.mpr hsame.symm), Keyed.get?_insert_self] at hget
    obtain rfl := Option.some.inj hget
    exact hview l s hl hsame hs
  · have hne : compare l.uri u ≠ .eq := fun heq => hsame (Uri.compare_eq_iff.mp heq).symm
    rw [Keyed.get?_insert_of_ne hne] at hget
    exact h l view' s hl hget hs

/-- What is kept of a document, or else what the host says of it. -/
def viewOf (seen : Keyed Uri DocumentView) (u : Uri) : Action σ ToolError DocumentView :=
  match Keyed.get? u seen with
  | some view => pure view
  | none      => loadView u

lemma usagesAt_cons (root : Path) (seen : Keyed Uri DocumentView) (l : Location)
    (ls : List Location) :
    (usagesAt root seen (l :: ls) : Action σ ToolError (List Usage)) = (do
      let view ← viewOf seen l.uri
      let rest ← usagesAt root (Keyed.insert l.uri view seen) ls
      return .ofLocation root l view.tree view.text :: rest) := by
  rw [usagesAt, viewOf]
  cases Keyed.get? l.uri seen with
  | none => rfl
  | some view => rfl

/-- The documents among these that are asked about when some are known: each once, in the order in
which they appear. -/
def documentsAsked (seen : Keyed Uri DocumentView) (us : List Uri) : List Uri :=
  (us.filter fun u => (Keyed.get? u seen).isNone).eraseDupsBy fun u v => u.text == v.text

/-- Looking at a document: first its symbols, then its text. -/
def viewCalls (u : Uri) : List HostCall := [.documentSymbols u, .documentText u]

lemma isNone_get?_insert (u v : Uri) (view : DocumentView) (seen : Keyed Uri DocumentView) :
    (Keyed.get? u (Keyed.insert v view seen)).isNone =
      (!decide (u.text = v.text) && (Keyed.get? u seen).isNone) := by
  by_cases hsame : u.text = v.text
  · rw [Keyed.get?_congr (Uri.compare_eq_iff.mpr hsame), Keyed.get?_insert_self]
    simp [hsame]
  · rw [Keyed.get?_insert_of_ne (mt Uri.compare_eq_iff.mp hsame)]
    simp [hsame]

lemma documentsAsked_cons_of_some {seen : Keyed Uri DocumentView} {u : Uri} {view : DocumentView}
    (h : Keyed.get? u seen = some view) (us : List Uri) :
    documentsAsked seen (u :: us) = documentsAsked (Keyed.insert u view seen) us := by
  have hkept (v : Uri) : (Keyed.get? v (Keyed.insert u view seen)).isNone =
      (Keyed.get? v seen).isNone := by
    rw [isNone_get?_insert]
    by_cases hsame : v.text = u.text
    · rw [Keyed.get?_congr (Uri.compare_eq_iff.mpr hsame), h]
      simp
    · simp [hsame]
  simp [documentsAsked, h, hkept]

lemma documentsAsked_cons_of_none {seen : Keyed Uri DocumentView} {u : Uri}
    (h : Keyed.get? u seen = none) (view : DocumentView) (us : List Uri) :
    documentsAsked seen (u :: us) = u :: documentsAsked (Keyed.insert u view seen) us := by
  rw [documentsAsked, List.filter_cons_of_pos (by simp [h]), List.eraseDupsBy_cons,
    List.filter_filter, documentsAsked]
  simp [isNone_get?_insert]

/-- The step for one location. Its document is looked at unless that is done, and from then on what
is known of it is kept. -/
lemma exec_viewOf (hsteady : Steady P uris) {root : Path} {u : Uri} (hu : u ∈ uris)
    {seen : Keyed Uri DocumentView} (hseen : Remembers P root uris seen) {w : Watched σ}
    (hw : P w.host) :
    ∃ view w', exec (viewOf seen u) w = (.ok view, w') ∧ P w'.host ∧
      Remembers P root uris (Keyed.insert u view seen) ∧
      ∀ us, ((documentsAsked seen (u :: us)).flatMap viewCalls).reverse ++ w.calls =
        ((documentsAsked (Keyed.insert u view seen) us).flatMap viewCalls).reverse ++ w'.calls := by
  rw [viewOf]
  cases hget : Keyed.get? u seen with
  | some view =>
    refine ⟨view, w, rfl, hw, hseen.insert fun l s hl hsame hs => ?_, fun us => ?_⟩
    · refine hseen l view s hl ?_ hs
      rw [← hget, Keyed.get?_congr (Uri.compare_eq_iff.mpr hsame)]
    · rw [documentsAsked_cons_of_some hget]
  | none =>
    have hloaded := keeps_loadTree_of_steady hsteady hu w.host hw
    refine ⟨_, _, exec_loadView u w, hsteady.keepsText hu _ hloaded,
      hseen.insert fun l s hl hsame hs => ?_, fun us => ?_⟩
    · exact ofLocation_eq_usageAfresh hsteady hu hl hsame root hw hloaded hs
    · rw [documentsAsked_cons_of_none hget _ us, List.flatMap_cons, List.reverse_append,
        List.append_assoc]
      rfl

/-- The run over all locations: each is told of as if its document were asked about for it alone. -/
lemma exec_usagesAt (hsteady : Steady P uris) (root : Path) {s : σ} (hs : P s)
    {locations : List Location} (huris : ∀ l ∈ locations, l.uri ∈ uris)
    {seen : Keyed Uri DocumentView} (hseen : Remembers P root uris seen) {w : Watched σ}
    (hw : P w.host) :
    ∃ host, exec (usagesAt root seen locations) w =
      (.ok (locations.map (usageAfresh root s)),
        ⟨host, ((documentsAsked seen (locations.map Location.uri)).flatMap viewCalls).reverse ++
          w.calls⟩) := by
  induction locations generalizing seen w with
  | nil => exact ⟨w.host, rfl⟩
  | cons l ls ih =>
    obtain ⟨hl, hls⟩ := List.forall_mem_cons.mp huris
    obtain ⟨view, w', hview, hw', hkept, hcalls⟩ := exec_viewOf hsteady hl hseen hw
    obtain ⟨host, hrest⟩ := ih hls hkept hw'
    refine ⟨host, ?_⟩
    rw [usagesAt_cons, exec_bind_of_ok hview, exec_bind_of_ok hrest, exec_pure, List.map_cons,
      List.map_cons, hcalls, hkept l view s hl (Keyed.get?_insert_self l.uri view seen) hs]

end

/-- The host is asked where a symbol is used, and names some locations. As long as its answers about
their documents stay as they are, the groups tell of each location once, as it is told of when its
document is asked about for it alone, and after the locations are named every document is asked
about once. -/
theorem findUsages_reports_locations {P : σ → Prop} (root : Path) (namePath path : String)
    (w after : Watched σ) (locations : List Location)
    (hnamed : exec (usageLocations root namePath path) w = (.ok locations, after))
    (hsteady : Steady P (locations.map Location.uri)) (hafter : P after.host) :
    ∃ groups w', exec (findUsages root namePath path) w = (.ok groups, w') ∧
      (∀ s, P s → groups.Reports root (usageAfresh root s) locations) ∧
      w'.calls = (((locations.map Location.uri).eraseDupsBy fun u v => u.text == v.text).flatMap
        viewCalls).reverse ++ after.calls := by
  have hnothing : Remembers P root (locations.map Location.uri) [] := by
    intro l view s _ hget
    cases hget
  have huris : ∀ l ∈ locations, l.uri ∈ locations.map Location.uri :=
    fun l hl => List.mem_map_of_mem hl
  -- the usages are the same for every state of the host, so any will do for the run
  have hrun (s : σ) (hs : P s) := exec_usagesAt hsteady root hs huris hnothing hafter
  obtain ⟨host, hexec⟩ := hrun after.host hafter
  refine ⟨_, _, exec_findUsages_of_ok hnamed hexec, fun s hs => ?_, ?_⟩
  · obtain ⟨host', hexec'⟩ := hrun s hs
    rw [hexec, Prod.mk.injEq, Except.ok.injEq] at hexec'
    rw [hexec'.1]
    exact Usage.group_reports (fun _ => rfl) locations
  · simp [documentsAsked, Keyed.get?]

/-- A host with fixed answers says the same whatever it has been asked before. -/
lemma steady_cannedHost (h : CannedHost) {uris : List Uri}
    (huris : ∀ u ∈ uris, ∀ v ∈ uris, u.text = v.text → u = v) :
    Steady (fun h' : CannedHost => ∃ calls, h' = { h with calls := calls }) uris := by
  have hsymbols (u : Uri) (calls : List HostCall) :
      exec (Host.documentSymbols u) { h with calls := calls } = _ :=
    CannedHost.exec_answer _ _ (fun h => .ok (h.symbolsOf u)) _
  have htext (u : Uri) (calls : List HostCall) :
      exec (Host.documentText u) { h with calls := calls } = _ :=
    CannedHost.exec_answer _ _ (fun h => h.disk.documentText u) _
  constructor
  · rintro u v _ _ hu hv hsame ⟨calls, rfl⟩ ⟨calls', rfl⟩
    rw [hsymbols, hsymbols, huris u hu v hv hsame]
    rfl
  · rintro u v _ _ hu hv hsame ⟨calls, rfl⟩ ⟨calls', rfl⟩
    rw [htext, htext, huris u hu v hv hsame]
  · rintro u - _ ⟨calls, rfl⟩
    rw [hsymbols]
    exact ⟨_, rfl⟩
  · rintro u - _ ⟨calls, rfl⟩
    rw [htext]
    exact ⟨_, rfl⟩

/-- A host with the file `a` in the directory `d`, whose second line is the function `f`. It is used
there and, so the host says, in a file `m`, which does not exist. -/
def scatteredHost : CannedHost :=
  let a := Uri.ofNames [[0x64], [0x61]]
  let m := Uri.ofNames [[0x64], [0x6D]]
  { disk := ⟨[([[0x64]], .directory), ([[0x64], [0x61]], .file "f()\ndef f".toUTF8)]⟩
    symbols := [(a, [.mk ⟨"f", some ⟨12⟩, none, some ⟨⟨1, 0⟩, ⟨1, 5⟩⟩, none, none, none⟩ none])]
    references := [⟨a, ⟨⟨1, 4⟩, ⟨1, 5⟩⟩⟩, ⟨m, ⟨⟨2, 0⟩, ⟨2, 1⟩⟩⟩, ⟨a, ⟨⟨0, 0⟩, ⟨0, 1⟩⟩⟩,
      ⟨m, ⟨⟨1, 0⟩, ⟨1, 1⟩⟩⟩] }

/-- The symbol `f` of that host. -/
lemma resolves_scatteredHost :
    exec (resolveSymbol ⟨[0x2F, 0x64]⟩ "f" "a") (Watched.mk scatteredHost []) =
      (.ok ⟨0, ⟨"f", some ⟨12⟩, none, some ⟨⟨1, 0⟩, ⟨1, 5⟩⟩, none, .ofNames [[0x64], [0x61]]⟩, "f", 0,
        none⟩, ⟨{ scatteredHost with calls := [.documentSymbols (.ofNames [[0x64], [0x61]])] },
          [.documentSymbols (.ofNames [[0x64], [0x61]])]⟩) := by
  have hserves (uri : Uri) :
      Serves (Watched.mk scatteredHost []) uri (scatteredHost.symbolsOf uri) :=
    have h := scatteredHost.serves rfl rfl uri
    ⟨h.answers, h.looks, h.applies⟩
  refine (exec_resolveSymbol_eq_ok_iff fun uri _ => hserves uri).mpr
    ⟨.ofNames [[0x64], [0x61]], ⟨?_, ?_, ?_⟩, ?_⟩
  · decide
  · decide
  · decide
  · rfl

/-- Four locations in two documents make four calls more, though the second document has no text. -/
theorem findUsages_scatteredHost :
    ∃ after : Watched CannedHost,
      exec (usageLocations ⟨[0x2F, 0x64]⟩ "f" "a") (Watched.mk scatteredHost []) =
        (.ok scatteredHost.references, after) ∧
      Steady (fun h => ∃ calls, h = { scatteredHost with calls := calls })
        (scatteredHost.references.map Location.uri) ∧
      ∃ groups w', exec (findUsages ⟨[0x2F, 0x64]⟩ "f" "a") (Watched.mk scatteredHost []) =
          (.ok groups, w') ∧
        groups.Reports ⟨[0x2F, 0x64]⟩ (usageAfresh ⟨[0x2F, 0x64]⟩ scatteredHost)
          scatteredHost.references ∧
        w'.calls = [.documentText (.ofNames [[0x64], [0x6D]]),
          .documentSymbols (.ofNames [[0x64], [0x6D]]), .documentText (.ofNames [[0x64], [0x61]]),
          .documentSymbols (.ofNames [[0x64], [0x61]]),
          .references (.ofNames [[0x64], [0x61]]) ⟨1, 0⟩ false,
          .documentSymbols (.ofNames [[0x64], [0x61]])] := by
  have hnamed : exec (usageLocations ⟨[0x2F, 0x64]⟩ "f" "a") (Watched.mk scatteredHost []) = _ :=
    exec_bind_of_ok resolves_scatteredHost
  have hsteady : Steady _ (scatteredHost.references.map Location.uri) :=
    steady_cannedHost scatteredHost (by decide)
  obtain ⟨groups, w', hexec, hreports, hcalls⟩ :=
    findUsages_reports_locations _ _ _ _ _ _ hnamed hsteady ⟨_, rfl⟩
  refine ⟨_, hnamed, hsteady, groups, w', hexec, hreports scatteredHost ⟨[], rfl⟩, ?_⟩
  rw [hcalls]
  decide

end Engine

end Outline
