import Mathlib
import Outline.Proofs.Buffer.InLine
import Outline.Proofs.Host.Step

/-!
# Hosts that work on files

A lawful host only looks at the disk, except when it applies edits. Then it names the documents by
the URIs of their files, brings the buffers in line with these, and applies the edit set as one
change, or it fails before it gets that far. So edits that cannot be applied leave every entry of
the disk as it was. The host with fixed answers is lawful, whatever its answers and failures.
-/

namespace Outline

open Outline.Action

/-- Every document of an edit set has a file with a text. -/
def Disk.Openable (disk : Disk) (changes : EditSet) : Prop :=
  ∃ files b, disk.canonicalChanges changes = .ok files ∧ Buffers.InLine b disk files

/-- How edits are applied to the files of a disk: the outcome, and the disk afterwards. -/
inductive AppliedToFiles (disk : Disk) (changes : EditSet) :
    Except HostError Unit → Disk → Prop where
  /-- A document has no file with a text. -/
  | unopened (e : HostError) (h : ¬ disk.Openable changes) :
      AppliedToFiles disk changes (.error e) disk
  /-- The files are changed by way of buffers that are in line with them. -/
  | changed {files : EditSet} {b b' : Buffers} {disk' : Disk}
      {outcome : Except HostError (List BufferChange)}
      (canonical : disk.canonicalChanges changes = .ok files) (inLine : b.InLine disk files)
      (applied : b.apply disk files = (disk', b', outcome)) :
      AppliedToFiles disk changes (outcome.map fun _ => ()) disk'

/-- How edits are taken: the outcome, and the disk afterwards. -/
inductive EditsTaken (disk : Disk) (changes : EditSet) : Except HostError Unit → Disk → Prop where
  /-- The edits do not get as far as the files. -/
  | refused (e : HostError) : EditsTaken disk changes (.error e) disk
  | applied {outcome : Except HostError Unit} {disk' : Disk}
      (h : AppliedToFiles disk changes outcome disk') : EditsTaken disk changes outcome disk'

/-- A host that changes the disk only by applying edits. -/
class LawfulHost (σ : Type) [Host σ] : Prop where
  documentSymbols (uri : Uri) (disk : Disk) :
    Keeps (Host.disk · = disk) (Host.documentSymbols uri : Action σ HostError (List RawSymbol))
  references (uri : Uri) (position : Position) (includeDeclaration : Bool) (disk : Disk) :
    Keeps (Host.disk · = disk)
      (Host.references uri position includeDeclaration : Action σ HostError (List Location))
  rename (uri : Uri) (position : Position) (newName : String) (disk : Disk) :
    Keeps (Host.disk · = disk)
      (Host.rename uri position newName : Action σ HostError (Option WorkspaceEdit))
  documentText (uri : Uri) (disk : Disk) :
    Keeps (Host.disk · = disk) (Host.documentText uri : Action σ HostError String)
  diagnostics (uri : Uri) (s : σ) : Host.disk ((Host.diagnostics uri).run s).2 = Host.disk s
  allDiagnostics (s : σ) : Host.disk (Host.allDiagnostics.run s).2 = Host.disk s
  workspaceSymbols (query : String) (disk : Disk) :
    Keeps (Host.disk · = disk)
      (Host.workspaceSymbols query : Action σ HostError (List WorkspaceHit))
  applyEdits (changes : EditSet) (s : σ) :
    EditsTaken (Host.disk s) changes (exec (Host.applyEdits changes) s).1
      (Host.disk (exec (Host.applyEdits changes) s).2)

/-- Edits that fail leave the disk as it was. -/
lemma AppliedToFiles.lookup_eq {disk disk' : Disk} {changes : EditSet} {e : HostError}
    (hfree : disk.Unclaimed) (h : AppliedToFiles disk changes (.error e) disk') (place : Place) :
    disk'.lookup place = disk.lookup place := by
  generalize houtcome : (.error e : Except HostError Unit) = outcome at h
  cases h with
  | unopened e h => rfl
  | changed canonical inLine applied =>
    rename_i outcome
    cases outcome with
    | ok told => cases houtcome
    | error e => exact ((inLine.ready canonical hfree).of_apply_eq_error applied).2 place

lemma EditsTaken.lookup_eq {disk disk' : Disk} {changes : EditSet} {e : HostError}
    (hfree : disk.Unclaimed) (h : EditsTaken disk changes (.error e) disk') (place : Place) :
    disk'.lookup place = disk.lookup place := by
  cases h with
  | refused e => rfl
  | applied h => exact h.lookup_eq hfree place

/-! ### Hosts that may fail late -/

/-- How edits reach the files: the outcome, and the disk afterwards. -/
inductive EditsReach (disk : Disk) (changes : EditSet) : Except HostError Unit → Disk → Prop where
  | taken {outcome : Except HostError Unit} {disk' : Disk}
      (h : EditsTaken disk changes outcome disk') : EditsReach disk changes outcome disk'
  /-- The files are changed, and then the edits fail all the same. -/
  | late (e : HostError) {disk' : Disk} (h : AppliedToFiles disk changes (.ok ()) disk') :
      EditsReach disk changes (.error e) disk'

/-- A host whose answers about symbols and names leave the disk alone, and which changes it only by
applying edits to files. What it is asked besides does not matter. -/
class FileHost (σ : Type) [Host σ] : Prop where
  documentSymbols (uri : Uri) (disk : Disk) :
    Keeps (Host.disk · = disk) (Host.documentSymbols uri : Action σ HostError (List RawSymbol))
  rename (uri : Uri) (position : Position) (newName : String) (disk : Disk) :
    Keeps (Host.disk · = disk)
      (Host.rename uri position newName : Action σ HostError (Option WorkspaceEdit))
  applyEdits (changes : EditSet) (s : σ) :
    EditsReach (Host.disk s) changes (exec (Host.applyEdits changes) s).1
      (Host.disk (exec (Host.applyEdits changes) s).2)

instance {σ : Type} [Host σ] [LawfulHost σ] : FileHost σ where
  documentSymbols := LawfulHost.documentSymbols
  rename          := LawfulHost.rename
  applyEdits changes s := .taken (LawfulHost.applyEdits changes s)

/-- Edits leave the disk as it was or are applied, whatever is said of them. -/
lemma EditsReach.same_or_applied {disk disk' : Disk} {changes : EditSet}
    {outcome : Except HostError Unit} (hfree : disk.Unclaimed)
    (h : EditsReach disk changes outcome disk') :
    (∀ place, disk'.lookup place = disk.lookup place) ∨
      AppliedToFiles disk changes (.ok ()) disk' := by
  cases h with
  | late e h => exact .inr h
  | taken h =>
    cases outcome with
    | error e => exact .inl (h.lookup_eq hfree)
    | ok _ =>
      cases h with
      | applied h => exact .inr h

/-- Edits that succeed are applied. -/
lemma EditsReach.applied {disk disk' : Disk} {changes : EditSet}
    (h : EditsReach disk changes (.ok ()) disk') : AppliedToFiles disk changes (.ok ()) disk' := by
  cases h with
  | taken h =>
    cases h with
    | applied h => exact h

/-! ### Hosts that answer -/

/-- Asked in this state for the symbols of a document, the host answers, and from then on it applies
edits to the files. -/
structure Serves {σ : Type} [Host σ] (s : σ) (uri : Uri) (symbols : List RawSymbol) : Prop where
  answers : (exec (Host.documentSymbols uri) s).1 = .ok symbols
  looks   : Host.disk (exec (Host.documentSymbols uri) s).2 = Host.disk s
  applies (changes : EditSet) : AppliedToFiles (Host.disk s) changes
    (exec (Host.applyEdits changes) (exec (Host.documentSymbols uri) s).2).1
    (Host.disk (exec (Host.applyEdits changes) (exec (Host.documentSymbols uri) s).2).2)

/-! ### The host with fixed answers -/

namespace CannedHost

variable {disk : Disk}

/-- A call is recorded whether or not the request is to fail. -/
lemma exec_record_eq (call : HostCall) (request : Request) (h : CannedHost) :
    exec (record call request) h =
      ((h.failure? request).elim (.ok ()) .error, { h with calls := call :: h.calls }) := by
  rw [record, exec_modify_bind, exec_get_bind]
  dsimp only
  cases h.failure? request with
  | some e => rfl
  | none => rfl

lemma keeps_record (call : HostCall) (request : Request) :
    Keeps (CannedHost.disk · = disk) (record call request) := by
  intro h hdisk
  rw [exec_record_eq]
  exact hdisk

/-- A request that is recorded and then answered from the host. -/
lemma keeps_answer {α : Type} (call : HostCall) (request : Request)
    (answer : CannedHost → Except HostError α) :
    Keeps (CannedHost.disk · = disk) (do record call request; liftM (answer (← get))) :=
  (keeps_record call request).bind fun _ => Keeps.get_bind fun _ hdisk => hdisk

lemma exec_answer {α : Type} (call : HostCall) (request : Request)
    (answer : CannedHost → Except HostError α) (h : CannedHost) :
    exec (do record call request; liftM (answer (← get))) h =
      ((h.failure? request).elim (answer { h with calls := call :: h.calls }) .error,
        { h with calls := call :: h.calls }) := by
  rw [exec_bind, exec_record_eq]
  cases h.failure? request with
  | some e => rfl
  | none => rfl

/-- What applying edits to the files comes to. -/
lemma exec_applyToFiles (changes : EditSet) (h : CannedHost) :
    exec (applyToFiles changes) h =
      match h.disk.canonicalChanges changes with
      | .error e  => (.error e, h)
      | .ok files =>
        match h.disk.openAll files with
        | .error e => (.error e, h)
        | .ok b    => ((b.apply h.disk files).2.2.map fun _ => (),
            { h with disk := (b.apply h.disk files).1 }) := by
  rw [applyToFiles, exec_get_bind, exec_liftM_bind]
  cases h.disk.canonicalChanges changes with
  | error e => rfl
  | ok files =>
    simp only [exec_liftM_bind]
    cases h.disk.openAll files with
    | error e => rfl
    | ok b =>
      simp only [exec_modify_bind]
      rcases b.apply h.disk files with ⟨disk', b', e | told⟩
      · rfl
      · rfl

lemma appliedToFiles_applyToFiles (changes : EditSet) (h : CannedHost) :
    AppliedToFiles h.disk changes (exec (applyToFiles changes) h).1
      (exec (applyToFiles changes) h).2.disk := by
  rw [exec_applyToFiles]
  cases hfiles : h.disk.canonicalChanges changes with
  | error e =>
    refine .unopened e ?_
    rintro ⟨files, b, hfiles', -⟩
    cases hfiles.symm.trans hfiles'
  | ok files =>
    dsimp only
    cases hbuffers : h.disk.openAll files with
    | error e =>
      refine .unopened e ?_
      rintro ⟨files', b, hfiles', hinLine⟩
      obtain rfl := Except.ok.inj (hfiles.symm.trans hfiles')
      obtain ⟨b', hopened⟩ := hinLine.exists_openAll
      cases hbuffers.symm.trans hopened
    | ok b =>
      have hinLine := Buffers.inLine_of_openAll hfiles hbuffers
      rcases happly : b.apply h.disk files with ⟨disk', b', outcome⟩
      simp only [happly]
      exact .changed hfiles hinLine happly

instance : LawfulHost CannedHost where
  documentSymbols uri disk := keeps_answer _ _ fun h => .ok ((Keyed.get? uri h.symbols).getD [])
  references _ _ _ disk := keeps_answer _ _ fun h => .ok h.references
  rename _ _ _ disk := keeps_answer _ _ fun h => .ok h.rename
  documentText uri disk := keeps_answer _ _ fun h => h.disk.documentText uri
  diagnostics _ _ := rfl
  allDiagnostics _ := rfl
  workspaceSymbols _ disk := keeps_answer _ _ fun h => .ok h.workspaceSymbols
  applyEdits changes h := by
    change EditsTaken h.disk changes
      (exec (do record (.applyEdits changes) .applyEdits; applyToFiles changes) h).1
      (exec (do record (.applyEdits changes) .applyEdits; applyToFiles changes) h).2.disk
    have hdisk : (exec (record (.applyEdits changes) .applyEdits) h).2.disk = h.disk :=
      keeps_record (.applyEdits changes) .applyEdits h rfl
    rcases hrecord : exec (record (.applyEdits changes) .applyEdits) h with ⟨e | _, h'⟩
    · rw [hrecord] at hdisk
      rw [exec_bind_of_error hrecord, show h'.disk = h.disk from hdisk]
      exact .refused e
    · rw [hrecord] at hdisk
      rw [exec_bind_of_ok hrecord, ← show h'.disk = h.disk from hdisk]
      exact .applied (appliedToFiles_applyToFiles changes h')

/-- The symbols that the host has for a document. -/
def symbolsOf (h : CannedHost) (uri : Uri) : List RawSymbol := (Keyed.get? uri h.symbols).getD []

lemma exec_record {h : CannedHost} {call : HostCall} {request : Request}
    (hnone : h.failure? request = none) :
    exec (record call request) h = (.ok (), { h with calls := call :: h.calls }) := by
  rw [exec_record_eq, hnone, Option.elim_none]

/-- The host serves files unless a request is to fail. -/
lemma serves (h : CannedHost) (hanswers : h.failure? .documentSymbols = none)
    (happlies : h.failure? .applyEdits = none) (uri : Uri) : Serves h uri (h.symbolsOf uri) := by
  let asked : CannedHost := { h with calls := .documentSymbols uri :: h.calls }
  have hasked : exec (Host.documentSymbols uri) h = (.ok (h.symbolsOf uri), asked) :=
    exec_bind_of_ok (exec_record hanswers)
  refine ⟨by rw [hasked], by rw [hasked]; rfl, fun changes => ?_⟩
  have happly : exec (Host.applyEdits changes) asked =
      exec (applyToFiles changes) { asked with calls := .applyEdits changes :: asked.calls } :=
    exec_bind_of_ok (exec_record happlies)
  rw [hasked, happly]
  exact appliedToFiles_applyToFiles changes
    { asked with calls := .applyEdits changes :: asked.calls }

end CannedHost

end Outline
