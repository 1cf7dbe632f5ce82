import Mathlib.Data.List.Basic
import Outline.Change.Plan
import Outline.Proofs.Keyed
import Outline.Uri.FilePath

/-!
# Plans of proposed changes

A server proposes a change as a list of document edits, with operations on whole files among them or
not, or as a map. The plan takes the list if there is anything in it, and then every document that the
list edits has all its edits in their order, whatever stands between them. Otherwise the plan is the
map. There is no plan when what is taken names no document.
-/

namespace Outline

/-! ### What a list of changes brings for a document -/

namespace DocumentChange

/-- The change is one of the edits of a document, not an operation on a file. -/
def isEdit : DocumentChange → Bool
  | edit _      => true
  | operation _ => false

/-- The change edits the document with the URI. -/
def concerns (uri : Uri) : DocumentChange → Bool
  | edit d      => d.uri.text = uri.text
  | operation _ => false

/-- The edits of the document with the URI, with or without remarks. -/
def editsFor (uri : Uri) : DocumentChange → List TextEdit
  | edit d      => if d.uri.text = uri.text then d.edits.map ProposedEdit.edit else []
  | operation _ => []

variable {c : DocumentChange} {cs : List DocumentChange} {uri : Uri}

lemma under_filterMap_edits? (uri : Uri) (cs : List DocumentChange) :
    Keyed.under uri (cs.filterMap edits?) = cs.flatMap (editsFor uri) := by
  induction cs with
  | nil => rfl
  | cons c cs ih =>
    cases c with
    | edit d =>
      rw [List.filterMap_cons_some (show edits? (.edit d) = some _ from rfl), Keyed.under_cons, ih,
        List.flatMap_cons, editsFor]
      simp only [Uri.compare_eq_iff, eq_comm (a := uri.text)]
    | operation op =>
      rw [List.filterMap_cons_none rfl, ih, List.flatMap_cons, editsFor, List.nil_append]

lemma any_filterMap_edits? (uri : Uri) (cs : List DocumentChange) :
    (cs.filterMap edits?).any (fun p => compare uri p.1 = .eq) = cs.any (concerns uri) := by
  induction cs with
  | nil => rfl
  | cons c cs ih =>
    cases c with
    | edit d =>
      rw [List.filterMap_cons_some (show edits? (.edit d) = some _ from rfl), List.any_cons, ih,
        List.any_cons, concerns]
      simp only [Uri.compare_eq_iff, eq_comm (a := uri.text)]
    | operation op =>
      rw [List.filterMap_cons_none rfl, ih, List.any_cons, concerns, Bool.false_or]

lemma edits?_eq_none_iff : c.edits? = none ↔ c.isEdit = false := by
  cases c <;> simp [edits?, isEdit]

/-- Operations on files bring no edits, wherever they stand. -/
lemma filterMap_filter_isEdit (cs : List DocumentChange) :
    (cs.filter isEdit).filterMap edits? = cs.filterMap edits? := by
  rw [List.filterMap_filter]
  refine List.filterMap_congr fun c _ => ?_
  cases c with
  | edit d => rfl
  | operation op => rfl

end DocumentChange

/-! ### The plan -/

/-- An edit set that is read is in the order of its URIs. -/
lemma EditSet.ascending_of_ofJson {v : Json} {changes : EditSet} (h : ofJson v = some changes) :
    changes.Pairwise fun x y => compare x.1 y.1 = .lt := by
  obtain ⟨pairs, -, rfl⟩ := Option.map_eq_some_iff.mp h
  exact Keyed.ascending_ofList pairs

namespace WorkspaceEdit

variable {e : WorkspaceEdit} {cs : List DocumentChange} {plan : EditPlan}

/-- The edits that are planned for a document, if it is in the plan at all. -/
def planned (e : WorkspaceEdit) (uri : Uri) : Option (List TextEdit) :=
  (planRename e).bind fun plan => Keyed.get? uri plan.changes

lemma proposals_of_documentChanges (h : e.documentChanges = some cs) (hne : cs ≠ []) :
    e.proposals = cs.filterMap DocumentChange.edits? := by
  obtain ⟨c, cs, rfl⟩ := List.exists_cons_of_ne_nil hne
  rw [proposals, h]

lemma proposals_of_no_documentChanges (h : e.documentChanges.getD [] = []) :
    e.proposals = e.changes.getD [] := by
  rw [proposals]
  split
  · rename_i c cs hcs
    rw [hcs] at h
    cases h
  · rfl

lemma planRename_eq_some_iff :
    planRename e = some plan ↔ e.proposals ≠ [] ∧ plan.changes = Keyed.gather e.proposals := by
  obtain ⟨changes⟩ := plan
  by_cases h : e.proposals = []
  · simp [planRename, h, Keyed.gather]
  · have hne : Keyed.gather e.proposals ≠ [] := mt Keyed.gather_eq_nil_iff.mp h
    have hplan : planRename e = some ⟨Keyed.gather e.proposals⟩ := by simp [planRename, hne]
    rw [hplan, Option.some.injEq, EditPlan.mk.injEq, eq_comm (a := changes)]
    exact (and_iff_right h).symm

lemma planRename_eq_none_iff : planRename e = none ↔ e.proposals = [] := by
  by_cases h : e.proposals = []
  · simp [planRename, h, Keyed.gather]
  · simp [planRename, h, Keyed.gather_eq_nil_iff]

lemma planned_eq (e : WorkspaceEdit) (uri : Uri) :
    e.planned uri = Keyed.get? uri (Keyed.gather e.proposals) := by
  unfold planned
  cases h : planRename e with
  | none =>
    rw [planRename_eq_none_iff.mp h]
    rfl
  | some plan => rw [Option.bind_some, (planRename_eq_some_iff.mp h).2]

/-- A list of changes that has anything in it makes the plan, whatever the map holds: every document
that it edits gets all its edits in their order, and no other document is in the plan. Operations on
files can be left out, if an edit is left. Without a list the plan is the map. There is none when the
list has no edits, or the map is taken and empty. -/
theorem planRename_conserves_edits (e : WorkspaceEdit) :
    (∀ cs, e.documentChanges = some cs → cs ≠ [] →
      (∀ plan, planRename e = some plan →
        plan.changes.Pairwise fun x y => compare x.1 y.1 = .lt) ∧
      (∀ uri, e.planned uri =
        if cs.any (·.concerns uri) then some (cs.flatMap (·.editsFor uri)) else none) ∧
      (planRename e = none ↔ ∀ c ∈ cs, c.isEdit = false) ∧
      ((∃ c ∈ cs, c.isEdit = true) →
        planRename { e with documentChanges := some (cs.filter (·.isEdit)) } = planRename e)) ∧
    (e.documentChanges.getD [] = [] →
      (planRename e = none ↔ e.changes.getD [] = []) ∧
      ((e.changes.getD []).Pairwise (fun x y => compare x.1 y.1 = .lt) →
        ∀ plan, planRename e = some plan → plan.changes = e.changes.getD [])) := by
  constructor
  · intro cs hcs hne
    have hproposals := proposals_of_documentChanges hcs hne
    refine ⟨fun plan hplan => ?_, fun uri => ?_, ?_, fun hedit => ?_⟩
    · rw [(planRename_eq_some_iff.mp hplan).2]
      exact Keyed.ascending_gather _
    · rw [planned_eq, Keyed.get?_gather, hproposals, DocumentChange.any_filterMap_edits?,
        DocumentChange.under_filterMap_edits?]
    · rw [planRename_eq_none_iff, hproposals, List.filterMap_eq_nil_iff]
      simp only [DocumentChange.edits?_eq_none_iff]
    · have hleft : cs.filter (·.isEdit) ≠ [] := by
        obtain ⟨c, hc, hedit⟩ := hedit
        exact List.ne_nil_of_mem (List.mem_filter.mpr ⟨hc, hedit⟩)
      have hsame : WorkspaceEdit.proposals { e with documentChanges := some (cs.filter (·.isEdit)) } =
          e.proposals := by
        rw [proposals_of_documentChanges rfl hleft, hproposals,
          DocumentChange.filterMap_filter_isEdit]
      simp only [planRename, hsame]
  · intro hnone
    have hproposals := proposals_of_no_documentChanges hnone
    refine ⟨by rw [planRename_eq_none_iff, hproposals], fun hascending plan hplan => ?_⟩
    rw [(planRename_eq_some_iff.mp hplan).2, hproposals, Keyed.gather_of_ascending hascending]

/-- A change with a list that edits the file `b` twice and the file `a` not at all, with an operation
between, and with a map that edits the files `a` and `c`. -/
def mixedEdit : WorkspaceEdit :=
  let name : Range := ⟨⟨0, 0⟩, ⟨0, 1⟩⟩
  { changes := some [(.ofNames [[0x61]], [⟨name, "x"⟩]), (.ofNames [[0x63]], [⟨name, "x"⟩])]
    documentChanges := some
      [.edit ⟨.ofNames [[0x62]], none, [.annotated ⟨name, "y"⟩ "late"]⟩,
        .operation (.delete (.ofNames [[0x62]]) none), .edit ⟨.ofNames [[0x61]], none, []⟩,
        .edit ⟨.ofNames [[0x62]], some 1, [.plain ⟨name, "z"⟩]⟩]
    remarks := none }

/-- The list makes the plan, with the operation or without it, and the map does when there is no
list. -/
theorem planRename_mixedEdit :
    (mixedEdit.planned (.ofNames [[0x62]])).map (·.map TextEdit.newText) = some ["y", "z"] ∧
      mixedEdit.planned (.ofNames [[0x61]]) = some [] ∧
      mixedEdit.planned (.ofNames [[0x63]]) = none ∧
      planRename { mixedEdit with
        documentChanges := mixedEdit.documentChanges.map (·.filter (·.isEdit)) } =
          planRename mixedEdit ∧
      ∃ plan, planRename { mixedEdit with documentChanges := some [] } = some plan ∧
        plan.changes = mixedEdit.changes.getD [] := by
  obtain ⟨-, hplanned, -, hfilter⟩ :=
    (planRename_conserves_edits mixedEdit).1 _ rfl (List.cons_ne_nil _ _)
  have hmap := (planRename_conserves_edits { mixedEdit with documentChanges := some [] }).2 rfl
  obtain ⟨plan, hplan⟩ := Option.ne_none_iff_exists'.mp (mt hmap.1.mp (List.cons_ne_nil _ _))
  refine ⟨?_, ?_, ?_, hfilter ⟨_, List.mem_cons_self, rfl⟩, plan, hplan, hmap.2 ?_ plan hplan⟩
  · rw [hplanned]
    decide
  · rw [hplanned]
    decide
  · rw [hplanned]
    decide
  · decide

end WorkspaceEdit

end Outline
