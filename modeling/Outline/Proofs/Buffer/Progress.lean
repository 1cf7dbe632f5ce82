import Outline.Proofs.Buffer.Commit

/-!
# When a commit succeeds

Nothing but the documents themselves can stop a commit: it succeeds exactly when every temporary
file can be written where nothing is yet, and every document is a file that can be replaced.
-/

namespace Outline

open Disk PendingDocument

/-- The new texts of documents are in their temporary files. -/
def Written (d : Disk) (docs : List PendingDocument) : Prop :=
  ∀ doc ∈ docs, d.lookup doc.temporary.place = some (.file doc.text.toUTF8)

namespace Stage

variable {before d : Disk} {rest done docs : List PendingDocument} {doc : PendingDocument}

lemma write_eq_ok (h : Stage before rest [] d) (hsited : Sited before docs) (hdoc : doc ∈ docs)
    (hapart : ∀ e ∈ rest, e.temporary.place ≠ doc.temporary.place) (hvacant : Vacant before doc) :
    d.writeText doc.temporary doc.text =
      .ok (d.set doc.temporary.place (.file doc.text.toUTF8)) := by
  have hlocated := h.sameTree.located (hsited.temporary doc hdoc)
  refine hlocated.write_eq_ok_iff.mpr ⟨h.sameTree.open_iff.mp hvacant.1, ?_, rfl⟩
  rw [h.kept _ hapart (by simp), hvacant.2]
  simp

lemma writeTemporaries_eq_none (h : Stage before rest [] d) (hsited : Sited before (rest ++ docs))
    (hvacant : ∀ doc ∈ docs, Vacant before doc) (hwritten : Written d rest) :
    ∃ d', PendingDocument.writeTemporaries d docs = (d', none) ∧ Written d' (rest ++ docs) := by
  induction docs generalizing rest d with
  | nil => exact ⟨d, rfl, by rwa [List.append_nil]⟩
  | cons doc docs ih =>
    obtain ⟨hfirst, hvacant⟩ := List.forall_mem_cons.mp hvacant
    have hdoc : doc ∈ rest ++ doc :: docs := by simp
    have hapart : ∀ e ∈ rest, e.temporary.place ≠ doc.temporary.place := fun e he =>
      ((List.pairwise_append.mp hsited.apart).2.2 e he doc List.mem_cons_self).2
    have hwrite := h.write_eq_ok hsited hdoc hapart hfirst
    obtain ⟨-, hstage⟩ := h.write hsited hdoc hapart hwrite
    have hnow : Written (d.set doc.temporary.place (.file doc.text.toUTF8)) (rest ++ [doc]) := by
      refine List.forall_mem_append.mpr ⟨fun e he => ?_, List.forall_mem_singleton.mpr ?_⟩
      · rw [lookup_set_of_ne (hapart e he).symm, hwritten e he]
      · rw [lookup_set_self (hsited.temporary doc hdoc).ne_nil]
    have hsplit : rest ++ doc :: docs = (rest ++ [doc]) ++ docs := by simp
    rw [writeTemporaries_cons_of_ok hwrite]
    rw [hsplit] at hsited ⊢
    exact ih hstage hsited hvacant hnow

lemma rename_eq_ok (h : Stage before (doc :: rest) done d) (hsited : Sited before docs)
    (hdoc : doc ∈ docs) (hvacant : Vacant before doc) (hreplaceable : Replaceable before doc)
    (hwritten : d.lookup doc.temporary.place = some (.file doc.text.toUTF8)) :
    d.rename doc.temporary doc.path =
      .ok ((d.erase doc.temporary.place).set doc.path.place (.file doc.text.toUTF8)) := by
  have htree := h.sameTree
  have hold := htree.located (hsited.temporary doc hdoc)
  have hnew := htree.located hreplaceable.located
  refine (hold.rename_eq_ok_iff hnew (hsited.temporary_ne hdoc hreplaceable)).mpr
    ⟨htree.open_iff.mp hvacant.1, htree.open_iff.mp hreplaceable.isOpen, ?_, _, hwritten, rfl⟩
  rw [ne_eq, ← htree.directory_iff, hreplaceable.holds]
  simp

lemma replaceAll_eq_none (h : Stage before rest done d) (hsited : Sited before (done ++ rest))
    (hready : ∀ doc ∈ rest, Vacant before doc ∧ Replaceable before doc) (hwritten : Written d rest) :
    (PendingDocument.replaceAll done d rest).2 = none := by
  induction rest generalizing done d with
  | nil => rfl
  | cons doc rest ih =>
    obtain ⟨⟨hvacant, hreplaceable⟩, hready⟩ := List.forall_mem_cons.mp hready
    obtain ⟨hfirst, hwritten⟩ := List.forall_mem_cons.mp hwritten
    have hdocs : ∀ e ∈ doc :: rest, e ∈ done ++ doc :: rest :=
      fun e he => List.mem_append_right done he
    obtain ⟨-, hrest, hcross⟩ := List.pairwise_append.mp hsited.apart
    have hapart := (List.pairwise_cons.mp hrest).1
    have hrename := h.rename_eq_ok hsited (hdocs doc List.mem_cons_self) hvacant hreplaceable hfirst
    have hstage := h.rename hsited hdocs hvacant (fun e he => (hapart e he).2)
      (fun e he => (hcross e he doc List.mem_cons_self).1) hrename
    have hnow : Written ((d.erase doc.temporary.place).set doc.path.place
        (.file doc.text.toUTF8)) rest := by
      intro e he
      have hfile := hsited.temporary_ne (hdocs e (List.mem_cons_of_mem doc he)) hreplaceable
      rw [lookup_set_of_ne hfile.symm, lookup_erase_of_ne (hapart e he).2, hwritten e he]
    have hsplit : done ++ doc :: rest = (done ++ [doc]) ++ rest := by simp
    rw [replaceAll_cons_of_ok hrename]
    rw [hsplit] at hsited
    exact ih hstage hsited hready hnow

end Stage

/-- A commit succeeds exactly when the temporary files can be written and the documents can be
replaced. -/
lemma commit_eq_none_iff {before : Disk} {docs : List PendingDocument} (hsited : Sited before docs) :
    (commit before docs).2 = none ↔ ∀ doc ∈ docs, Vacant before doc ∧ Replaceable before doc := by
  constructor
  · intro hnone doc hdoc
    have hstage := commit_stage hsited
    rcases hcommit : commit before docs with ⟨d, e⟩
    rw [hcommit] at hnone hstage
    subst hnone
    exact ⟨hstage.2 doc hdoc, (hstage.1.replaced doc hdoc).1⟩
  · intro hready
    obtain ⟨d, hwrites, hwritten⟩ := (Stage.refl before).writeTemporaries_eq_none hsited
      (fun doc hdoc => (hready doc hdoc).1) (by simp [Written])
    have hstage := ((Stage.refl before).writeTemporaries hsited).1
    rw [hwrites, List.nil_append] at hstage
    rw [commit, hwrites]
    exact hstage.replaceAll_eq_none hsited hready hwritten

end Outline
