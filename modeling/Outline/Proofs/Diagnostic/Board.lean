import Mathlib.Data.List.Induction
import Outline.Diagnostic.Board
import Outline.Proofs.Keyed

/-!
# What stands on the board

A publication writes over what was published for its document before and leaves every other document
alone. `Tidy` says that the documents are in the order of their URIs and that each of them has
diagnostics; every publication keeps it. So after a run of publications the board lists the documents
whose last publication had diagnostics, with these.
-/

namespace Outline

/-- The diagnostics of the last of these publications for a document, if there is one. -/
def lastPublished (ps : List Publication) (uri : Uri) : List Diagnostic :=
  ((ps.filter fun p => p.uri.text = uri.text).getLast?.map Publication.diagnostics).getD []

namespace Board

/-- The board after some publications. -/
def after (ps : List Publication) : Board := ps.foldl publish []

/-- The documents stand in the order of their URIs, and each of them has diagnostics. -/
structure Tidy (board : Board) : Prop where
  ascending : board.Pairwise fun x y => compare x.1 y.1 = .lt
  filled    : ∀ e ∈ board, e.2 ≠ []

variable {board : Board} {uri : Uri} {ds : List Diagnostic}

/-! ### One publication -/

lemma Tidy.publish (h : board.Tidy) (p : Publication) : (board.publish p).Tidy := by
  unfold Board.publish
  split
  · have hsub := Keyed.erase_sublist p.uri board
    exact ⟨h.ascending.sublist hsub, fun e he => h.filled e (hsub.subset he)⟩
  · rename_i hnonempty
    have hfilled : p.diagnostics ≠ [] := by simpa using hnonempty
    exact ⟨Keyed.ascending_upsert p.uri _ h.ascending,
      Keyed.forall_mem_upsert (P := (· ≠ [])) hfilled (fun _ _ => hfilled) h.filled p.uri⟩

/-- A publication is all that is known of its document, and changes nothing about the others. -/
lemma Tidy.get_publish (h : board.Tidy) (p : Publication) (uri : Uri) :
    (board.publish p).get uri = if p.uri.text = uri.text then p.diagnostics else board.get uri := by
  unfold Board.publish Board.get
  by_cases hsame : p.uri.text = uri.text
  · rw [if_pos hsame, Keyed.get?_congr (Uri.compare_eq_iff.mpr hsame.symm)]
    split
    · rename_i hempty
      rw [Keyed.get?_erase_self h.ascending, Option.getD_none, List.isEmpty_iff.mp hempty]
    · rw [Keyed.get?_insert_self, Option.getD_some]
  · have hne : compare uri p.uri ≠ .eq := fun heq => hsame (Uri.compare_eq_iff.mp heq).symm
    rw [if_neg hsame]
    split
    · rw [Keyed.get?_erase_of_ne hne]
    · rw [Keyed.get?_insert_of_ne hne]

/-- What is listed of a document is what is known of it, if that is anything. -/
lemma Tidy.exists_mem_iff (h : board.Tidy) :
    (∃ e ∈ board, e.1.text = uri.text ∧ e.2 = ds) ↔ board.get uri = ds ∧ ds ≠ [] := by
  unfold Board.get
  constructor
  · rintro ⟨e, he, hsame, rfl⟩
    rw [Keyed.get?_eq_some_of_mem h.ascending he (Uri.compare_eq_iff.mpr hsame.symm)]
    exact ⟨rfl, h.filled e he⟩
  · rintro ⟨hget, hne⟩
    cases hfound : Keyed.get? uri board with
    | none =>
      rw [hfound] at hget
      exact absurd hget.symm hne
    | some ds' =>
      rw [hfound] at hget
      obtain ⟨e, he, hkey, heq⟩ := Keyed.exists_of_get?_eq_some hfound
      exact ⟨e, he, (Uri.compare_eq_iff.mp hkey).symm, heq.trans hget⟩

/-! ### Runs of publications -/

lemma after_concat (ps : List Publication) (p : Publication) :
    after (ps ++ [p]) = (after ps).publish p := by
  rw [after, List.foldl_append, List.foldl_cons, List.foldl_nil, after]

lemma tidy_after (ps : List Publication) : (after ps).Tidy := by
  induction ps using List.reverseRecOn with
  | nil => exact ⟨.nil, by simp [after]⟩
  | append_singleton ps p ih =>
    rw [after_concat]
    exact ih.publish p

lemma get_after (ps : List Publication) (uri : Uri) : (after ps).get uri = lastPublished ps uri := by
  induction ps using List.reverseRecOn with
  | nil => rfl
  | append_singleton ps p ih =>
    rw [after_concat, (tidy_after ps).get_publish, ih, lastPublished, lastPublished,
      List.filter_append]
    by_cases hsame : p.uri.text = uri.text
    · simp [hsame]
    · simp [hsame]

/-- After any publications, the board knows of each document what was published last for it, and
lists just the documents of which that is anything, each once and in the order of their URIs. The
publications for other documents might as well not have been made. -/
theorem after_reflects_last (ps : List Publication) :
    (∀ uri, (after ps).get uri = lastPublished ps uri) ∧
      ((after ps).Pairwise fun x y => x.1.text < y.1.text) ∧
      (∀ uri ds, (∃ e ∈ after ps, e.1.text = uri.text ∧ e.2 = ds) ↔
        lastPublished ps uri = ds ∧ ds ≠ []) ∧
      ∀ uri, (after ps).get uri = (after (ps.filter fun p => p.uri.text = uri.text)).get uri := by
  refine ⟨get_after ps, (tidy_after ps).ascending.imp Uri.compare_lt_iff.mp, fun uri ds => ?_,
    fun uri => ?_⟩
  · rw [(tidy_after ps).exists_mem_iff, get_after]
  · rw [get_after, get_after, lastPublished, lastPublished, List.filter_filter]
    simp

end Board

end Outline
