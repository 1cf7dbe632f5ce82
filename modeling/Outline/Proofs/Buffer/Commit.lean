import Outline.Buffer.Commit
import Outline.Proofs.Disk.Located

/-!
# Writing documents as one change

The disk passes through stages while documents are committed. In each stage some documents have been
replaced, some still have their temporary files, and everything else is as it was. Writing, renaming
and removing a temporary file and putting an old text back each lead from one stage to another, so a
commit that fails anywhere ends in the stage in which nothing has been done.
-/

namespace Outline

open Disk PendingDocument

/-! ### One document after the other -/

namespace PendingDocument

variable {d d' : Disk} {doc : PendingDocument} {e : IoError}

lemma writeTemporaries_cons_of_ok (h : d.writeText doc.temporary doc.text = .ok d')
    (docs : List PendingDocument) :
    writeTemporaries d (doc :: docs) = writeTemporaries d' docs := by
  rw [writeTemporaries, h]

lemma writeTemporaries_cons_of_error (h : d.writeText doc.temporary doc.text = .error e)
    (docs : List PendingDocument) :
    writeTemporaries d (doc :: docs) = ((writeTemporaries d docs).1, some e) := by
  rw [writeTemporaries, h]

lemma replaceAll_cons_of_ok (h : d.rename doc.temporary doc.path = .ok d')
    (done docs : List PendingDocument) :
    replaceAll done d (doc :: docs) = replaceAll (done ++ [doc]) d' docs := by
  rw [replaceAll, h]

lemma replaceAll_cons_of_error (h : d.rename doc.temporary doc.path = .error e)
    (done docs : List PendingDocument) :
    replaceAll done d (doc :: docs) =
      (restore (removeTemporaries d (doc :: docs)) done, some e) := by
  rw [replaceAll, h]

end PendingDocument

/-! ### Documents and their temporary files on a disk -/

/-- Documents that can be committed to a disk: every document is a file with its old text or a
directory, or has a path that ends in a slash, which nothing can be renamed to. Nothing but a
directory is in the way of a temporary file. -/
structure Sited (d : Disk) (docs : List PendingDocument) : Prop where
  temporary : ∀ doc ∈ docs, Located d doc.temporary
  free      : ∀ doc ∈ docs, Open d doc.temporary →
    d.lookup doc.temporary.place = none ∨ d.lookup doc.temporary.place = some .directory
  target    : ∀ doc ∈ docs, doc.path.endsInSlash = true ∨ Located d doc.path ∧ Open d doc.path ∧
    (d.lookup doc.path.place = some (.file doc.previous.toUTF8) ∨
      d.lookup doc.path.place = some .directory)
  apart     : docs.Pairwise fun a b =>
    a.path.place ≠ b.path.place ∧ a.temporary.place ≠ b.temporary.place

/-- The temporary file of a document can be written, and nothing has its name. -/
def Vacant (d : Disk) (doc : PendingDocument) : Prop :=
  Open d doc.temporary ∧ d.lookup doc.temporary.place = none

/-- The file of a document can be replaced. -/
structure Replaceable (d : Disk) (doc : PendingDocument) : Prop where
  located : Located d doc.path
  isOpen  : Open d doc.path
  holds   : d.lookup doc.path.place = some (.file doc.previous.toUTF8)

namespace Sited

variable {d : Disk} {docs : List PendingDocument} {doc other : PendingDocument}

lemma append_right {docs' : List PendingDocument} (h : Sited d (docs' ++ docs)) : Sited d docs where
  temporary := fun e he => h.temporary e (List.mem_append_right docs' he)
  free      := fun e he => h.free e (List.mem_append_right docs' he)
  target    := fun e he => h.target e (List.mem_append_right docs' he)
  apart     := (List.pairwise_append.mp h.apart).2.1

lemma vacant (h : Sited d docs) (hdoc : doc ∈ docs) (hopen : Open d doc.temporary)
    (hdir : d.lookup doc.temporary.place ≠ some .directory) : Vacant d doc :=
  ⟨hopen, (h.free doc hdoc hopen).resolve_right hdir⟩

/-- The file of a document is never in the way of a temporary file. -/
lemma temporary_ne (h : Sited d docs) (hdoc : doc ∈ docs) (hother : Replaceable d other) :
    doc.temporary.place ≠ other.path.place := by
  intro heq
  have hpath : doc.temporary = other.path := by
    rw [(h.temporary doc hdoc).literal, hother.located.literal, heq]
  rcases h.free doc hdoc (hpath ▸ hother.isOpen) with hnone | hdir
  · rw [heq, hother.holds] at hnone
    cases hnone
  · rw [heq, hother.holds] at hdir
    cases hdir

end Sited

/-! ### Stages -/

/-- The disk `d` when the documents `done` have been replaced and those of `rest` may have their
temporary files, while all else is as it was on the disk `before`. -/
structure Stage (before : Disk) (rest done : List PendingDocument) (d : Disk) : Prop where
  pending  : ∀ doc ∈ rest, d.lookup doc.temporary.place = before.lookup doc.temporary.place ∨
    Vacant before doc ∧ d.lookup doc.temporary.place = some (.file doc.text.toUTF8)
  replaced : ∀ doc ∈ done, Replaceable before doc ∧
    d.lookup doc.path.place = some (.file doc.text.toUTF8)
  kept     : ∀ x, (∀ doc ∈ rest, doc.temporary.place ≠ x) → (∀ doc ∈ done, doc.path.place ≠ x) →
    d.lookup x = before.lookup x

namespace Stage

variable {before d d' : Disk} {rest done : List PendingDocument} {doc : PendingDocument}

lemma refl (d : Disk) : Stage d [] [] d where
  pending  := by simp
  replaced := by simp
  kept     := by simp

/-- Nothing has been done, or all that was done has been undone. -/
lemma lookup_eq (h : Stage before [] [] d) (x : Place) : d.lookup x = before.lookup x :=
  h.kept x (by simp) (by simp)

/-- In every stage, places have what they had or both then and now no directory or link. -/
lemma lookup_eq_or (h : Stage before rest done d) (x : Place) :
    d.lookup x = before.lookup x ∨ (∃ content, d.lookup x = some (.file content)) ∧
      (before.lookup x = none ∨ ∃ content, before.lookup x = some (.file content)) := by
  by_cases hrest : ∃ doc ∈ rest, doc.temporary.place = x
  · obtain ⟨doc, hdoc, rfl⟩ := hrest
    rcases h.pending doc hdoc with heq | ⟨hvacant, hnew⟩
    · exact .inl heq
    · exact .inr ⟨⟨_, hnew⟩, .inl hvacant.2⟩
  · by_cases hdone : ∃ doc ∈ done, doc.path.place = x
    · obtain ⟨doc, hdoc, rfl⟩ := hdone
      obtain ⟨hreplaceable, hnew⟩ := h.replaced doc hdoc
      exact .inr ⟨⟨_, hnew⟩, .inr ⟨_, hreplaceable.holds⟩⟩
    · exact .inl (h.kept x (fun doc hdoc heq => hrest ⟨doc, hdoc, heq⟩)
        fun doc hdoc heq => hdone ⟨doc, hdoc, heq⟩)

lemma sameTree (h : Stage before rest done d) : SameTree before d := by
  intro x entry hentry
  rcases h.lookup_eq_or x with heq | ⟨⟨content, hnew⟩, hold⟩
  · rw [heq]
  · rw [hnew]
    constructor
    · intro hbefore
      rcases hold with hnone | ⟨content', hfile⟩
      · rw [hnone] at hbefore
        cases hbefore
      · rw [hfile, Option.some.injEq] at hbefore
        exact absurd hbefore.symm (hentry content')
    · intro hnow
      rw [Option.some.injEq] at hnow
      exact absurd hnow.symm (hentry content)

/-! ### Steps from stage to stage -/

variable {docs : List PendingDocument}

/-- A temporary file is written where nothing was. -/
lemma write (h : Stage before rest [] d) (hsited : Sited before docs) (hdoc : doc ∈ docs)
    (hapart : ∀ e ∈ rest, e.temporary.place ≠ doc.temporary.place)
    (hwrite : d.writeText doc.temporary doc.text = .ok d') :
    Vacant before doc ∧ Stage before (rest ++ [doc]) [] d' := by
  have hlocated := hsited.temporary doc hdoc
  have hsame := h.kept doc.temporary.place hapart (by simp)
  obtain ⟨hopen, hdir, rfl⟩ := (h.sameTree.located hlocated).write_eq_ok_iff.mp hwrite
  rw [hsame] at hdir
  have hvacant := hsited.vacant hdoc (h.sameTree.open_iff.mpr hopen) hdir
  refine ⟨hvacant, ?_, by simp, ?_⟩
  · intro e he
    rcases List.mem_append.mp he with he | he
    · rw [lookup_set_of_ne (hapart e he).symm]
      exact h.pending e he
    · rw [List.mem_singleton.mp he, lookup_set_self hlocated.ne_nil]
      exact .inr ⟨hvacant, rfl⟩
  · intro x hx _
    rw [List.forall_mem_append] at hx
    rw [lookup_set_of_ne (hx.2 doc (by simp))]
    exact h.kept x hx.1 (by simp)

/-- A temporary file that cannot be written leaves the stage as it is. -/
lemma skip (h : Stage before rest [] d)
    (hapart : ∀ e ∈ rest, e.temporary.place ≠ doc.temporary.place) :
    Stage before (rest ++ [doc]) [] d where
  pending := by
    intro e he
    rcases List.mem_append.mp he with he | he
    · exact h.pending e he
    · rw [List.mem_singleton.mp he]
      exact .inl (h.kept _ hapart (by simp))
  replaced := by simp
  kept := fun x hx _ => h.kept x (List.forall_mem_append.mp hx).1 (by simp)

/-- A rename that succeeds moves the new text over a file with the old one. -/
lemma rename_eq (h : Stage before (doc :: rest) done d) (hsited : Sited before docs)
    (hdoc : doc ∈ docs) (hvacant : Vacant before doc)
    (hrename : d.rename doc.temporary doc.path = .ok d') :
    Replaceable before doc ∧
      d' = (d.erase doc.temporary.place).set doc.path.place (.file doc.text.toUTF8) := by
  have htree := h.sameTree
  rcases hsited.target doc hdoc with hslash | ⟨hlocated, hopen, hholds⟩
  · exact absurd hrename (rename_ne_ok_of_endsInSlash hslash)
  -- the two places are not the same, since something stands at one of them only
  have hne : doc.temporary.place ≠ doc.path.place := by
    intro heq
    have hnone := hvacant.2
    rw [heq] at hnone
    rcases hholds with hfile | hdir
    · simp [hnone] at hfile
    · simp [hnone] at hdir
  obtain ⟨-, -, hdir, entry, hentry, rfl⟩ := ((htree.located
    (hsited.temporary doc hdoc)).rename_eq_ok_iff (htree.located hlocated) hne).mp hrename
  have hfile := hholds.resolve_right fun hd => hdir ((htree.directory_iff _).mp hd)
  refine ⟨⟨hlocated, hopen, hfile⟩, ?_⟩
  rcases h.pending doc List.mem_cons_self with hold | ⟨-, hnew⟩
  · rw [hold, hvacant.2] at hentry
    cases hentry
  · rw [hnew, Option.some.injEq] at hentry
    rw [hentry]

/-- A temporary file is renamed over its document. -/
lemma rename (h : Stage before (doc :: rest) done d) (hsited : Sited before docs)
    (hdocs : ∀ e ∈ doc :: rest, e ∈ docs) (hvacant : Vacant before doc)
    (hrest : ∀ e ∈ rest, doc.temporary.place ≠ e.temporary.place)
    (hdone : ∀ e ∈ done, e.path.place ≠ doc.path.place)
    (hrename : d.rename doc.temporary doc.path = .ok d') :
    Stage before rest (done ++ [doc]) d' := by
  have hdoc := hdocs doc List.mem_cons_self
  obtain ⟨hreplaceable, rfl⟩ := h.rename_eq hsited hdoc hvacant hrename
  constructor
  case pending =>
    intro e he
    have hfile := hsited.temporary_ne (hdocs e (List.mem_cons_of_mem doc he)) hreplaceable
    rw [lookup_set_of_ne hfile.symm, lookup_erase_of_ne (hrest e he)]
    exact h.pending e (List.mem_cons_of_mem doc he)
  case replaced =>
    intro e he
    rcases List.mem_append.mp he with he | he
    · obtain ⟨he', hnew⟩ := h.replaced e he
      rw [lookup_set_of_ne (hdone e he).symm, lookup_erase_of_ne (hsited.temporary_ne hdoc he')]
      exact ⟨he', hnew⟩
    · rw [List.mem_singleton.mp he, lookup_set_self hreplaceable.located.ne_nil]
      exact ⟨hreplaceable, rfl⟩
  case kept =>
    intro x hx hx'
    rw [List.forall_mem_append] at hx'
    rw [lookup_set_of_ne (hx'.2 doc (by simp))]
    by_cases heq : doc.temporary.place = x
    · subst heq
      rw [lookup_erase_self (hsited.temporary doc hdoc).ne_nil, hvacant.2]
    · rw [lookup_erase_of_ne heq]
      exact h.kept x (List.forall_mem_cons.mpr ⟨heq, hx⟩) hx'.1

/-- A temporary file is removed if it was written; what was there before stays. -/
lemma remove (h : Stage before (doc :: rest) done d) (hsited : Sited before docs)
    (hdoc : doc ∈ docs) (hrest : ∀ e ∈ rest, doc.temporary.place ≠ e.temporary.place) :
    Stage before rest done ((d.unlink doc.temporary).toOption.getD d) := by
  have hlocated := hsited.temporary doc hdoc
  have hunlink := fun d' => @Located.unlink_eq_ok_iff d d' _ (h.sameTree.located hlocated)
  rcases h.pending doc List.mem_cons_self with hold | ⟨hvacant, hnew⟩
  · -- only a directory could be there, which is not removed
    have herror : (d.unlink doc.temporary).toOption = none := by
      cases hresult : d.unlink doc.temporary with
      | error e => rfl
      | ok d' =>
        obtain ⟨hopen, hnone, hdir, -⟩ := (hunlink d').mp hresult
        rw [hold] at hnone hdir
        rcases hsited.free doc hdoc (h.sameTree.open_iff.mpr hopen) with hfree | hfree
        · exact absurd hfree hnone
        · exact absurd hfree hdir
    rw [herror, Option.getD_none]
    refine ⟨fun e he => h.pending e (List.mem_cons_of_mem doc he), h.replaced, fun x hx hx' => ?_⟩
    by_cases heq : doc.temporary.place = x
    · rw [← heq, hold]
    · exact h.kept x (List.forall_mem_cons.mpr ⟨heq, hx⟩) hx'
  · have hok : d.unlink doc.temporary = .ok (d.erase doc.temporary.place) :=
      (hunlink _).mpr ⟨h.sameTree.open_iff.mp hvacant.1, by simp [hnew], by simp [hnew], rfl⟩
    rw [hok]
    change Stage before rest done (d.erase doc.temporary.place)
    refine ⟨fun e he => ?_, fun e he => ?_, fun x hx hx' => ?_⟩
    · rw [lookup_erase_of_ne (hrest e he)]
      exact h.pending e (List.mem_cons_of_mem doc he)
    · obtain ⟨he', hnew'⟩ := h.replaced e he
      rw [lookup_erase_of_ne (hsited.temporary_ne hdoc he')]
      exact ⟨he', hnew'⟩
    · by_cases heq : doc.temporary.place = x
      · subst heq
        rw [lookup_erase_self hlocated.ne_nil, hvacant.2]
      · rw [lookup_erase_of_ne heq]
        exact h.kept x (List.forall_mem_cons.mpr ⟨heq, hx⟩) hx'

/-- A document gets its old text back. -/
lemma restore (h : Stage before [] (doc :: done) d)
    (hdone : ∀ e ∈ done, doc.path.place ≠ e.path.place) :
    Stage before [] done ((d.writeText doc.path doc.previous).toOption.getD d) := by
  obtain ⟨hreplaceable, hnew⟩ := h.replaced doc List.mem_cons_self
  have hlocated := hreplaceable.located
  have hok : d.writeText doc.path doc.previous =
      .ok (d.set doc.path.place (.file doc.previous.toUTF8)) :=
    (h.sameTree.located hlocated).write_eq_ok_iff.mpr
      ⟨h.sameTree.open_iff.mp hreplaceable.isOpen, by simp [hnew], rfl⟩
  rw [hok]
  change Stage before [] done (d.set doc.path.place (.file doc.previous.toUTF8))
  refine ⟨by simp, fun e he => ?_, fun x hx hx' => ?_⟩
  · rw [lookup_set_of_ne (hdone e he)]
    exact h.replaced e (List.mem_cons_of_mem doc he)
  · by_cases heq : doc.path.place = x
    · subst heq
      rw [lookup_set_self hlocated.ne_nil, hreplaceable.holds]
    · rw [lookup_set_of_ne heq]
      exact h.kept x hx (List.forall_mem_cons.mpr ⟨heq, hx'⟩)

/-! ### Runs -/

/-- Writing the temporary files. When all were written, nothing stood in their way. -/
lemma writeTemporaries (h : Stage before rest [] d) (hsited : Sited before (rest ++ docs)) :
    Stage before (rest ++ docs) [] (PendingDocument.writeTemporaries d docs).1 ∧
      ((PendingDocument.writeTemporaries d docs).2 = none → ∀ doc ∈ docs, Vacant before doc) := by
  induction docs generalizing rest d with
  | nil => exact ⟨by rwa [List.append_nil], by simp⟩
  | cons doc docs ih =>
    have hdoc : doc ∈ rest ++ doc :: docs := by simp
    have hapart : ∀ e ∈ rest, e.temporary.place ≠ doc.temporary.place := fun e he =>
      ((List.pairwise_append.mp hsited.apart).2.2 e he doc List.mem_cons_self).2
    have hsplit : rest ++ doc :: docs = (rest ++ [doc]) ++ docs := by simp
    have hsited' := hsited
    rw [hsplit] at hsited' ⊢
    cases hwrite : d.writeText doc.temporary doc.text with
    | ok d' =>
      obtain ⟨hvacant, hstage⟩ := h.write hsited hdoc hapart hwrite
      obtain ⟨hrun, hall⟩ := ih hstage hsited'
      rw [writeTemporaries_cons_of_ok hwrite]
      exact ⟨hrun, fun hnone => List.forall_mem_cons.mpr ⟨hvacant, hall hnone⟩⟩
    | error e =>
      rw [writeTemporaries_cons_of_error hwrite]
      exact ⟨(ih (h.skip hapart) hsited').1, by simp⟩

lemma removeTemporaries (h : Stage before rest done d) (hsited : Sited before rest) :
    Stage before [] done (PendingDocument.removeTemporaries d rest) := by
  induction rest generalizing d with
  | nil => exact h
  | cons doc rest ih =>
    have hsited' : Sited before ([doc] ++ rest) := hsited
    rw [PendingDocument.removeTemporaries, List.foldl_cons]
    refine ih (h.remove hsited List.mem_cons_self fun e he => ?_) hsited'.append_right
    exact ((List.pairwise_cons.mp hsited.apart).1 e he).2

/-- Putting back the old texts of all documents that were replaced. -/
lemma restoreAll (h : Stage before [] done d)
    (hapart : done.Pairwise fun a b => a.path.place ≠ b.path.place) :
    Stage before [] [] (PendingDocument.restore d done) := by
  induction done generalizing d with
  | nil => exact h
  | cons doc done ih =>
    rw [List.pairwise_cons] at hapart
    rw [PendingDocument.restore, List.foldl_cons]
    exact ih (h.restore hapart.1) hapart.2

/-- Renaming the temporary files over their documents leads to all of them being replaced, or back
to none. -/
lemma replaceAll (h : Stage before rest done d) (hsited : Sited before (done ++ rest))
    (hvacant : ∀ doc ∈ rest, Vacant before doc) :
    match PendingDocument.replaceAll done d rest with
    | (d', none)   => Stage before [] (done ++ rest) d'
    | (d', some _) => Stage before [] [] d' := by
  induction rest generalizing done d with
  | nil =>
    rw [List.append_nil]
    exact h
  | cons doc rest ih =>
    obtain ⟨hdone, hrest, hcross⟩ := List.pairwise_append.mp hsited.apart
    cases hrename : d.rename doc.temporary doc.path with
    | ok d' =>
      have hsplit : done ++ doc :: rest = (done ++ [doc]) ++ rest := by simp
      have hstage := h.rename hsited (fun e he => List.mem_append_right done he)
        (hvacant doc List.mem_cons_self) (fun e he => ((List.pairwise_cons.mp hrest).1 e he).2)
        (fun e he => (hcross e he doc List.mem_cons_self).1) hrename
      rw [hsplit] at hsited ⊢
      rw [replaceAll_cons_of_ok hrename]
      exact ih hstage hsited fun e he => hvacant e (List.mem_cons_of_mem doc he)
    | error e =>
      have hsited' : Sited before (doc :: rest) := hsited.append_right
      rw [replaceAll_cons_of_error hrename]
      exact (h.removeTemporaries hsited').restoreAll (hdone.imp And.left)

end Stage

/-- A commit replaces all documents and changes nothing else, or changes nothing at all. -/
lemma commit_stage {before : Disk} {docs : List PendingDocument} (hsited : Sited before docs) :
    match commit before docs with
    | (d, none)   => Stage before [] docs d ∧ ∀ doc ∈ docs, Vacant before doc
    | (d, some _) => ∀ x, d.lookup x = before.lookup x := by
  obtain ⟨hwritten, hvacant⟩ := (Stage.refl before).writeTemporaries hsited
  rw [List.nil_append] at hwritten
  unfold commit
  generalize writeTemporaries before docs = result at hwritten hvacant
  obtain ⟨d, e⟩ := result
  cases e with
  | some e => exact (hwritten.removeTemporaries hsited).lookup_eq
  | none =>
    have hreplaced := hwritten.replaceAll hsited (hvacant rfl)
    change match replaceAll [] d docs with
      | (d, none)   => Stage before [] docs d ∧ ∀ doc ∈ docs, Vacant before doc
      | (d, some _) => ∀ x, d.lookup x = before.lookup x
    generalize replaceAll [] d docs = result at hreplaced ⊢
    obtain ⟨d', e⟩ := result
    cases e with
    | some e => exact hreplaced.lookup_eq
    | none => exact ⟨hreplaced, hvacant rfl⟩

end Outline
