import Mathlib
import Outline.Proofs.Buffer.InLine
import Outline.Proofs.Disk.Drift

/-!
# Files that an edit set leaves alone

Besides its documents, applying an edit set reaches the files that its temporary files are written
over: those that have their names, and those that links with their names lead to. All other files
keep their contents, wherever the change fails. The temporary file of a document may be a link, which
is then renamed over the document, so putting old texts back can lead far away. But all links that
are moved lead to where a temporary file was written.
-/

namespace Outline

open Disk PendingDocument

/-! ### Documents at their places -/

/-- The document is known by the path that the URI of its place leads to. -/
structure Housed (d : Disk) (doc : PendingDocument) : Prop where
  path  : doc.path = Uri.pathOf doc.path.place
  solid : d.Solid doc.path.place

/-- The places of documents that something can be renamed to. -/
def Replaced (docs : List PendingDocument) (place : Place) : Prop :=
  ∃ doc ∈ docs, doc.path.place = place ∧ doc.path.endsInSlash = false

/-- The file at `x` is none of the documents, and no temporary file is written over it. -/
structure Spared (before : Disk) (docs : List PendingDocument) (x : Place) : Prop where
  isFile      : ∃ content, before.lookup x = some (.file content)
  housed      : ∀ doc ∈ docs, Housed before doc
  noDocument  : ∀ doc ∈ docs, doc.path.place ≠ x
  noTemporary : ∀ doc ∈ docs, before.writePlace doc.temporary ≠ .ok x

namespace Spared

variable {before d d' : Disk} {docs : List PendingDocument} {doc : PendingDocument} {x : Place}

/-- The temporary file of a document is a name in a place that stays solid, and so is the document,
in the same place, if anything can be renamed to it. -/
lemma exists_front (h : Spared before docs x) (hdoc : doc ∈ docs)
    (hdrift : Drift before (Replaced docs) x d) :
    ∃ front n, doc.temporary = Path.ofNames (front ++ [n]) ∧ Proper n ∧ before.Solid front ∧
      d.Solid front ∧ (doc.path.endsInSlash = false →
        ∃ m, Proper m ∧ doc.path = Path.ofNames (front ++ [m]) ∧ doc.path.place = front ++ [m]) := by
  obtain ⟨hpath, hsolid⟩ := h.housed doc hdoc
  obtain ⟨front, n, htemporary, hfront, hn, hcases⟩ := exists_temporary hsolid
  rw [← hpath] at htemporary hcases
  refine ⟨front, n, htemporary, hn, hfront, hdrift.solid hfront ?_, fun hslash => ?_⟩
  · rintro ⟨other, hother, hplace, hslash⟩
    rcases hcases with ⟨hends, rfl⟩ | ⟨m, hplace', -⟩
    · -- a document at the same place has the same path
      rw [(h.housed other hother).path, hplace, ← hpath, hends] at hslash
      cases hslash
    · exact hsolid.above front (hplace' ▸ List.prefix_append front [m]) (by simp [hplace'])
  · rcases hcases with ⟨hends, -⟩ | ⟨m, hplace, hliteral⟩
    · rw [hends] at hslash
      cases hslash
    · rw [hplace] at hliteral hsolid
      exact ⟨m, hsolid.proper m (by simp), hliteral, hplace⟩

section Steps

variable (h : Spared before docs x) (hdoc : doc ∈ docs)
  (hdrift : Drift before (Replaced docs) x d)
include h hdoc hdrift

/-- No temporary file has the name of `x`. -/
lemma ne_of_leaf {place : Place} (hleaf : d.leaf doc.temporary = .ok place) : place ≠ x := by
  obtain ⟨front, n, htemporary, hn, hfront, hfront', -⟩ := h.exists_front hdoc hdrift
  rw [htemporary, hfront'.leaf_ofNames_eq_ok_iff hn] at hleaf
  obtain ⟨⟨hcheck, hdir, hshort⟩, rfl⟩ := hleaf
  obtain ⟨content, hfile⟩ := h.isFile
  rintro rfl
  -- otherwise it would be written there
  have hplace := Path.place_ofNames (hfront.proper_concat hn)
  have hlocated : Located before (Path.ofNames (front ++ [n])) :=
    hfront.located hn fun _ target => by simp [hfile]
  refine h.noTemporary doc hdoc ?_
  rw [htemporary, hlocated.writePlace_eq_ok_iff, open_iff hplace, hplace, hfile,
    ← hdrift.directories front]
  exact ⟨⟨hcheck, hdir, hshort⟩, by simp, rfl⟩

/-! ### Steps -/

lemma remove : Drift before (Replaced docs) x ((d.unlink doc.temporary).toOption.getD d) := by
  cases hunlink : d.unlink doc.temporary with
  | error e => exact hdrift
  | ok d' =>
    obtain ⟨place, hleaf, hdir, rfl⟩ := exists_of_unlink hunlink
    exact hdrift.erase (h.ne_of_leaf hdoc hdrift hleaf) hdir

/-- A link that is renamed over its document leads to where the temporary file was written. -/
lemma rename {goal : Place} (hwritten : before.writePlace doc.temporary = .ok goal)
    (hrename : d.rename doc.temporary doc.path = .ok d') :
    Drift before (Replaced docs) x d' ∧ doc.path.endsInSlash = false := by
  obtain ⟨source, target, entry, hsource, htarget, hslash, hentry, hdir, hd'⟩ :=
    exists_of_rename hrename
  refine ⟨?_, hslash⟩
  rcases hd' with rfl | ⟨hapart, rfl⟩
  · exact hdrift
  have hne := h.ne_of_leaf hdoc hdrift hsource
  obtain ⟨front, n, htemporary, hn, hfront, hfront', htail⟩ := h.exists_front hdoc hdrift
  obtain ⟨m, hm, hpath, hplace⟩ := htail hslash
  rw [htemporary, hfront'.leaf_ofNames_eq_ok_iff hn] at hsource
  rw [hpath, hfront'.leaf_ofNames_eq_ok_iff hm] at htarget
  obtain ⟨-, rfl⟩ := hsource
  obtain ⟨-, rfl⟩ := htarget
  have hgoal : goal ≠ x := fun heq => h.noTemporary doc hdoc (heq ▸ hwritten)
  have hgoalDir := (writePlace_eq_ok_iff.mp hwritten).2.1
  rw [htemporary] at hwritten
  obtain ⟨hsourceDir, hlinks⟩ := hfront.writePlace_cases hn hwritten
  rw [ne_eq, ← hdrift.directories] at hsourceDir
  refine (hdrift.erase hne hsourceDir).set (hplace ▸ h.noDocument doc hdoc) ?_ ?_ ?_
  · rwa [lookup_erase_of_ne hapart]
  · rintro rfl
    exact hsourceDir hentry
  · rintro path rfl
    refine ⟨⟨doc, hdoc, hplace, hslash⟩, ?_⟩
    rcases hdrift.links _ _ hentry with hold | ⟨-, hpast⟩
    · obtain ⟨links, hleads⟩ := hlinks path hold
      refine ⟨links, goal, ?_, hgoalDir, hgoal⟩
      rwa [List.dropLast_concat]
    · rw [LeadsPast, List.dropLast_concat] at hpast ⊢
      exact hpast

/-- Putting an old text back does not reach `x`, by way of whatever links. -/
lemma restore (hslash : doc.path.endsInSlash = false) :
    Drift before (Replaced docs) x ((d.writeText doc.path doc.previous).toOption.getD d) := by
  cases hwrite : d.writeText doc.path doc.previous with
  | error e => exact hdrift
  | ok d' =>
    obtain ⟨goal, hgoal, rfl⟩ := write_eq_ok_iff.mp hwrite
    obtain ⟨hpath, hsolid⟩ := h.housed doc hdoc
    obtain ⟨content, hfile⟩ := h.isFile
    have hpieces := hsolid.pieces_pathOf
    rw [← hpath, hslash, if_neg Bool.false_ne_true, List.append_nil] at hpieces
    have hleads := leads_of_writePlace hgoal
    rw [hpieces] at hleads
    have hne := hdrift.ne_of_leads hfile (hsolid.leads 0) (h.noDocument doc hdoc) hleads
    exact hdrift.set hne (writePlace_eq_ok_iff.mp hgoal).2.1 (by simp) (by simp)

end Steps

/-- As long as only temporary files are written, they go where they would have gone at first. -/
lemma write (h : Spared before docs x) (hdoc : doc ∈ docs) (htree : SameTree before d)
    (hkept : d.lookup x = before.lookup x)
    (hwrite : d.writeText doc.temporary doc.text = .ok d') :
    (∃ goal, before.writePlace doc.temporary = .ok goal) ∧ SameTree before d' ∧
      d'.lookup x = before.lookup x := by
  obtain ⟨goal, hgoal, rfl⟩ := write_eq_ok_iff.mp hwrite
  obtain ⟨-, hdir, hlink⟩ := writePlace_eq_ok_iff.mp hgoal
  have hbefore := htree.symm.writePlace_eq_ok hgoal
  have hne : goal ≠ x := fun heq => h.noTemporary doc hdoc (heq ▸ hbefore)
  exact ⟨⟨goal, hbefore⟩, htree.set_file hdir hlink _, by rw [lookup_set_of_ne hne, hkept]⟩

/-! ### Runs -/

section Runs

variable (h : Spared before docs x) {rest done : List PendingDocument}
  (hrest : ∀ doc ∈ rest, doc ∈ docs)
include h hrest

lemma writeTemporaries (htree : SameTree before d) (hkept : d.lookup x = before.lookup x) :
    SameTree before (PendingDocument.writeTemporaries d rest).1 ∧
      (PendingDocument.writeTemporaries d rest).1.lookup x = before.lookup x ∧
      ((PendingDocument.writeTemporaries d rest).2 = none →
        ∀ doc ∈ rest, ∃ goal, before.writePlace doc.temporary = .ok goal) := by
  induction rest generalizing d with
  | nil => exact ⟨htree, hkept, by simp⟩
  | cons doc rest ih =>
    obtain ⟨hdoc, hrest⟩ := List.forall_mem_cons.mp hrest
    cases hwrite : d.writeText doc.temporary doc.text with
    | ok d' =>
      obtain ⟨hwritten, htree', hkept'⟩ := h.write hdoc htree hkept hwrite
      obtain ⟨htree', hkept', hall⟩ := ih hrest htree' hkept'
      rw [PendingDocument.writeTemporaries_cons_of_ok hwrite]
      exact ⟨htree', hkept', fun hnone => List.forall_mem_cons.mpr ⟨hwritten, hall hnone⟩⟩
    | error e =>
      obtain ⟨htree', hkept', -⟩ := ih hrest htree hkept
      rw [PendingDocument.writeTemporaries_cons_of_error hwrite]
      exact ⟨htree', hkept', by simp⟩

lemma removeTemporaries (hdrift : Drift before (Replaced docs) x d) :
    Drift before (Replaced docs) x (PendingDocument.removeTemporaries d rest) := by
  induction rest generalizing d with
  | nil => exact hdrift
  | cons doc rest ih =>
    obtain ⟨hdoc, hrest⟩ := List.forall_mem_cons.mp hrest
    exact ih hrest (h.remove hdoc hdrift)

omit hrest in
lemma restoreAll (hdone : ∀ doc ∈ done, doc ∈ docs ∧ doc.path.endsInSlash = false)
    (hdrift : Drift before (Replaced docs) x d) :
    Drift before (Replaced docs) x (PendingDocument.restore d done) := by
  induction done generalizing d with
  | nil => exact hdrift
  | cons doc done ih =>
    obtain ⟨⟨hdoc, hslash⟩, hdone⟩ := List.forall_mem_cons.mp hdone
    exact ih hdone (h.restore hdoc hdrift hslash)

lemma replaceAll (hwritten : ∀ doc ∈ rest, ∃ goal, before.writePlace doc.temporary = .ok goal)
    (hdone : ∀ doc ∈ done, doc ∈ docs ∧ doc.path.endsInSlash = false)
    (hdrift : Drift before (Replaced docs) x d) :
    Drift before (Replaced docs) x (PendingDocument.replaceAll done d rest).1 := by
  induction rest generalizing done d with
  | nil => exact hdrift
  | cons doc rest ih =>
    obtain ⟨hdoc, hrest'⟩ := List.forall_mem_cons.mp hrest
    obtain ⟨⟨goal, hgoal⟩, hwritten⟩ := List.forall_mem_cons.mp hwritten
    cases hrename : d.rename doc.temporary doc.path with
    | ok d' =>
      obtain ⟨hdrift', hslash⟩ := h.rename hdoc hdrift hgoal hrename
      rw [PendingDocument.replaceAll_cons_of_ok hrename]
      refine ih hrest' hwritten (List.forall_mem_append.mpr ⟨hdone, ?_⟩) hdrift'
      exact List.forall_mem_singleton.mpr ⟨hdoc, hslash⟩
    | error e =>
      rw [PendingDocument.replaceAll_cons_of_error hrename]
      exact h.restoreAll hdone (h.removeTemporaries hrest hdrift)

end Runs

/-- Wherever a commit ends, the file at `x` is as it was. -/
lemma lookup_commit (h : Spared before docs x) :
    (commit before docs).1.lookup x = before.lookup x := by
  obtain ⟨htree, hkept, hwritten⟩ :=
    h.writeTemporaries (fun _ hdoc => hdoc) (SameTree.refl before) rfl
  have hdrift := htree.drift hkept (Replaced docs)
  unfold commit
  rcases hresult : PendingDocument.writeTemporaries before docs with ⟨d, e | _⟩
  · rw [hresult] at hdrift hwritten
    exact (h.replaceAll (fun _ hdoc => hdoc) (hwritten rfl) (by simp) hdrift).kept
  · rw [hresult] at hdrift
    exact (h.removeTemporaries (fun _ hdoc => hdoc) hdrift).kept

end Spared

namespace Buffers

/-- Whether an edit set is applied or fails, a file that is none of its documents keeps its content,
unless the temporary file of a document is written over it. -/
theorem apply_spares_other_files (b : Buffers) (disk : Disk) (changes : EditSet) (place : Place)
    (content : ByteArray) (hcanonical : ∀ c ∈ changes, ∃ cwd path, disk.uriOf cwd path = .ok c.1)
    (hfile : disk.lookup place = some (.file content))
    (hother : ∀ c ∈ changes, c.1 ≠ .ofNames place)
    (htemporary : ∀ c ∈ changes, ∀ path, c.1.path? = some path →
      disk.writePlace (path.addSuffix ".symbolsmith-tmp") ≠ .ok place) :
    (b.apply disk changes).1.lookup place = some (.file content) := by
  have hspared {docs : List PendingDocument} (hprepare : b.prepare changes = .ok docs) :
      Spared disk docs place := by
    refine ⟨⟨content, hfile⟩, fun doc hdoc => ?_, fun doc hdoc heq => ?_, fun doc hdoc => ?_⟩
    all_goals obtain ⟨c, hc, hprepared⟩ := exists_change hprepare hdoc
    · obtain ⟨-, hpath, hsolid⟩ := hprepared.place_eq (hcanonical c hc)
      exact ⟨hpath, hsolid⟩
    · exact hother c hc (heq ▸ (hprepared.place_eq (hcanonical c hc)).1)
    · exact htemporary c hc doc.path hprepared.path
  rcases b.apply_cases disk changes with
    ⟨e, heq⟩ | ⟨docs, disk', hprepare, ⟨e, hcommit, heq⟩ | ⟨hcommit, heq⟩⟩
  · rw [heq, hfile]
  · rw [heq, ← hfile, ← (hspared hprepare).lookup_commit, hcommit]
  · rw [heq, ← hfile, ← (hspared hprepare).lookup_commit, hcommit]

/-- The directory `d` with a file `a`, a directory `b`, and an entry with the name of the temporary
file of `a` besides two more files. -/
def crowdedDisk (temporary : Entry) : Disk :=
  ⟨[([[0x64]], .directory), ([[0x64], [0x61]], .file "old".toUTF8), ([[0x64], [0x62]], .directory),
    ([[0x64], utf8Bytes "a.symbolsmith-tmp"], temporary), ([[0x64], [0x6B]], .file "k".toUTF8),
    ([[0x64], [0x73]], .file "s".toUTF8)]⟩

lemma canonical_blockedChanges (temporary : Entry) :
    ∀ c ∈ blockedChanges, ∃ cwd path, (crowdedDisk temporary).uriOf cwd path = .ok c.1 := by
  intro c hc
  simp only [blockedChanges, List.mem_cons, List.not_mem_nil, or_false] at hc
  rcases hc with rfl | rfl
  · exact ⟨⟨[]⟩, ⟨[0x2F, 0x64, 0x2F, 0x61]⟩, rfl⟩
  · exact ⟨⟨[]⟩, ⟨[0x2F, 0x64, 0x2F, 0x62]⟩, rfl⟩

/-- The temporary file of `a` is a link to `k`. It is renamed over `a` before `b` turns out to be a
directory, so the old text of `a` is put back into `k`. The file `s` does not change. -/
theorem apply_spares_crowdedDisk :
    (crowdedDisk (.link ⟨[0x6B]⟩)).lookup [[0x64], [0x73]] = some (.file "s".toUTF8) ∧
      (∀ c ∈ blockedChanges, c.1 ≠ .ofNames [[0x64], [0x73]]) ∧
      (∀ c ∈ blockedChanges, ∀ path, c.1.path? = some path →
        (crowdedDisk (.link ⟨[0x6B]⟩)).writePlace (path.addSuffix ".symbolsmith-tmp") ≠
          .ok [[0x64], [0x73]]) ∧
      (blockedBuffers.apply (crowdedDisk (.link ⟨[0x6B]⟩)) blockedChanges).2.2.isOk = false ∧
      (blockedBuffers.apply (crowdedDisk (.link ⟨[0x6B]⟩)) blockedChanges).1.lookup [[0x64], [0x6B]] =
        some (.file "old".toUTF8) ∧
      (blockedBuffers.apply (crowdedDisk (.link ⟨[0x6B]⟩)) blockedChanges).1.lookup [[0x64], [0x73]] =
        some (.file "s".toUTF8) := by
  have hfile : (crowdedDisk (.link ⟨[0x6B]⟩)).lookup [[0x64], [0x73]] = some (.file "s".toUTF8) := by
    decide
  have hother : ∀ c ∈ blockedChanges, c.1 ≠ .ofNames [[0x64], [0x73]] := by decide
  have htemporary : ∀ c ∈ blockedChanges, ∀ path, c.1.path? = some path →
      (crowdedDisk (.link ⟨[0x6B]⟩)).writePlace (path.addSuffix ".symbolsmith-tmp") ≠
        .ok [[0x64], [0x73]] := by
    decide
  refine ⟨hfile, hother, htemporary, by decide +kernel, by decide +kernel, ?_⟩
  exact apply_spares_other_files blockedBuffers _ blockedChanges _ _ (canonical_blockedChanges _) hfile
    hother htemporary

/-- A file that has the name of a temporary file is gone when the edit set has failed. -/
theorem apply_removes_claimed_file :
    (∀ c ∈ blockedChanges, ∃ cwd path,
        (crowdedDisk (.file "mine".toUTF8)).uriOf cwd path = .ok c.1) ∧
      (∀ c ∈ blockedChanges, c.1 ≠ .ofNames [[0x64], utf8Bytes "a.symbolsmith-tmp"]) ∧
      (crowdedDisk (.file "mine".toUTF8)).lookup [[0x64], utf8Bytes "a.symbolsmith-tmp"] =
        some (.file "mine".toUTF8) ∧
      (blockedBuffers.apply (crowdedDisk (.file "mine".toUTF8)) blockedChanges).2.2.isOk = false ∧
      (blockedBuffers.apply (crowdedDisk (.file "mine".toUTF8)) blockedChanges).1.lookup
        [[0x64], utf8Bytes "a.symbolsmith-tmp"] = none := by
  refine ⟨canonical_blockedChanges _, ?_, ?_, ?_, ?_⟩
  · decide
  · decide
  · decide +kernel
  · decide +kernel

end Buffers

end Outline
