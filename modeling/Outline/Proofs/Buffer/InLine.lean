import Mathlib
import Outline.Host.Canned
import Outline.Proofs.Buffer.Apply
import Outline.Proofs.Disk.Canonical
import Outline.Proofs.Text.Utf8

/-!
# Edit sets and buffers in line with the disk

An edit set that is named by the URIs of its files, with buffers that hold the texts of these files,
can be applied as a whole, as long as nothing is in the way of the temporary files. So whatever
brings the buffers in line with the disk first, changes all files of the set or none.
-/

namespace Outline

open Disk

/-! ### Names of temporary files -/

section SplitOn

variable {α : Type} [DecidableEq α] {separator : α}

/-- What is added behind the last separator belongs to the last part. -/
lemma splitOn_append_of_not_mem {bs : List α} (h : separator ∉ bs) (as : List α) :
    ∃ parts last, splitOn separator as = parts ++ [last] ∧
      splitOn separator (as ++ bs) = parts ++ [last ++ bs] := by
  induction as with
  | nil => exact ⟨[], [], rfl, splitOn_of_not_mem h⟩
  | cons a as ih =>
    obtain ⟨parts, last, has, hboth⟩ := ih
    by_cases ha : a = separator
    · refine ⟨[] :: parts, last, ?_, ?_⟩
      · rw [ha, splitOn_cons_self, has, List.cons_append]
      · rw [ha, List.cons_append, splitOn_cons_self, hboth, List.cons_append]
    · cases parts with
      | nil => exact ⟨[], a :: last, splitOn_cons_of_ne ha has, splitOn_cons_of_ne ha hboth⟩
      | cons part parts =>
        exact ⟨(a :: part) :: parts, last, splitOn_cons_of_ne ha has,
          splitOn_cons_of_ne ha hboth⟩

end SplitOn

namespace Disk

variable {d : Disk}

/-- A name that gets an ending is the last name of the path with that ending. -/
lemma suffix_of_leaf {path : Path} {place : Place}
    (h : d.leaf (path.addSuffix ".symbolsmith-tmp") = .ok place) :
    ∃ front n, place = front ++ [n] ∧ utf8Bytes ".symbolsmith-tmp" <:+ n := by
  have hslash : Path.slash ∉ utf8Bytes ".symbolsmith-tmp" := by decide
  obtain ⟨parts, last, -, hparts⟩ := splitOn_append_of_not_mem hslash path.bytes
  have hne : last ++ utf8Bytes ".symbolsmith-tmp" ≠ [] :=
    List.append_ne_nil_of_right_ne_nil _ (by decide)
  unfold leaf leafOf at h
  rw [checkPath_bind_eq_ok_iff] at h
  simp only [Path.parts, Path.addSuffix, hparts, List.filter_append, List.filter_cons, ne_eq, hne,
    not_false_eq_true, decide_true, if_true, List.filter_nil, List.map_append, List.map_cons,
    List.map_nil, List.getLast?_concat] at h
  split at h
  · cases h.2
  · rename_i front n hleaf
    obtain ⟨parent, -, hrest⟩ := bind_eq_ok_iff.mp h.2
    obtain ⟨-, hrest⟩ := bind_needDirectory_eq_ok_iff.mp hrest
    obtain ⟨-, hplace⟩ := ite_throw_bind_eq_ok_iff.mp hrest
    refine ⟨parent.place, n, pure_eq_ok_iff.mp hplace, last, ?_⟩
    split at hleaf
    · rename_i m hpiece
      cases hleaf
      rw [Option.some.injEq, Path.pieceOf] at hpiece
      split at hpiece
      · cases hpiece
      · split at hpiece
        · cases hpiece
        · exact Piece.name.inj hpiece
    · cases hleaf

/-- Nothing on the disk has the name of a temporary file. -/
def NoTemporaries (d : Disk) : Prop :=
  ∀ front n entry, d.lookup (front ++ [n]) = some entry → ¬ utf8Bytes ".symbolsmith-tmp" <:+ n

/-- Nothing but directories has the name of a temporary file. -/
def Unclaimed (d : Disk) : Prop :=
  ∀ front n, utf8Bytes ".symbolsmith-tmp" <:+ n →
    d.lookup (front ++ [n]) = none ∨ d.lookup (front ++ [n]) = some .directory

lemma NoTemporaries.lookup_eq_none (h : d.NoTemporaries) {front : Place} {n : Name}
    (hn : utf8Bytes ".symbolsmith-tmp" <:+ n) : d.lookup (front ++ [n]) = none := by
  by_contra hsome
  obtain ⟨entry, hentry⟩ := Option.ne_none_iff_exists'.mp hsome
  exact h front n entry hentry hn

lemma NoTemporaries.unclaimed (h : d.NoTemporaries) : d.Unclaimed :=
  fun _ _ hn => .inl (h.lookup_eq_none hn)

lemma mem_of_lookupIn {place : Place} {entry : Entry} {es : List (Place × Entry)}
    (h : lookupIn place es = some entry) : (place, entry) ∈ es := by
  induction es with
  | nil => cases h
  | cons e es ih =>
    rw [lookupIn] at h
    split at h
    · rename_i hplace
      rw [← hplace, ← Option.some.inj h]
      exact List.mem_cons_self
    · exact List.mem_cons_of_mem e (ih h)

/-- It is enough to look at the entries that are listed. -/
lemma noTemporaries_of_entries
    (h : ∀ e ∈ d.entries, ∀ n ∈ e.1.getLast?, ¬ utf8Bytes ".symbolsmith-tmp" <:+ n) :
    d.NoTemporaries := by
  intro front n entry hlookup
  rw [lookup, if_neg (by simp)] at hlookup
  exact h _ (mem_of_lookupIn hlookup) n (by simp)

/-! ### Files read as texts -/

lemma readText_eq_ok_iff {path : Path} {text : String} :
    d.readText path = .ok text ↔ ∃ place, d.find path = .ok (place, .file text.toUTF8) := by
  refine ⟨file_of_readText, ?_⟩
  rintro ⟨place, hfind⟩
  have hread : d.read path = .ok text.toUTF8 := bind_eq_ok_iff.mpr ⟨_, hfind, rfl⟩
  exact bind_eq_ok_iff.mpr ⟨_, hread, by rw [fromUTF8?_toUTF8]; rfl⟩

/-- The text read by the path of a solid place is that of the file there. -/
lemma Solid.readText_pathOf_eq_ok_iff {place : Place} (hsolid : d.Solid place) {text : String} :
    d.readText (Uri.pathOf place) = .ok text ↔
      checkPath (Uri.pathOf place) = .ok () ∧ (Uri.pathOf place).endsInSlash = false ∧
        d.lookup place = some (.file text.toUTF8) := by
  simp only [readText_eq_ok_iff, hsolid.find_pathOf_eq_ok_iff]
  constructor
  · rintro ⟨_, hcheck, hslash, -, hfile⟩
    refine ⟨hcheck, ?_, hfile⟩
    by_contra hne
    rw [hslash (by simpa using hne)] at hfile
    cases hfile
  · rintro ⟨hcheck, hslash, hfile⟩
    exact ⟨place, hcheck, by simp [hslash], rfl, hfile⟩

/-! ### One URI for each file -/

/-- The URI of an entry is the one that its own path leads to. -/
lemma eq_of_uriOf_path? {cwd cwd' path path' : Path} {uri file : Uri}
    (huri : d.uriOf cwd path = .ok uri) (hpath : uri.path? = some path')
    (hfile : d.uriOf cwd' path' = .ok file) : file = uri := by
  obtain ⟨place, rfl, hsolid⟩ := exists_place_of_uriOf huri
  rw [Uri.path?_ofNames, Option.some.injEq] at hpath
  rw [← hpath, uriOf, Uri.join_pathOf] at hfile
  split at hfile
  · rename_i place' hplace'
    cases hfile
    rw [hsolid.eq_of_canonicalize_pathOf hplace']
  · cases hfile

variable {changes files : EditSet}

/-- An edit set with one URI for each file is in the order of its URIs, which are those of entries
of the disk. -/
lemma ascending_and_canonical_of_canonicalChanges (h : d.canonicalChanges changes = .ok files) :
    files.Pairwise (fun x y => compare x.1 y.1 = .lt) ∧
      ∀ c ∈ files, ∃ cwd path, d.uriOf cwd path = .ok c.1 := by
  refine foldlM_invariant (P := fun files : EditSet =>
    files.Pairwise (fun x y => compare x.1 y.1 = .lt) ∧
      ∀ c ∈ files, ∃ cwd path, d.uriOf cwd path = .ok c.1) ?_ ⟨.nil, by simp⟩ h
  rintro done ⟨uri, edits⟩ done' ⟨hascending, hcanonical⟩ hstep
  obtain ⟨path, -, hstep⟩ := bind_eq_ok_iff.mp hstep
  obtain ⟨file, hfile, hstep⟩ := bind_eq_ok_iff.mp hstep
  rw [pure_eq_ok_iff.mp hstep]
  refine ⟨Keyed.ascending_upsert file _ hascending, fun c hc => ?_⟩
  rcases Keyed.key_of_mem_upsert hc with heq | ⟨c', hc', heq⟩
  · exact ⟨_, path, heq ▸ hfile⟩
  · exact heq ▸ hcanonical c' hc'

lemma apart_of_canonicalChanges (h : d.canonicalChanges changes = .ok files) :
    files.Pairwise fun x y => x.1.text ≠ y.1.text := by
  refine (ascending_and_canonical_of_canonicalChanges h).1.imp fun hlt heq => ?_
  rw [Uri.compare_eq_iff.mpr heq] at hlt
  cases hlt

end Disk

/-! ### Buffers in line with the disk -/

namespace Buffers

variable {b b' : Buffers} {disk disk' : Disk} {changes files : EditSet}

/-- The buffer of each document of an edit set has the text of its file. -/
def InLine (b : Buffers) (disk : Disk) (changes : EditSet) : Prop :=
  ∀ c ∈ changes, ∃ path buffer, c.1.path? = some path ∧ Keyed.get? c.1 b = some buffer ∧
    disk.readText path = .ok buffer.text

/-- Of documents that are put in line one after the other, the later ones do not touch the first. -/
lemma InLine.cons {c : Uri × List TextEdit} {path : Path} {buffer : Buffer}
    (h : b'.InLine disk changes) (hapart : ∀ later ∈ changes, c.1.text ≠ later.1.text)
    (hkept : ∀ uri : Uri, (∀ later ∈ changes, uri.text ≠ later.1.text) →
      Keyed.get? uri b' = Keyed.get? uri b)
    (hpath : c.1.path? = some path) (hbuffer : Keyed.get? c.1 b = some buffer)
    (hread : disk.readText path = .ok buffer.text) : b'.InLine disk (c :: changes) :=
  List.forall_mem_cons.mpr ⟨⟨path, buffer, hpath, (hkept c.1 hapart).trans hbuffer, hread⟩, h⟩

/-- An edit set named by the URIs of its files can be applied to buffers in line with the disk. -/
lemma InLine.ready (h : b.InLine disk files) (hfiles : disk.canonicalChanges changes = .ok files)
    (hfree : disk.Unclaimed) : b.Ready disk files where
  ascending := (ascending_and_canonical_of_canonicalChanges hfiles).1
  canonical := (ascending_and_canonical_of_canonicalChanges hfiles).2
  saved := by
    intro c hc path buffer hpath hbuffer
    obtain ⟨path', buffer', hpath', hbuffer', htext⟩ := h c hc
    obtain rfl := Option.some.inj (hpath'.symm.trans hpath)
    obtain rfl := Option.some.inj (hbuffer'.symm.trans hbuffer)
    exact .inl htext
  free := by
    intro c _ path place _ hleaf
    obtain ⟨front, n, rfl, hn⟩ := suffix_of_leaf hleaf
    exact hfree front n hn

/-- What applying an edit set can come to: it stops before anything is written, or the commit of
its documents fails, or it succeeds. -/
lemma apply_cases (b : Buffers) (disk : Disk) (changes : EditSet) :
    (∃ e, b.apply disk changes = (disk, b, .error e)) ∨
    ∃ docs disk', b.prepare changes = .ok docs ∧
      ((∃ e, commit disk docs = (disk', some e) ∧
        b.apply disk changes = (disk', b, .error (.io e.message))) ∨
      commit disk docs = (disk', none) ∧
        b.apply disk changes = (disk', (b.accept docs).1, .ok (b.accept docs).2)) := by
  unfold apply
  cases b.prepare changes with
  | error e => exact .inl ⟨e, rfl⟩
  | ok docs =>
    right
    rcases hcommit : commit disk docs with ⟨disk', _ | e⟩
    · exact ⟨docs, disk', rfl, .inr ⟨hcommit, by simp only [hcommit]⟩⟩
    · exact ⟨docs, disk', rfl, .inl ⟨e, hcommit, by simp only [hcommit]⟩⟩

lemma Ready.of_apply_eq_error (h : b.Ready disk changes) {e : HostError}
    (happly : b.apply disk changes = (disk', b', .error e)) :
    b' = b ∧ ∀ place, disk'.lookup place = disk.lookup place := by
  rcases b.apply_cases disk changes with
    ⟨e', heq⟩ | ⟨docs, d, hprepare, ⟨e', hcommit, heq⟩ | ⟨-, heq⟩⟩
  · cases heq.symm.trans happly
    exact ⟨rfl, fun _ => rfl⟩
  · have hstage := commit_stage (h.sited hprepare)
    rw [hcommit] at hstage
    cases heq.symm.trans happly
    exact ⟨rfl, hstage⟩
  · cases heq.symm.trans happly

lemma Ready.of_apply_eq_ok (h : b.Ready disk changes) {told : List BufferChange}
    (happly : b.apply disk changes = (disk', b', .ok told)) :
    Applied b disk changes b' disk' told := by
  rcases b.apply_cases disk changes with
    ⟨e, heq⟩ | ⟨docs, d, hprepare, ⟨e, -, heq⟩ | ⟨hcommit, heq⟩⟩
  · cases heq.symm.trans happly
  · cases heq.symm.trans happly
  · have hstage := commit_stage (h.sited hprepare)
    rw [hcommit] at hstage
    cases heq.symm.trans happly
    exact h.applied hprepare hstage.1 hstage.2

/-! ### Opening documents with the texts of their files -/

lemma get?_sync_self (b : Buffers) (uri : Uri) (text : String) :
    ∃ version, Keyed.get? uri (b.sync uri text).1 = some ⟨version, text⟩ := by
  unfold sync
  split
  · exact ⟨0, Keyed.get?_insert_self uri _ b⟩
  · rename_i buffer hbuffer
    split
    · rename_i htext
      exact ⟨buffer.version, by rw [hbuffer, ← htext]⟩
    · exact ⟨_, get?_update_self b uri text⟩

lemma get?_sync_of_ne {uri uri' : Uri} (h : uri.text ≠ uri'.text) (b : Buffers) (text : String) :
    Keyed.get? uri (b.sync uri' text).1 = Keyed.get? uri b := by
  unfold sync
  split
  · exact Keyed.get?_insert_of_ne (fun heq => h (Uri.compare_eq_iff.mp heq)) _ b
  · split
    · rfl
    · exact get?_update_of_ne h b text

/-- Opening documents one after the other puts all their buffers in line and leaves all other
buffers as they were. -/
lemma inLine_of_openDocuments
    (hapart : changes.Pairwise fun x y => x.1.text ≠ y.1.text)
    (h : changes.foldlM (fun (b : Buffers) change => do
      return b.openDocument change.1 (← disk.documentText change.1)) b = .ok b') :
    b'.InLine disk changes ∧
      ∀ uri : Uri, (∀ c ∈ changes, uri.text ≠ c.1.text) → Keyed.get? uri b' = Keyed.get? uri b := by
  induction changes generalizing b with
  | nil =>
    rw [List.foldlM_nil, pure_eq_ok_iff] at h
    exact ⟨by simp [InLine], fun _ _ => by rw [h]⟩
  | cons c changes ih =>
    obtain ⟨hc, hapart⟩ := List.pairwise_cons.mp hapart
    rw [List.foldlM_cons] at h
    obtain ⟨opened, hopen, hrest⟩ := bind_eq_ok_iff.mp h
    obtain ⟨text, htext, hopened⟩ := bind_eq_ok_iff.mp hopen
    rw [pure_eq_ok_iff] at hopened
    obtain ⟨hinLine, hkept⟩ := ih hapart hrest
    constructor
    · unfold documentText at htext
      split at htext
      · cases htext
      · rename_i path hpath
        split at htext
        · rename_i text' hread
          cases htext
          have hbuffer : Keyed.get? c.1 opened = some ⟨0, text⟩ := by
            rw [hopened, openDocument, Keyed.get?_insert_self]
          exact hinLine.cons hc hkept hpath hbuffer hread
        · cases htext
    · intro uri huri
      rw [List.forall_mem_cons] at huri
      rw [hkept uri huri.2, hopened, openDocument,
        Keyed.get?_insert_of_ne fun heq => huri.1 (Uri.compare_eq_iff.mp heq)]

/-- Documents that have buffers in line with the disk can be opened. -/
lemma InLine.exists_openAll (h : b.InLine disk changes) : ∃ b', disk.openAll changes = .ok b' := by
  rw [Disk.openAll]
  generalize ([] : Buffers) = opened
  induction changes generalizing opened with
  | nil => exact ⟨opened, rfl⟩
  | cons c changes ih =>
    obtain ⟨⟨path, buffer, hpath, -, hread⟩, h⟩ := List.forall_mem_cons.mp h
    have htext : disk.documentText c.1 = .ok buffer.text := by
      simp only [Disk.documentText, hpath, hread]
    rw [List.foldlM_cons, htext]
    exact ih h _

lemma inLine_of_openAll (hfiles : disk.canonicalChanges changes = .ok files)
    (h : disk.openAll files = .ok b) : b.InLine disk files :=
  (inLine_of_openDocuments (apart_of_canonicalChanges hfiles) h).1

end Buffers

end Outline
