import Mathlib
import Outline.Change.Plan
import Outline.Proofs.Disk.Inside
import Outline.Proofs.Host.ManyFiles

/-!
# Edits under the URIs of their files

An edit set is regrouped by the files that its URIs lead to, which fails when one of them leads
nowhere. Otherwise every file has one URI, under which stand the edits of all URIs that lead to it,
in their order, and no edit is lost. These URIs lead to themselves, so that regrouping once more
changes nothing, as long as they are read back as the paths they were made from.
-/

namespace Outline.Disk

variable {d : Disk} {changes files : EditSet} {place : Place} {uri file : Uri}

/-! ### The URI of the file that a URI leads to -/

/-- The URI of the file that a URI leads to. -/
def canonicalUri (d : Disk) (uri : Uri) : Except HostError Uri := do
  d.uriOf ⟨[Path.slash]⟩ (← uri.filePath)

lemma canonicalUri_eq_ok_iff :
    d.canonicalUri uri = .ok file ↔ ∃ place, d.placeOf uri = some place ∧ file = .ofNames place := by
  unfold canonicalUri
  simp only [bind_eq_ok_iff, filePath_eq_ok_iff, uriOf_eq_ok_iff, placeOf_eq_some_iff]
  constructor
  · rintro ⟨path, hpath, place, hplace, rfl⟩
    rw [join_of_path? hpath] at hplace
    exact ⟨place, ⟨path, hpath, hplace⟩, rfl⟩
  · rintro ⟨place, ⟨path, hpath, hplace⟩, rfl⟩
    rw [← join_of_path? hpath ⟨[Path.slash]⟩] at hplace
    exact ⟨path, hpath, place, hplace, rfl⟩

/-- Different places have different URIs. -/
lemma canonicalUri_eq_ofNames_iff (hproper : ∀ n ∈ place, Proper n) :
    d.canonicalUri uri = .ok (.ofNames place) ↔ d.placeOf uri = some place := by
  rw [canonicalUri_eq_ok_iff]
  constructor
  · rintro ⟨place', hplace', heq⟩
    have hsame : place = place' := Uri.eq_of_text_ofNames_eq hproper
      (solid_of_placeOf hplace').proper (congrArg Uri.text heq)
    rwa [hsame]
  · exact fun hplace => ⟨place, hplace, rfl⟩

lemma placeOf_eq_none_iff :
    d.placeOf uri = none ↔
      uri.path? = none ∨ ∃ path e, uri.path? = some path ∧ d.canonicalize path = .error e := by
  unfold placeOf
  cases uri.path? with
  | none => simp
  | some path =>
    cases hplace : d.canonicalize path with
    | error e => simp [hplace, Except.toOption]
    | ok place => simp [hplace, Except.toOption]

/-! ### URIs that lead to themselves -/

/-- No name on the disk has a zero byte in it. -/
def NulFree (d : Disk) : Prop := ∀ place, d.lookup place ≠ none → ∀ n ∈ place, 0 ∉ n

/-- It is enough to look at the entries that are listed. -/
lemma nulFree_of_entries (h : ∀ e ∈ d.entries, ∀ n ∈ e.1, 0 ∉ n) : d.NulFree := by
  intro place hpresent
  by_cases hplace : place = []
  · simp [hplace]
  · obtain ⟨entry, hentry⟩ := Option.ne_none_iff_exists'.mp hpresent
    rw [lookup, if_neg hplace] at hentry
    exact h _ (mem_of_lookupIn hentry)

/-- The literal path of a solid place leads to that place, if there is anything. -/
lemma Solid.canonicalize_ofNames (hsolid : d.Solid place) (hpresent : d.lookup place ≠ none)
    (hnul : ∀ n ∈ place, 0 ∉ n) : d.canonicalize (.ofNames place) = .ok place := by
  refine canonicalize_eq_ok_iff.mpr
    ⟨Path.bytes_ofNames_ne_nil place, Path.noNul_ofNames_iff.mpr hnul, ?_, hpresent⟩
  rcases List.eq_nil_or_concat place with rfl | ⟨front, n, rfl⟩
  · exact .stay (.inr rfl) rfl (.arrived linkLimit [])
  · rw [List.concat_eq_append] at hsolid ⊢
    rw [Path.pieces_ofNames_concat hsolid.proper]
    exact hsolid.leads linkLimit

lemma present_of_placeOf (h : d.placeOf uri = some place) : d.lookup place ≠ none := by
  obtain ⟨path, -, hplace⟩ := placeOf_eq_some_iff.mp h
  exact (canonicalize_eq_ok_iff.mp hplace).present

/-- The URI of a file leads to itself when it is read back as the path of the file. -/
lemma canonicalUri_ofNames (hnul : d.NulFree) (h : d.placeOf uri = some place)
    (hround : (Uri.ofNames place).path? = some (.ofNames place)) :
    d.canonicalUri (.ofNames place) = .ok (.ofNames place) := by
  have hpresent := present_of_placeOf h
  have hplace := (solid_of_placeOf h).canonicalize_ofNames hpresent (hnul place hpresent)
  exact canonicalUri_eq_ok_iff.mpr
    ⟨place, placeOf_eq_some_iff.mpr ⟨_, hround, hplace⟩, rfl⟩

/-! ### Regrouping an edit set -/

/-- The edits of an edit set under the URIs of their files: the URIs in their order, each with the
edits of all documents that lead there, and no edit left out or taken twice. -/
structure Regrouped (d : Disk) (changes files : EditSet) : Prop where
  ascending : files.Pairwise fun x y => compare x.1 y.1 = .lt
  keys      : ∀ file, (∃ q ∈ files, q.1 = file) ↔ ∃ c ∈ changes, d.canonicalUri c.1 = .ok file
  joined    : ∀ q ∈ files,
    q.2 = (changes.filter fun c => d.canonicalUri c.1 = .ok q.1).flatMap Prod.snd
  complete  : (files.flatMap Prod.snd).Perm (changes.flatMap Prod.snd)
  count     : (EditPlan.mk files).editCount = (EditPlan.mk changes).editCount

lemma editCount_eq_length (changes : EditSet) :
    (EditPlan.mk changes).editCount = (changes.flatMap Prod.snd).length := by
  rw [EditPlan.editCount]
  induction changes with
  | nil => rfl
  | cons c changes ih => rw [List.foldr_cons, ih, List.flatMap_cons, List.length_append]

lemma flatMap_filed (hnamed : ∀ c ∈ changes, ∃ place, d.placeOf c.1 = some place) :
    (d.filed changes).flatMap Prod.snd = changes.flatMap Prod.snd := by
  induction changes with
  | nil => rfl
  | cons c changes ih =>
    obtain ⟨⟨place, hplace⟩, hnamed⟩ := List.forall_mem_cons.mp hnamed
    rw [filed_cons_of_placeOf hplace, List.flatMap_cons, List.flatMap_cons, ih hnamed]

lemma regrouped_of_canonicalChanges (h : d.canonicalChanges changes = .ok files) :
    d.Regrouped changes files := by
  have hperm : (files.flatMap Prod.snd).Perm (changes.flatMap Prod.snd) := by
    rw [eq_gather_of_canonicalChanges h,
      ← flatMap_filed (exists_placeOf_of_canonicalChanges h)]
    exact Keyed.flatMap_gather_perm _
  refine ⟨ascending_canonicalChanges h, fun file => ?_, fun q hq => ?_, hperm, ?_⟩
  · constructor
    · rintro ⟨q, hq, rfl⟩
      obtain ⟨c, hc, place, hplace, rfl⟩ := editsAt_of_mem_canonicalChanges h hq
      exact ⟨c, hc, canonicalUri_eq_ok_iff.mpr ⟨place, hplace, rfl⟩⟩
    · rintro ⟨c, hc, hfile⟩
      obtain ⟨place, hplace, rfl⟩ := canonicalUri_eq_ok_iff.mp hfile
      exact ⟨_, mem_canonicalChanges h hc hplace, rfl⟩
  · obtain ⟨c, hc, place, hplace, rfl⟩ := editsAt_of_mem_canonicalChanges h hq
    have hproper := (solid_of_placeOf hplace).proper
    simp only [canonicalUri_eq_ofNames_iff hproper]
    rfl
  · rw [editCount_eq_length, editCount_eq_length, hperm.length_eq]

/-- Regrouping fails when some document leads nowhere. -/
lemma exists_canonicalChanges_eq_error_iff :
    (∃ e, d.canonicalChanges changes = .error e) ↔ ∃ c ∈ changes, d.placeOf c.1 = none := by
  constructor
  · rintro ⟨e, he⟩
    by_contra hnone
    push Not at hnone
    have hok : d.canonicalChanges changes = .ok (Keyed.gather (d.filed changes)) := by
      rw [canonicalChanges_eq_ok_iff]
      exact ⟨fun c hc => Option.ne_none_iff_exists'.mp (hnone c hc), rfl⟩
    rw [he] at hok
    cases hok
  · rintro ⟨c, hc, hnone⟩
    cases hfiles : d.canonicalChanges changes with
    | error e => exact ⟨e, rfl⟩
    | ok files =>
      obtain ⟨place, hplace⟩ := exists_placeOf_of_canonicalChanges hfiles c hc
      rw [hnone] at hplace
      cases hplace

lemma filed_eq_self (hself : ∀ q ∈ files, d.canonicalUri q.1 = .ok q.1) : d.filed files = files := by
  induction files with
  | nil => rfl
  | cons q files ih =>
    obtain ⟨hq, hself⟩ := List.forall_mem_cons.mp hself
    obtain ⟨place, hplace, heq⟩ := canonicalUri_eq_ok_iff.mp hq
    rw [filed_cons_of_placeOf hplace, ← heq, ih hself]

/-- An edit set whose URIs are in order and lead to themselves stays as it is. -/
lemma canonicalChanges_eq_self (hascending : files.Pairwise fun x y => compare x.1 y.1 = .lt)
    (hself : ∀ q ∈ files, d.canonicalUri q.1 = .ok q.1) : d.canonicalChanges files = .ok files := by
  rw [canonicalChanges_eq_ok_iff]
  refine ⟨fun q hq => ?_, ?_⟩
  · obtain ⟨place, hplace, -⟩ := canonicalUri_eq_ok_iff.mp (hself q hq)
    exact ⟨place, hplace⟩
  · rw [filed_eq_self hself, Keyed.gather_of_ascending hascending]

/-- Regrouping an edit set fails exactly when one of its URIs has no file path or has one that leads
nowhere. Otherwise the edits stand under the URIs of their files. If these URIs are read back as the
paths of the files, each of them is the URI of the file it leads to, and regrouping the result gives
the result. -/
theorem canonicalChanges_regroups (d : Disk) (changes : EditSet) :
    ((∃ e, d.canonicalChanges changes = .error e) ↔
      ∃ c ∈ changes, c.1.path? = none ∨
        ∃ path e, c.1.path? = some path ∧ d.canonicalize path = .error e) ∧
    ∀ files, d.canonicalChanges changes = .ok files →
      d.Regrouped changes files ∧
      (d.NulFree →
        (∀ c ∈ changes, ∀ place, d.placeOf c.1 = some place →
          (Uri.ofNames place).path? = some (.ofNames place)) →
        (∀ q ∈ files, d.canonicalUri q.1 = .ok q.1) ∧ d.canonicalChanges files = .ok files) := by
  refine ⟨?_, fun files h => ?_⟩
  · simp only [exists_canonicalChanges_eq_error_iff, placeOf_eq_none_iff]
  · have hregrouped := regrouped_of_canonicalChanges h
    refine ⟨hregrouped, fun hnul hround => ?_⟩
    have hself : ∀ q ∈ files, d.canonicalUri q.1 = .ok q.1 := by
      intro q hq
      obtain ⟨c, hc, place, hplace, rfl⟩ := editsAt_of_mem_canonicalChanges h hq
      exact canonicalUri_ofNames hnul hplace (hround c hc place hplace)
    exact ⟨hself, canonicalChanges_eq_self hregrouped.ascending hself⟩

/-- A disk with the file `b` in the directory `d`. The link `l` leads to the directory and the link
`k` in it to the file. -/
def aliasedDisk : Disk :=
  ⟨[([[0x64]], .directory), ([[0x64], [0x62]], .file "f".toUTF8),
    ([[0x64], [0x6B]], .link ⟨[0x62]⟩), ([[0x6C]], .link ⟨[0x64]⟩)]⟩

/-- Edits of the file under three URIs. -/
def aliasedChanges : EditSet :=
  [(.ofNames [[0x64], [0x62]], [⟨⟨⟨0, 1⟩, ⟨0, 1⟩⟩, "x"⟩]),
    (.ofNames [[0x64], [0x6B]], []),
    (.ofNames [[0x6C], [0x6B]], [⟨⟨⟨0, 0⟩, ⟨0, 0⟩⟩, "y"⟩, ⟨⟨⟨0, 1⟩, ⟨0, 1⟩⟩, "z"⟩])]

/-- All three edits come under the one URI of the file, and stay there. -/
theorem canonicalChanges_aliasedChanges :
    aliasedDisk.NulFree ∧
      (∀ c ∈ aliasedChanges, ∀ place, aliasedDisk.placeOf c.1 = some place →
        (Uri.ofNames place).path? = some (.ofNames place)) ∧
      ∃ files, aliasedDisk.canonicalChanges aliasedChanges = .ok files ∧
        files.map (fun q => (q.1, q.2.map TextEdit.newText)) =
          [(.ofNames [[0x64], [0x62]], ["x", "y", "z"])] ∧
        aliasedDisk.Regrouped aliasedChanges files ∧
        (∀ q ∈ files, aliasedDisk.canonicalUri q.1 = .ok q.1) ∧
        aliasedDisk.canonicalChanges files = .ok files := by
  have hnul : aliasedDisk.NulFree := nulFree_of_entries (by decide)
  have hplaces : ∀ c ∈ aliasedChanges, aliasedDisk.placeOf c.1 = some [[0x64], [0x62]] := by
    decide
  have hround : ∀ c ∈ aliasedChanges, ∀ place, aliasedDisk.placeOf c.1 = some place →
      (Uri.ofNames place).path? = some (.ofNames place) := by
    intro c hc place hplace
    obtain rfl := Option.some.inj ((hplaces c hc).symm.trans hplace)
    decide
  have hfiles : aliasedDisk.canonicalChanges aliasedChanges =
      .ok [(.ofNames [[0x64], [0x62]], aliasedChanges.flatMap Prod.snd)] := by
    decide
  obtain ⟨hregrouped, hsettled⟩ := (canonicalChanges_regroups aliasedDisk aliasedChanges).2 _ hfiles
  exact ⟨hnul, hround, _, hfiles, rfl, hregrouped, hsettled hnul hround⟩

end Outline.Disk
