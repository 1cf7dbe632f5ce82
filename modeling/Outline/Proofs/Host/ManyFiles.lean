import Mathlib
import Outline.Proofs.Host.OneFile

/-!
# Edits of many files

The documents of an edit set are gathered by the files that their URIs lead to, so that several
spellings of one file count as one. When the edits are applied, every file that a document leads to
has the text that all edits for it make of its old text, in the order of the edit set. All else is as
it was, and the edits of all files together are the edits of the set.
-/

namespace Outline

/-- What is sorted out by its keys is all there, once. -/
lemma perm_flatMap_filter {α β κ : Type} [DecidableEq κ] (key : α → κ) (f : α → List β)
    {keys : List κ} (hkeys : keys.Nodup) {as : List α} (hcover : ∀ a ∈ as, key a ∈ keys) :
    (keys.flatMap fun k => (as.filter fun a => key a = k).flatMap f).Perm (as.flatMap f) := by
  induction keys generalizing as with
  | nil =>
    have has : as = [] := List.eq_nil_iff_forall_not_mem.mpr fun a ha => by simpa using hcover a ha
    rw [has]
    exact .refl _
  | cons k keys ih =>
    obtain ⟨hk, hkeys⟩ := List.nodup_cons.mp hkeys
    have hothers : keys.flatMap (fun k' => (as.filter fun a => key a = k').flatMap f) =
        keys.flatMap fun k' =>
          ((as.filter fun a => !decide (key a = k)).filter fun a => key a = k').flatMap f := by
      refine List.flatMap_congr fun k' hk' => ?_
      rw [List.filter_filter]
      congr 1
      refine List.filter_congr fun a _ => ?_
      by_cases ha : key a = k'
      · have : k' ≠ k := fun heq => hk (heq ▸ hk')
        simp [ha, this]
      · simp [ha]
    have hrest : ∀ a ∈ as.filter fun a => !decide (key a = k), key a ∈ keys := by
      intro a ha
      obtain ⟨ha, hne⟩ := List.mem_filter.mp ha
      exact (List.mem_cons.mp (hcover a ha)).resolve_left (by simpa using hne)
    rw [List.flatMap_cons, hothers]
    refine ((ih hkeys hrest).append_left _).trans ?_
    rw [← List.flatMap_append]
    exact (List.filter_append_perm _ as).flatMap_right f

namespace Disk

variable {d d' : Disk} {changes files : EditSet} {place : Place}

/-- The edits of all documents that lead to a place, in the order of the edit set. -/
def editsAt (d : Disk) (changes : EditSet) (place : Place) : List TextEdit :=
  (changes.filter fun c => d.placeOf c.1 = some place).flatMap Prod.snd

/-- Edits that are carried out: each document leads to a file, all edits for one file are applied to
its text together, nothing else changes, and no edit is left out or counted twice. -/
structure Carried (d : Disk) (changes : EditSet) (d' : Disk) : Prop where
  named    : ∀ c ∈ changes, ∃ place, d.placeOf c.1 = some place
  edited   : ∀ c ∈ changes, ∀ place, d.placeOf c.1 = some place → ∃ text new,
    d.lookup place = some (.file text.toUTF8) ∧
    applyEdits text (d.editsAt changes place) = .ok new ∧
    d'.lookup place = some (.file new.toUTF8)
  kept     : ∀ place, (∀ c ∈ changes, d.placeOf c.1 ≠ some place) →
    d'.lookup place = d.lookup place
  complete : ∃ places : List Place, places.Nodup ∧
    (places.flatMap (d.editsAt changes)).Perm (changes.flatMap Prod.snd)

/-! ### One list of edits for each file -/

/-- The edit set with the URIs of the files in place of those that lead to them. -/
def filed (d : Disk) (changes : EditSet) : List (Uri × List TextEdit) :=
  changes.filterMap fun c => (d.placeOf c.1).map fun place => (.ofNames place, c.2)

lemma filed_append (changes changes' : EditSet) :
    d.filed (changes ++ changes') = d.filed changes ++ d.filed changes' :=
  List.filterMap_append

lemma filed_cons_of_placeOf {c : Uri × List TextEdit} (h : d.placeOf c.1 = some place)
    (changes : EditSet) : d.filed (c :: changes) = (.ofNames place, c.2) :: d.filed changes := by
  simp [filed, h]

lemma mem_filed_iff {q : Uri × List TextEdit} :
    q ∈ d.filed changes ↔
      ∃ c ∈ changes, ∃ place, d.placeOf c.1 = some place ∧ q = (.ofNames place, c.2) := by
  simp [filed, eq_comm]

lemma ne_nil_of_lookup_file {content : ByteArray} (h : d.lookup place = some (.file content)) :
    place ≠ [] := by
  rintro rfl
  cases h

/-- When every document leads to a file, it gets the URI of that file, and the edits under one URI are
joined. -/
lemma canonicalChanges_eq_ok_iff :
    d.canonicalChanges changes = .ok files ↔
      (∀ c ∈ changes, ∃ place, d.placeOf c.1 = some place) ∧
        files = Keyed.gather (d.filed changes) := by
  induction changes using List.reverseRecOn generalizing files with
  | nil =>
    constructor
    · rintro ⟨⟩
      exact ⟨nofun, rfl⟩
    · rintro ⟨-, rfl⟩
      rfl
  | append_singleton changes c ih =>
    obtain ⟨uri, edits⟩ := c
    rw [canonicalChanges, List.foldlM_append, bind_eq_ok_iff]
    simp only [List.foldlM_cons, List.foldlM_nil, bind_eq_ok_iff, pure_eq_ok_iff,
      filePath_eq_ok_iff, uriOf_eq_ok_iff]
    have hconcat {place : Place} (huri : d.placeOf uri = some place) :
        Keyed.gather (d.filed (changes ++ [(uri, edits)])) =
          Keyed.append (.ofNames place) edits (Keyed.gather (d.filed changes)) := by
      have hlast : d.filed [(uri, edits)] = [(.ofNames place, edits)] := filed_cons_of_placeOf huri []
      rw [filed_append, hlast, Keyed.gather_concat]
    constructor
    · rintro ⟨done, hdone, _, ⟨path, hpath, _, ⟨place, hplace, rfl⟩, rfl⟩, rfl⟩
      obtain ⟨hnamed, rfl⟩ := ih.mp hdone
      rw [join_of_path? hpath] at hplace
      have huri : d.placeOf uri = some place := placeOf_eq_some_iff.mpr ⟨path, hpath, hplace⟩
      exact ⟨List.forall_mem_append.mpr ⟨hnamed, List.forall_mem_singleton.mpr ⟨place, huri⟩⟩,
        (hconcat huri).symm⟩
    · rintro ⟨hnamed, rfl⟩
      obtain ⟨hnamed, hlast⟩ := List.forall_mem_append.mp hnamed
      obtain ⟨place, huri⟩ := List.forall_mem_singleton.mp hlast
      obtain ⟨path, hpath, hplace⟩ := placeOf_eq_some_iff.mp huri
      rw [← join_of_path? hpath ⟨[Path.slash]⟩] at hplace
      exact ⟨_, ih.mpr ⟨hnamed, rfl⟩, _, ⟨path, hpath, _, ⟨place, hplace, rfl⟩, rfl⟩, hconcat huri⟩

lemma eq_gather_of_canonicalChanges (h : d.canonicalChanges changes = .ok files) :
    files = Keyed.gather (d.filed changes) := by
  rw [canonicalChanges_eq_ok_iff] at h
  exact h.2

lemma exists_placeOf_of_canonicalChanges (h : d.canonicalChanges changes = .ok files) :
    ∀ c ∈ changes, ∃ place, d.placeOf c.1 = some place := by
  rw [canonicalChanges_eq_ok_iff] at h
  exact h.1

lemma ascending_canonicalChanges (h : d.canonicalChanges changes = .ok files) :
    files.Pairwise fun x y => compare x.1 y.1 = .lt := by
  rw [eq_gather_of_canonicalChanges h]
  exact Keyed.ascending_gather _

/-- Under the URI of a place stand the edits of all documents that lead there. -/
lemma under_filed (hproper : ∀ n ∈ place, Proper n) (changes : EditSet) :
    Keyed.under (.ofNames place) (d.filed changes) = d.editsAt changes place := by
  induction changes with
  | nil => simp [filed, editsAt, Keyed.under]
  | cons c changes ih =>
    cases hplace : d.placeOf c.1 with
    | none =>
      have hfiled : d.filed (c :: changes) = d.filed changes := by simp [filed, hplace]
      have hedits : d.editsAt (c :: changes) place = d.editsAt changes place := by
        simp [editsAt, hplace]
      rw [hfiled, hedits, ih]
    | some place' =>
      have hsame : compare (Uri.ofNames place) (.ofNames place') = .eq ↔ place' = place := by
        rw [Uri.compare_eq_iff]
        constructor
        · exact fun htext =>
            (Uri.eq_of_text_ofNames_eq hproper (solid_of_placeOf hplace).proper htext).symm
        · rintro rfl
          rfl
      rw [filed_cons_of_placeOf hplace, Keyed.under_cons, ih]
      by_cases heq : place' = place
      · simp [editsAt, hplace, heq]
      · simp [editsAt, hplace, heq, hsame]

/-- The edits of a file are those of all documents that lead to it. -/
lemma editsAt_of_mem_canonicalChanges (h : d.canonicalChanges changes = .ok files)
    {q : Uri × List TextEdit} (hq : q ∈ files) :
    ∃ c ∈ changes, ∃ place, d.placeOf c.1 = some place ∧
      q = (.ofNames place, d.editsAt changes place) := by
  obtain rfl := eq_gather_of_canonicalChanges h
  obtain ⟨p, hp, hkey⟩ := Keyed.exists_of_mem_gather hq
  obtain ⟨c, hc, place, hplace, rfl⟩ := mem_filed_iff.mp hp
  have hedits : q.2 = d.editsAt changes place := by
    rw [← Keyed.under_of_mem (Keyed.ascending_gather _) hq, Keyed.under_gather, ← hkey,
      under_filed (solid_of_placeOf hplace).proper]
  exact ⟨c, hc, place, hplace, Prod.ext hkey.symm hedits⟩

/-- A document that leads to a file is found under the URI of the file. -/
lemma mem_canonicalChanges (h : d.canonicalChanges changes = .ok files) {c : Uri × List TextEdit}
    (hc : c ∈ changes) (hplace : d.placeOf c.1 = some place) :
    (.ofNames place, d.editsAt changes place) ∈ files := by
  have hfiles := eq_gather_of_canonicalChanges h
  have hp : (.ofNames place, c.2) ∈ d.filed changes := mem_filed_iff.mpr ⟨c, hc, place, hplace, rfl⟩
  obtain ⟨q, hq, heq⟩ := Keyed.exists_mem_gather hp
  rw [← hfiles] at hq
  obtain ⟨_, _, place', hplace', rfl⟩ := editsAt_of_mem_canonicalChanges h hq
  have hsame : place = place' := Uri.eq_of_text_ofNames_eq (solid_of_placeOf hplace).proper
    (solid_of_placeOf hplace').proper (Uri.compare_eq_iff.mp heq)
  rwa [hsame]

lemma exists_places_perm (hnamed : ∀ c ∈ changes, ∃ place, d.placeOf c.1 = some place) :
    ∃ places : List Place, places.Nodup ∧
      (places.flatMap (d.editsAt changes)).Perm (changes.flatMap Prod.snd) := by
  have hnodup : ((changes.filterMap fun c => d.placeOf c.1).dedup.map some).Nodup :=
    (List.nodup_dedup _).map (Option.some_injective _)
  have hcover : ∀ c ∈ changes,
      d.placeOf c.1 ∈ (changes.filterMap fun c => d.placeOf c.1).dedup.map some := by
    intro c hc
    obtain ⟨place, hplace⟩ := hnamed c hc
    have hmem : place ∈ changes.filterMap fun c => d.placeOf c.1 :=
      List.mem_filterMap.mpr ⟨c, hc, hplace⟩
    exact List.mem_map.mpr ⟨place, List.mem_dedup.mpr hmem, hplace.symm⟩
  have hperm := perm_flatMap_filter (fun c : Uri × List TextEdit => d.placeOf c.1) Prod.snd hnodup
    hcover
  rw [List.flatMap_map] at hperm
  exact ⟨_, List.nodup_dedup _, hperm⟩

end Disk

/-! ### Applying the edits -/

open Disk

variable {disk disk' : Disk} {changes files : EditSet} {b b' : Buffers} {told : List BufferChange}

lemma Buffers.Applied.exists_edited (h : Applied b disk files b' disk' told)
    {c : Uri × List TextEdit} (hc : c ∈ files) : ∃ change, Edited b b' disk' c change := by
  have hforall := h.edited
  clear h
  induction hforall with
  | nil => cases hc
  | cons hedited _ ih =>
    rcases List.mem_cons.mp hc with rfl | hc
    · exact ⟨_, hedited⟩
    · exact ih hc

/-- What a file of an edit set holds before and after. -/
lemma Buffers.Applied.lookup_place (h : Applied b disk files b' disk' told)
    (hinLine : b.InLine disk files) {place : Place} {edits : List TextEdit}
    (hsolid : disk.Solid place) (hmem : (.ofNames place, edits) ∈ files) :
    ∃ text new, disk.lookup place = some (.file text.toUTF8) ∧ applyEdits text edits = .ok new ∧
      disk'.lookup place = some (.file new.toUTF8) := by
  obtain ⟨path, buffer, hpath, hbuffer, hread⟩ := hinLine _ hmem
  obtain ⟨_, buffer', new, place', hbuffer', hnew, -, huri, hlookup, -⟩ := h.exists_edited hmem
  obtain rfl := Option.some.inj (hbuffer.symm.trans hbuffer')
  rw [Uri.path?_ofNames, Option.some.injEq] at hpath
  rw [← hpath] at hread
  have hfile := (hsolid.readText_pathOf_eq_ok_iff.mp hread).2.2
  obtain rfl := Uri.eq_of_ofNames_eq hsolid.proper (ne_nil_of_lookup_file hfile) huri
  exact ⟨buffer.text, new, hfile, hnew, hlookup⟩

/-- Edits that are applied to files are carried out. -/
lemma AppliedToFiles.carried (h : AppliedToFiles disk changes (.ok ()) disk')
    (hfree : disk.Unclaimed) : disk.Carried changes disk' := by
  generalize houtcome : (.ok () : Except HostError Unit) = outcome at h
  cases h with
  | unopened e h => cases houtcome
  | changed canonical inLine applied =>
    rename_i files b b' outcome
    cases outcome with
    | error e => cases houtcome
    | ok told =>
      have happlied := (inLine.ready canonical hfree).of_apply_eq_ok applied
      have hnamed := exists_placeOf_of_canonicalChanges canonical
      refine ⟨hnamed, fun c hc place hplace => ?_, fun place hnone => ?_,
        exists_places_perm hnamed⟩
      · exact happlied.lookup_place inLine (solid_of_placeOf hplace)
          (mem_canonicalChanges canonical hc hplace)
      · refine happlied.files place fun q hq heq => ?_
        obtain ⟨c, hc, place', hplace', rfl⟩ := editsAt_of_mem_canonicalChanges canonical hq
        have hsolid := solid_of_placeOf hplace'
        obtain ⟨_, _, hfile, -⟩ := happlied.lookup_place inLine hsolid hq
        obtain rfl := Uri.eq_of_ofNames_eq hsolid.proper (ne_nil_of_lookup_file hfile) heq
        exact hnone c hc hplace'

end Outline
