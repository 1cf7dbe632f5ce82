import Mathlib
import Outline.Proofs.Engine.Renaming

/-!
# How many documents a rename changes

A rename tells of as many documents as its plan has URIs, and the files are counted after that, when
URIs that lead to one file are joined. So the number is never too small, and it is that of the files
exactly when no two URIs of the plan lead to one file.
-/

namespace Outline

open Outline.Action

/-! ### Files of an edit set -/

namespace Disk

variable {d : Disk} {changes files : EditSet}

/-- The places of the files that the documents of an edit set lead to, each once. -/
def filesOf (d : Disk) (changes : EditSet) : List Place :=
  (changes.filterMap fun c => d.placeOf c.1).dedup

lemma mem_filesOf_iff {place : Place} :
    place ∈ d.filesOf changes ↔ ∃ c ∈ changes, d.placeOf c.1 = some place := by
  rw [filesOf, List.mem_dedup, List.mem_filterMap]

section Named

variable (hnamed : ∀ c ∈ changes, ∃ place, d.placeOf c.1 = some place)
include hnamed

lemma length_filterMap_placeOf :
    (changes.filterMap fun c => d.placeOf c.1).length = changes.length := by
  rw [List.filterMap_length_eq_length]
  intro c hc
  obtain ⟨place, hplace⟩ := hnamed c hc
  rw [hplace, Option.isSome_some]

/-- There are no more files than documents. -/
lemma length_filesOf_le : (d.filesOf changes).length ≤ changes.length := by
  rw [← length_filterMap_placeOf hnamed]
  exact (List.dedup_sublist _).length_le

/-- There are as many files as documents when no two documents lead to one file. -/
lemma length_filesOf_eq_iff :
    (d.filesOf changes).length = changes.length ↔
      changes.Pairwise fun c c' => d.placeOf c.1 ≠ d.placeOf c'.1 := by
  have hnodup : (changes.filterMap fun c => d.placeOf c.1).Nodup ↔
      changes.Pairwise fun c c' => d.placeOf c.1 ≠ d.placeOf c'.1 := by
    rw [List.Nodup, List.pairwise_filterMap]
    refine List.Pairwise.iff_of_mem fun {c c'} hc _ => ?_
    obtain ⟨place, hplace⟩ := hnamed c hc
    cases hplace' : d.placeOf c'.1 with
    | none => simp [hplace]
    | some place' => simp [hplace]
  rw [← hnodup, ← List.dedup_eq_self, ← length_filterMap_placeOf hnamed]
  exact ⟨(List.dedup_sublist _).eq_of_length, fun h => congrArg List.length h⟩

end Named

/-- The documents that are prepared for the files of an edit set are these files, each once. -/
lemma map_place_perm_filesOf {b : Buffers} {docs : List PendingDocument}
    (hfiles : d.canonicalChanges changes = .ok files) (hprepare : b.prepare files = .ok docs) :
    (docs.map (·.path.place)).Perm (d.filesOf changes) := by
  -- a document stands at the place that its URI is the URI of
  have hplace : ∀ doc ∈ docs, doc.uri = .ofNames doc.path.place ∧
      ∃ c ∈ changes, d.placeOf c.1 = some doc.path.place := by
    intro doc hdoc
    obtain ⟨q, hq, hprepared⟩ := Buffers.exists_change hprepare hdoc
    obtain ⟨c, hc, place, hplace, rfl⟩ := editsAt_of_mem_canonicalChanges hfiles hq
    have hpath := hprepared.path
    rw [Uri.path?_ofNames, Option.some.injEq] at hpath
    rw [← hpath, Uri.place_pathOf (solid_of_placeOf hplace).proper]
    exact ⟨hprepared.uri, c, hc, hplace⟩
  have hnodup : (docs.map (·.path.place)).Nodup := by
    have huris : (docs.map PendingDocument.uri).Nodup := by
      rw [Buffers.map_uri_of_prepare hprepare, List.Nodup, List.pairwise_map]
      refine (ascending_canonicalChanges hfiles).imp fun hlt heq => ?_
      rw [Uri.compare_eq_iff.mpr (congrArg Uri.text heq)] at hlt
      cases hlt
    rw [List.map_congr_left fun doc hdoc => (hplace doc hdoc).1] at huris
    refine List.Nodup.of_map Uri.ofNames ?_
    rwa [List.map_map]
  refine (List.perm_ext_iff_of_nodup hnodup (List.nodup_dedup _)).mpr fun place => ?_
  rw [List.mem_map, ← filesOf, mem_filesOf_iff]
  constructor
  · rintro ⟨doc, hdoc, rfl⟩
    exact (hplace doc hdoc).2
  · rintro ⟨c, hc, hcplace⟩
    obtain ⟨doc, hdoc, hprepared⟩ :=
      Buffers.exists_document hprepare (mem_canonicalChanges hfiles hc hcplace)
    have hpath := hprepared.path
    rw [Uri.path?_ofNames, Option.some.injEq] at hpath
    exact ⟨doc, hdoc, by rw [← hpath, Uri.place_pathOf (solid_of_placeOf hcplace).proper]⟩

end Disk

open Disk

/-- Edits that are applied are committed to the files that their documents lead to. -/
lemma AppliedToFiles.exists_commit {disk disk' : Disk} {changes : EditSet}
    (h : AppliedToFiles disk changes (.ok ()) disk') :
    (∀ c ∈ changes, ∃ place, disk.placeOf c.1 = some place) ∧
      ∃ docs, commit disk docs = (disk', none) ∧
        (docs.map (·.path.place)).Perm (disk.filesOf changes) := by
  generalize houtcome : (.ok () : Except HostError Unit) = outcome at h
  cases h with
  | unopened e h => cases houtcome
  | changed canonical inLine applied =>
    rename_i files b b' outcome
    refine ⟨exists_placeOf_of_canonicalChanges canonical, ?_⟩
    rcases b.apply_cases disk files with
      ⟨e, heq⟩ | ⟨docs, _, hprepare, ⟨e, -, heq⟩ | ⟨hcommit, heq⟩⟩
    · cases heq.symm.trans applied
      cases houtcome
    · cases heq.symm.trans applied
      cases houtcome
    · cases heq.symm.trans applied
      exact ⟨docs, hcommit, map_place_perm_filesOf canonical hprepare⟩

namespace Engine

variable {σ : Type} [Host σ] [FileHost σ]

/-- A rename that succeeds has committed the files that the documents of its plan lead to, and tells
of as many documents as the plan has URIs. That is the number of the files if no two of them lead to
one file, and more otherwise. -/
theorem renameSymbol_counts_spellings (s s' : σ) (root : Path) (namePath path newName : String)
    (outcome : EditOutcome)
    (h : exec (renameSymbol root namePath path newName) s = (.ok outcome, s')) :
    ∃ symbol edit plan after docs, Proposes s root namePath path newName symbol edit after ∧
      planRename edit = some plan ∧ plan.Holds edit.proposals ∧
      commit (Host.disk s) docs = (Host.disk s', none) ∧
      (docs.map (·.path.place)).Perm ((Host.disk s).filesOf plan.changes) ∧
      outcome.changes = plan.changes.length ∧
      ((Host.disk s).filesOf plan.changes).length ≤ outcome.changes ∧
      (((Host.disk s).filesOf plan.changes).length = outcome.changes ↔
        plan.changes.Pairwise fun c c' => (Host.disk s).placeOf c.1 ≠ (Host.disk s).placeOf c'.1) := by
  obtain ⟨symbol, edit, plan, after, hproposes, hplan, rfl, happly⟩ := exists_proposes_of_exec h
  have hreach := FileHost.applyEdits plan.changes after
  rw [happly, hproposes.disk_eq] at hreach
  obtain ⟨hnamed, docs, hcommit, hperm⟩ := hreach.applied.exists_commit
  exact ⟨symbol, edit, plan, after, docs, hproposes, hplan, holds_of_planRename hplan, hcommit, hperm,
    rfl, length_filesOf_le hnamed, length_filesOf_eq_iff hnamed⟩

/-- A host with the file `a` in the directory `d`, where `l` is a link to it. It proposes to rename
the symbol `f` in both, though the edit of the file stands under the link. -/
def respelledHost : CannedHost :=
  let name : Range := ⟨⟨0, 0⟩, ⟨0, 1⟩⟩
  { disk := ⟨[([[0x64]], .directory), ([[0x64], [0x61]], .file "f()".toUTF8),
      ([[0x64], [0x6C]], .link ⟨[0x61]⟩)]⟩
    symbols := [(.ofNames [[0x64], [0x61]], [.mk ⟨"f", none, none, name, none, none, none⟩ none])]
    rename := some ⟨some [(.ofNames [[0x64], [0x61]], []),
      (.ofNames [[0x64], [0x6C]], [⟨name, "g"⟩])], none, none⟩ }

lemma renameSymbol_respelledHost :
    (exec (renameSymbol ⟨[0x2F, 0x64]⟩ "f" "a" "g") respelledHost).1 = .ok ⟨"f", 2⟩ := by
  decide +kernel

theorem counts_spellings_respelledHost :
    (exec (renameSymbol ⟨[0x2F, 0x64]⟩ "f" "a" "g") respelledHost).1 = .ok ⟨"f", 2⟩ ∧
      ∃ plan docs, commit respelledHost.disk docs =
          ((exec (renameSymbol ⟨[0x2F, 0x64]⟩ "f" "a" "g") respelledHost).2.disk, none) ∧
        (docs.map (·.path.place)).Perm (respelledHost.disk.filesOf (EditPlan.changes plan)) ∧
        2 = plan.changes.length ∧
        ((respelledHost.disk.filesOf plan.changes).length = 2 ↔ plan.changes.Pairwise fun c c' =>
          respelledHost.disk.placeOf c.1 ≠ respelledHost.disk.placeOf c'.1) := by
  obtain ⟨_, _, plan, _, docs, -, -, -, hcommit, hperm, hcount, -, hiff⟩ :=
    renameSymbol_counts_spellings respelledHost _ ⟨[0x2F, 0x64]⟩ "f" "a" "g" ⟨"f", 2⟩
      (Prod.ext renameSymbol_respelledHost rfl)
  exact ⟨renameSymbol_respelledHost, plan, docs, hcommit, hperm, hcount, hiff⟩

/-- Two documents are told of there, but `a` is the only file that is rewritten. -/
theorem renameSymbol_overcounts :
    (exec (renameSymbol ⟨[0x2F, 0x64]⟩ "f" "a" "g") respelledHost).1 = .ok ⟨"f", 2⟩ ∧
      respelledHost.disk.changes
          (exec (renameSymbol ⟨[0x2F, 0x64]⟩ "f" "a" "g") respelledHost).2.disk =
        [([[0x64], [0x61]], some "g()".toUTF8)] := by
  refine ⟨renameSymbol_respelledHost, ?_⟩
  decide +kernel

end Engine

end Outline
