import Mathlib
import Outline.Proofs.Buffer.Progress
import Outline.Proofs.Host.Lawful

/-!
# Edits of one file

Edits of one document are applied to its file exactly when the document names a file with a text
that the edits can be applied to, and the file can be swapped for one with the new text. Nothing but
that file changes.
-/

namespace Outline

open Outline.Action

namespace Disk

variable {d : Disk} {place : Place} {uri : Uri} {edits : List TextEdit} {text new : String}

/-- A temporary file can be written beside the file at a place and renamed over it: the path of the
file does not end in what looks like a drive, and the path and the name of the temporary file, which
are longer by 16 bytes, are not too long. -/
structure Swappable (place : Place) : Prop where
  noDrive   : Uri.endsInDrive (Path.ofNames place).bytes = false
  noNul     : 0 ∉ (Path.ofNames place).bytes
  shortPath : (Path.ofNames place).bytes.length + 16 ≤ pathLimit
  shortName : ∀ n ∈ place.getLast?, n.length + 16 ≤ nameLimit

/-- Edits of the document with a URI give the file at a place a new text. -/
structure Rewritten (d : Disk) (uri : Uri) (edits : List TextEdit) (place : Place) (new : String) :
    Prop where
  named     : ∃ path, uri.path? = some path ∧ d.canonicalize path = .ok place
  swappable : Swappable place
  edited    : ∃ text, d.lookup place = some (.file text.toUTF8) ∧ applyEdits text edits = .ok new

/-! ### An edit set with one document -/

lemma filePath_eq_ok_iff {path : Path} : uri.filePath = .ok path ↔ uri.path? = some path := by
  unfold Uri.filePath
  cases uri.path? with
  | none => simp
  | some path' => simp

/-- The path of a URI starts at the root. -/
lemma join_of_path? {path : Path} (h : uri.path? = some path) (cwd : Path) :
    cwd.join path = path := by
  obtain ⟨bytes, hbytes, rfl⟩ := Option.map_eq_some_iff.mp h
  unfold Uri.toPath? at hbytes
  split at hbytes
  · split at hbytes
    · rw [← Option.some.inj hbytes, Path.join, if_pos]
      split
      · rfl
      · rfl
    · cases hbytes
  · cases hbytes

lemma uriOf_eq_ok_iff {cwd path : Path} :
    d.uriOf cwd path = .ok uri ↔
      ∃ place, d.canonicalize (cwd.join path) = .ok place ∧ uri = .ofNames place := by
  unfold uriOf
  cases d.canonicalize (cwd.join path) with
  | error e => simp
  | ok place => simp [eq_comm]

lemma canonicalChanges_singleton_eq_ok_iff {files : EditSet} :
    d.canonicalChanges [(uri, edits)] = .ok files ↔
      ∃ path place, uri.path? = some path ∧ d.canonicalize path = .ok place ∧
        files = [(.ofNames place, edits)] := by
  rw [canonicalChanges, List.foldlM_cons]
  simp only [List.foldlM_nil, bind_eq_ok_iff, pure_eq_ok_iff, filePath_eq_ok_iff, uriOf_eq_ok_iff]
  constructor
  · rintro ⟨_, ⟨path, hpath, _, ⟨place, hplace, rfl⟩, rfl⟩, rfl⟩
    rw [join_of_path? hpath] at hplace
    exact ⟨path, place, hpath, hplace, rfl⟩
  · rintro ⟨path, place, hpath, hplace, rfl⟩
    rw [← join_of_path? hpath ⟨[Path.slash]⟩] at hplace
    exact ⟨_, ⟨path, hpath, _, ⟨place, hplace, rfl⟩, rfl⟩, rfl⟩

lemma inLine_singleton_iff {b : Buffers} :
    b.InLine d [(.ofNames place, edits)] ↔
      ∃ buffer, Keyed.get? (.ofNames place) b = some buffer ∧
        d.readText (Uri.pathOf place) = .ok buffer.text := by
  simp only [Buffers.InLine, List.forall_mem_singleton, Uri.path?_ofNames]
  constructor
  · rintro ⟨_, buffer, ⟨⟩, hbuffer, hread⟩
    exact ⟨buffer, hbuffer, hread⟩
  · rintro ⟨buffer, hbuffer, hread⟩
    exact ⟨_, buffer, rfl, hbuffer, hread⟩

/-- The document at a place with its new text. -/
def pendingAt (place : Place) (text new : String) : PendingDocument :=
  ⟨.ofNames place, Uri.pathOf place, new, text⟩

lemma prepare_singleton_eq_ok_iff {b : Buffers} {buffer : Buffer} {docs : List PendingDocument}
    (hbuffer : Keyed.get? (.ofNames place) b = some buffer) :
    b.prepare [(.ofNames place, edits)] = .ok docs ↔
      ∃ new, applyEdits buffer.text edits = .ok new ∧
        docs = [pendingAt place buffer.text new] := by
  have hprepare : b.prepareDocument (.ofNames place) edits =
      ((applyEdits buffer.text edits).mapError .ofEdit).map (pendingAt place buffer.text) := by
    simp only [Buffers.prepareDocument, hbuffer, Uri.path?_ofNames]
    cases applyEdits buffer.text edits with
    | error e => rfl
    | ok new => rfl
  rw [Buffers.prepare, mapM_eq_ok_iff]
  simp only [List.map_singleton, hprepare]
  rw [eq_comm, List.map_eq_singleton_iff]
  cases applyEdits buffer.text edits with
  | error e => simp [Except.mapError, Except.map]
  | ok new => simp [Except.mapError, Except.map]

/-! ### Swapping the file -/

lemma checkPath_eq_ok_iff {path : Path} :
    checkPath path = .ok () ↔
      0 ∉ path.bytes ∧ path.bytes ≠ [] ∧ path.bytes.length ≤ pathLimit := by
  unfold checkPath
  simp only [bind_eq_ok_iff, checkNames_eq_ok_iff]
  by_cases hlong : path.bytes.length > pathLimit
  · simp [hlong, throw, throwThe, MonadExceptOf.throw]
  · have hle : path.bytes.length ≤ pathLimit := Nat.le_of_not_gt hlong
    simp [hle, pure, Except.pure, and_comm]

/-- The path of a temporary file is checked like that of its document, but is longer. -/
lemma checkPath_temporary_iff (place : Place) :
    checkPath ((Path.ofNames place).addSuffix ".symbolsmith-tmp") = .ok () ↔
      0 ∉ (Path.ofNames place).bytes ∧ (Path.ofNames place).bytes.length + 16 ≤ pathLimit := by
  have hnul : (0 : UInt8) ∉ utf8Bytes ".symbolsmith-tmp" := by decide
  have hlength : (utf8Bytes ".symbolsmith-tmp").length = 16 := rfl
  simp [checkPath_eq_ok_iff, Path.addSuffix, hnul, hlength, Path.bytes_ofNames_ne_nil]

lemma addSuffix_ofNames_concat (front : Place) (n : Name) (suffix : String) :
    (Path.ofNames (front ++ [n])).addSuffix suffix =
      Path.ofNames (front ++ [n ++ utf8Bytes suffix]) := by
  rw [Path.addSuffix, Path.mk.injEq, Path.bytes_ofNames_concat, Path.bytes_ofNames_concat]
  simp

/-- A file that can be read by its URI can be replaced. -/
lemma replaceable_pendingAt (hsolid : d.Solid place)
    (hread : d.readText (Uri.pathOf place) = .ok text) :
    Replaceable d (pendingAt place text new) := by
  obtain ⟨-, hslash, hfile⟩ := hsolid.readText_pathOf_eq_ok_iff.mp hread
  obtain ⟨hne, hdrive⟩ := hsolid.endsInSlash_pathOf_eq_false_iff.mp hslash
  have hpath : Uri.pathOf place = Path.ofNames place := by simp [Uri.pathOf, hdrive]
  obtain ⟨_, hfind⟩ := file_of_readText hread
  rw [hpath] at hfind
  obtain ⟨front, n, rfl⟩ := (List.eq_nil_or_concat place).resolve_left hne
  rw [List.concat_eq_append] at *
  have hfront := hsolid.dropLast
  rw [List.dropLast_concat] at hfront
  have hplace := Path.place_ofNames hsolid.proper
  refine ⟨?_, ?_, ?_⟩
  · change Located d (Uri.pathOf (front ++ [n]))
    rw [hpath]
    exact hfront.located (hsolid.proper n (by simp)) fun _ => hsolid.settled
  · change Open d (Uri.pathOf (front ++ [n]))
    rw [hpath]
    exact (hsolid.lookup_of_find hfind).1
  · change d.lookup (Uri.pathOf (front ++ [n])).place = some (.file text.toUTF8)
    rw [hpath, hplace, hfile]

lemma vacant_pendingAt_iff (hsolid : d.Solid place) (hfree : d.NoTemporaries)
    (hread : d.readText (Uri.pathOf place) = .ok text) :
    Vacant d (pendingAt place text new) ↔ Swappable place := by
  obtain ⟨-, hslash, -⟩ := hsolid.readText_pathOf_eq_ok_iff.mp hread
  obtain ⟨hne, hdrive⟩ := hsolid.endsInSlash_pathOf_eq_false_iff.mp hslash
  have hpath : Uri.pathOf place = Path.ofNames place := by simp [Uri.pathOf, hdrive]
  obtain ⟨front, n, rfl⟩ := (List.eq_nil_or_concat place).resolve_left hne
  rw [List.concat_eq_append] at *
  have htemporary : (pendingAt (front ++ [n]) text new).temporary =
      Path.ofNames (front ++ [n ++ utf8Bytes ".symbolsmith-tmp"]) := by
    rw [← addSuffix_ofNames_concat, ← hpath]
    rfl
  have hproper : ∀ m ∈ front ++ [n ++ utf8Bytes ".symbolsmith-tmp"], Proper m := by
    refine List.forall_mem_append.mpr ⟨fun m hm => hsolid.proper m (by simp [hm]), ?_⟩
    exact List.forall_mem_singleton.mpr
      (proper_append_suffix n (hsolid.proper n (by simp)).slashless)
  have hplace := Path.place_ofNames hproper
  have hnone : d.lookup (front ++ [n ++ utf8Bytes ".symbolsmith-tmp"]) = none :=
    hfree.lookup_eq_none (List.suffix_append n _)
  have hlength : (n ++ utf8Bytes ".symbolsmith-tmp").length = n.length + 16 := by
    rw [List.length_append]
    rfl
  have hdir : d.lookup front = some .directory :=
    hsolid.above front (List.prefix_append front _) (by simp)
  rw [Vacant, htemporary, open_iff hplace, hplace, hlength, ← addSuffix_ofNames_concat,
    checkPath_temporary_iff]
  constructor
  · rintro ⟨⟨⟨hnul, hpathLength⟩, -, hnameLength⟩, -⟩
    exact ⟨hdrive, hnul, hpathLength, by simpa using hnameLength⟩
  · rintro ⟨-, hnul, hpathLength, hnameLength⟩
    exact ⟨⟨⟨hnul, hpathLength⟩, hdir, hnameLength n (by simp)⟩, hnone⟩

/-- One document of an edit set is committed exactly when its file can be swapped. -/
lemma commit_pendingAt (hsolid : d.Solid place) (hfree : d.NoTemporaries)
    (hread : d.readText (Uri.pathOf place) = .ok text) (hsited : Sited d [pendingAt place text new]) :
    (commit d [pendingAt place text new]).2 = none ↔ Swappable place := by
  rw [commit_eq_none_iff hsited, List.forall_mem_singleton, vacant_pendingAt_iff hsolid hfree hread]
  exact and_iff_left (replaceable_pendingAt hsolid hread)

/-- A file that is swappable is read by its URI. -/
lemma Swappable.readText_pathOf (h : Swappable place) (hsolid : d.Solid place)
    (hfile : d.lookup place = some (.file text.toUTF8)) :
    d.readText (Uri.pathOf place) = .ok text := by
  have hne : place ≠ [] := by
    rintro rfl
    cases hfile
  have hpath : Uri.pathOf place = Path.ofNames place := by simp [Uri.pathOf, h.noDrive]
  refine hsolid.readText_pathOf_eq_ok_iff.mpr ⟨?_, ?_, hfile⟩
  · rw [hpath, checkPath_eq_ok_iff]
    have hshort := h.shortPath
    exact ⟨h.noNul, Path.bytes_ofNames_ne_nil place, by omega⟩
  · exact hsolid.endsInSlash_pathOf_eq_false_iff.mpr ⟨hne, h.noDrive⟩

/-- Only the file itself is changed. -/
lemma lookup_commit_pendingAt (hsolid : d.Solid place) (hfree : d.NoTemporaries)
    (hread : d.readText (Uri.pathOf place) = .ok text) (hsited : Sited d [pendingAt place text new])
    (hswappable : Swappable place) :
    ∃ d', commit d [pendingAt place text new] = (d', none) ∧
      d'.lookup place = some (.file new.toUTF8) ∧
      ∀ other, other ≠ place → d'.lookup other = d.lookup other := by
  have hnone := (commit_pendingAt hsolid hfree hread hsited).mpr hswappable
  have hstage := commit_stage hsited
  rcases hcommit : commit d [pendingAt place text new] with ⟨d', e⟩
  rw [hcommit] at hnone hstage
  subst hnone
  have hpending : (pendingAt place text new).path.place = place := Uri.place_pathOf hsolid.proper
  refine ⟨d', rfl, ?_, fun other hother => ?_⟩
  · rw [← hpending]
    exact (hstage.1.replaced _ (List.mem_singleton.mpr rfl)).2
  · refine hstage.1.kept other (by simp) (List.forall_mem_singleton.mpr ?_)
    rw [hpending]
    exact hother.symm

/-! ### Applying the edits -/

lemma sited_pendingAt {path : Path} {b : Buffers} {buffer : Buffer} (hfree : d.NoTemporaries)
    (hpath : uri.path? = some path) (hplace : d.canonicalize path = .ok place)
    (hbuffer : Keyed.get? (.ofNames place) b = some buffer)
    (hread : d.readText (Uri.pathOf place) = .ok buffer.text)
    (hedit : applyEdits buffer.text edits = .ok new) :
    Sited d [pendingAt place buffer.text new] := by
  have hfiles : d.canonicalChanges [(uri, edits)] = .ok [(.ofNames place, edits)] :=
    canonicalChanges_singleton_eq_ok_iff.mpr ⟨path, place, hpath, hplace, rfl⟩
  have hinLine : b.InLine d [(.ofNames place, edits)] :=
    inLine_singleton_iff.mpr ⟨buffer, hbuffer, hread⟩
  exact (hinLine.ready hfiles hfree.unclaimed).sited
    ((prepare_singleton_eq_ok_iff hbuffer).mpr ⟨new, hedit, rfl⟩)

lemma Rewritten.openable (h : d.Rewritten uri edits place new) : d.Openable [(uri, edits)] := by
  obtain ⟨⟨path, hpath, hplace⟩, hswappable, text, hfile, -⟩ := h
  have hread := hswappable.readText_pathOf (solid_of_canonicalize hplace) hfile
  refine ⟨[(.ofNames place, edits)], [(.ofNames place, ⟨0, text⟩)],
    canonicalChanges_singleton_eq_ok_iff.mpr ⟨path, place, hpath, hplace, rfl⟩,
    inLine_singleton_iff.mpr ⟨⟨0, text⟩, ?_, hread⟩⟩
  exact Keyed.get?_insert_self _ _ []

end Disk

open Disk

variable {disk disk' : Disk} {uri : Uri} {edits : List TextEdit}

/-- Edits of one document that are applied have rewritten its file. -/
lemma AppliedToFiles.exists_rewritten (h : AppliedToFiles disk [(uri, edits)] (.ok ()) disk')
    (hfree : disk.NoTemporaries) : ∃ place new, disk.Rewritten uri edits place new := by
  generalize houtcome : (.ok () : Except HostError Unit) = outcome at h
  cases h with
  | unopened e h => cases houtcome
  | changed canonical inLine applied =>
    rename_i files b b' outcome
    obtain ⟨path, place, hpath, hplace, rfl⟩ := canonicalChanges_singleton_eq_ok_iff.mp canonical
    obtain ⟨buffer, hbuffer, hread⟩ := inLine_singleton_iff.mp inLine
    have hsolid := solid_of_canonicalize hplace
    rcases b.apply_cases disk [(.ofNames place, edits)] with
      ⟨e, heq⟩ | ⟨docs, _, hprepare, ⟨e, -, heq⟩ | ⟨hcommit, -⟩⟩
    · cases heq.symm.trans applied
      cases houtcome
    · cases heq.symm.trans applied
      cases houtcome
    · obtain ⟨new, hedit, rfl⟩ := (prepare_singleton_eq_ok_iff hbuffer).mp hprepare
      have hsited := sited_pendingAt hfree hpath hplace hbuffer hread hedit
      have hswappable := (commit_pendingAt hsolid hfree hread hsited).mp (by rw [hcommit])
      have hfile := (hsolid.readText_pathOf_eq_ok_iff.mp hread).2.2
      exact ⟨place, new, ⟨path, hpath, hplace⟩, hswappable, buffer.text, hfile, hedit⟩

/-- Edits of one document that can be applied are, and change its file only. -/
lemma AppliedToFiles.of_rewritten {outcome : Except HostError Unit} {place : Place} {new : String}
    (h : AppliedToFiles disk [(uri, edits)] outcome disk') (hfree : disk.NoTemporaries)
    (hrewritten : disk.Rewritten uri edits place new) :
    outcome = .ok () ∧ disk'.lookup place = some (.file new.toUTF8) ∧
      ∀ other, other ≠ place → disk'.lookup other = disk.lookup other := by
  cases h with
  | unopened e h => exact absurd hrewritten.openable h
  | changed canonical inLine applied =>
    rename_i files b b' outcome
    obtain ⟨⟨path, hpath, hplace⟩, hswappable, text, hfile, hedit⟩ := hrewritten
    obtain rfl : files = [(.ofNames place, edits)] := Except.ok.inj (canonical.symm.trans
      (canonicalChanges_singleton_eq_ok_iff.mpr ⟨path, place, hpath, hplace, rfl⟩))
    have hsolid := solid_of_canonicalize hplace
    have hread := hswappable.readText_pathOf hsolid hfile
    obtain ⟨⟨version, text'⟩, hbuffer, hread'⟩ := inLine_singleton_iff.mp inLine
    obtain rfl := Except.ok.inj (hread.symm.trans hread')
    have hsited := sited_pendingAt hfree hpath hplace hbuffer hread hedit
    obtain ⟨d, hcommit, hlookups⟩ :=
      lookup_commit_pendingAt hsolid hfree hread hsited hswappable
    rw [Buffers.apply, (prepare_singleton_eq_ok_iff hbuffer).mpr ⟨new, hedit, rfl⟩] at applied
    simp only [hcommit] at applied
    cases applied
    exact ⟨rfl, hlookups⟩

end Outline
