import Mathlib
import Outline.Proofs.Buffer.Commit
import Outline.Proofs.Keyed
import Outline.Proofs.Uri.FilePath

/-!
# Applying an edit set

An edit set is applied to open documents and their files as a whole: either every document has its
new text in its buffer and in its file, or no buffer and no entry of the disk has changed.
-/

namespace Outline

open Disk PendingDocument

namespace Buffers

/-! ### Preparing documents -/

/-- A document with its new text, as one change of an edit set asks for it. -/
structure Prepared (b : Buffers) (c : Uri × List TextEdit) (doc : PendingDocument) : Prop where
  uri    : doc.uri = c.1
  path   : c.1.path? = some doc.path
  buffer : ∃ version, Keyed.get? c.1 b = some ⟨version, doc.previous⟩
  text   : applyEdits doc.previous c.2 = .ok doc.text

lemma prepared_of_prepareDocument {b : Buffers} {uri : Uri} {edits : List TextEdit}
    {doc : PendingDocument} (h : b.prepareDocument uri edits = .ok doc) :
    Prepared b (uri, edits) doc := by
  unfold prepareDocument at h
  split at h
  · cases h
  · rename_i buffer hbuffer
    split at h
    · cases h
    · rename_i path hpath
      split at h
      · cases h
      · rename_i text htext
        cases h
        exact ⟨rfl, hpath, ⟨buffer.version, hbuffer⟩, htext⟩

section Prepare

variable {b : Buffers} {changes : EditSet} {docs : List PendingDocument}
  (h : b.prepare changes = .ok docs)
include h

lemma prepared_of_prepare : List.Forall₂ (Prepared b) changes docs := by
  have hmap := mapM_eq_ok_iff.mp h
  rw [← List.forall₂_eq_eq_eq, List.forall₂_map_left_iff, List.forall₂_map_right_iff] at hmap
  exact hmap.imp fun _ _ => prepared_of_prepareDocument

lemma exists_change {doc : PendingDocument} (hdoc : doc ∈ docs) :
    ∃ c ∈ changes, Prepared b c doc := by
  have hmem : (.ok doc : Except HostError PendingDocument) ∈ docs.map .ok := List.mem_map_of_mem hdoc
  rw [← mapM_eq_ok_iff.mp h] at hmem
  obtain ⟨c, hc, hprepared⟩ := List.mem_map.mp hmem
  exact ⟨c, hc, prepared_of_prepareDocument hprepared⟩

lemma exists_document {c : Uri × List TextEdit} (hc : c ∈ changes) :
    ∃ doc ∈ docs, Prepared b c doc := by
  have hmem := List.mem_map_of_mem (f := fun c => b.prepareDocument c.1 c.2) hc
  rw [mapM_eq_ok_iff.mp h] at hmem
  obtain ⟨doc, hdoc, hprepared⟩ := List.mem_map.mp hmem
  exact ⟨doc, hdoc, prepared_of_prepareDocument hprepared.symm⟩

lemma map_uri_of_prepare : docs.map PendingDocument.uri = changes.map Prod.fst := by
  have hforall := prepared_of_prepare h
  clear h
  induction hforall with
  | nil => rfl
  | cons hprepared _ ih => rw [List.map_cons, List.map_cons, hprepared.uri, ih]

end Prepare

/-! ### Taking over new texts -/

lemma get?_update_self (b : Buffers) (uri : Uri) (text : String) :
    Keyed.get? uri (b.update uri text) = some ⟨b.nextVersion uri, text⟩ :=
  Keyed.get?_insert_self uri _ b

lemma get?_update_of_ne {uri uri' : Uri} (h : uri.text ≠ uri'.text) (b : Buffers) (text : String) :
    Keyed.get? uri (b.update uri' text) = Keyed.get? uri b :=
  Keyed.get?_insert_of_ne (fun heq => h (Uri.compare_eq_iff.mp heq)) _ b

lemma nextVersion_update_of_ne {uri uri' : Uri} (h : uri.text ≠ uri'.text) (b : Buffers)
    (text : String) : (b.update uri' text).nextVersion uri = b.nextVersion uri := by
  rw [nextVersion, get?_update_of_ne h, nextVersion]

lemma accept_cons (b : Buffers) (doc : PendingDocument) (docs : List PendingDocument) :
    b.accept (doc :: docs) =
      (((b.update doc.uri doc.text).accept docs).1,
        .changed doc.uri (b.nextVersion doc.uri) doc.text ::
          ((b.update doc.uri doc.text).accept docs).2) := rfl

/-- Documents that are not written do not change. -/
lemma get?_accept_of_ne {b : Buffers} {docs : List PendingDocument} {uri : Uri}
    (h : ∀ doc ∈ docs, uri.text ≠ doc.uri.text) :
    Keyed.get? uri (b.accept docs).1 = Keyed.get? uri b := by
  induction docs generalizing b with
  | nil => rfl
  | cons doc docs ih =>
    rw [List.forall_mem_cons] at h
    rw [accept_cons, ih h.2, get?_update_of_ne h.1]

section Accept

variable {b : Buffers} {docs : List PendingDocument}
  (hapart : docs.Pairwise fun x y => x.uri.text ≠ y.uri.text)
include hapart

/-- Documents that are written have their new texts and their next versions. -/
lemma get?_accept_of_mem {doc : PendingDocument} (hdoc : doc ∈ docs) :
    Keyed.get? doc.uri (b.accept docs).1 = some ⟨b.nextVersion doc.uri, doc.text⟩ := by
  induction docs generalizing b with
  | nil => cases hdoc
  | cons first docs ih =>
    obtain ⟨hfirst, hapart⟩ := List.pairwise_cons.mp hapart
    rw [accept_cons]
    rcases List.mem_cons.mp hdoc with rfl | hdoc
    · rw [get?_accept_of_ne hfirst, get?_update_self]
    · rw [ih hapart hdoc, nextVersion_update_of_ne (hfirst doc hdoc).symm]

/-- The server is told every document that is written, in their order. -/
lemma told_accept : (b.accept docs).2 =
    docs.map fun doc => .changed doc.uri (b.nextVersion doc.uri) doc.text := by
  induction docs generalizing b with
  | nil => rfl
  | cons first docs ih =>
    obtain ⟨hfirst, hapart⟩ := List.pairwise_cons.mp hapart
    rw [accept_cons, ih hapart, List.map_cons, List.cons_eq_cons]
    refine ⟨rfl, List.map_congr_left fun doc hdoc => ?_⟩
    rw [nextVersion_update_of_ne (hfirst doc hdoc).symm]

end Accept

/-! ### Documents on the disk -/

/-- An edit set can be applied as a whole: it is listed in the order of its URIs, which are those of
entries of the disk, every open document it edits is a file with the text of its buffer or a
directory, and nothing but a directory has the name of a temporary file. -/
structure Ready (b : Buffers) (disk : Disk) (changes : EditSet) : Prop where
  ascending : changes.Pairwise fun x y => compare x.1 y.1 = .lt
  canonical : ∀ c ∈ changes, ∃ cwd path, disk.uriOf cwd path = .ok c.1
  saved     : ∀ c ∈ changes, ∀ path buffer, c.1.path? = some path → Keyed.get? c.1 b = some buffer →
    disk.readText path = .ok buffer.text ∨ disk.isDirectory path = true
  free      : ∀ c ∈ changes, ∀ path place, c.1.path? = some path →
    disk.leaf (path.addSuffix ".symbolsmith-tmp") = .ok place →
      disk.lookup place = none ∨ disk.lookup place = some .directory

end Buffers

lemma Disk.exists_place_of_uriOf {d : Disk} {cwd path : Path} {uri : Uri}
    (h : d.uriOf cwd path = .ok uri) : ∃ place, uri = .ofNames place ∧ d.Solid place := by
  unfold uriOf at h
  split at h
  · rename_i place hplace
    cases h
    exact ⟨place, rfl, solid_of_canonicalize hplace⟩
  · cases h

/-- A file that is read as a text holds just that text. -/
lemma Disk.file_of_readText {d : Disk} {path : Path} {text : String}
    (h : d.readText path = .ok text) : ∃ place, d.find path = .ok (place, .file text.toUTF8) := by
  unfold readText read at h
  obtain ⟨content, hcontent, h⟩ := bind_eq_ok_iff.mp h
  obtain ⟨⟨place, entry⟩, hfind, hcontent⟩ := bind_eq_ok_iff.mp hcontent
  cases entry with
  | directory => cases hcontent
  | link target => cases hcontent
  | file content' =>
    cases hcontent
    refine ⟨place, ?_⟩
    split at h
    · rename_i text' htext
      cases h
      unfold String.fromUTF8? at htext
      split at htext
      · cases htext
        exact hfind
      · cases htext
    · cases h

lemma Disk.directory_of_isDirectory {d : Disk} {path : Path} (h : d.isDirectory path = true) :
    ∃ place, d.find path = .ok (place, .directory) := by
  unfold isDirectory at h
  split at h
  · exact ⟨_, by assumption⟩
  · cases h

/-! ### Where temporary files go -/

lemma proper_append_suffix (n : Name) (hn : Path.slash ∉ n) :
    Proper (n ++ utf8Bytes ".symbolsmith-tmp") := by
  have hlen : (n ++ utf8Bytes ".symbolsmith-tmp").length = n.length + 16 := by
    rw [List.length_append]
    rfl
  have hslash : Path.slash ∉ utf8Bytes ".symbolsmith-tmp" := by decide
  refine ⟨?_, by simp [hn, hslash], ?_, ?_⟩
  all_goals
    intro heq
    rw [heq] at hlen
    simp at hlen

/-- The temporary file of a document at a solid place is a name in a solid place too: in the directory
of the document, or in the document itself when its path ends in a slash. -/
lemma exists_temporary {d : Disk} {place : Place} (hsolid : d.Solid place) :
    ∃ front n, (Uri.pathOf place).addSuffix ".symbolsmith-tmp" = Path.ofNames (front ++ [n]) ∧
      d.Solid front ∧ Proper n ∧ ((Uri.pathOf place).endsInSlash = true ∧ front = place ∨
        ∃ m, place = front ++ [m] ∧ Uri.pathOf place = Path.ofNames place) := by
  rcases Uri.pathOf_cases place with hclosed | ⟨front, n, rfl, hliteral⟩
  · refine ⟨place, [] ++ utf8Bytes ".symbolsmith-tmp", ?_, hsolid,
      proper_append_suffix [] (by simp), .inl ⟨?_, rfl⟩⟩
    · rw [Path.addSuffix, hclosed, Path.mk.injEq, Path.bytes_ofNames_concat]
      simp
    · rw [Path.endsInSlash, hclosed, List.getLast?_concat]
      simp
  · have hfront := hsolid.dropLast
    rw [List.dropLast_concat] at hfront
    refine ⟨front, n ++ utf8Bytes ".symbolsmith-tmp", ?_, hfront,
      proper_append_suffix n (hsolid.proper n (by simp)).slashless, .inr ⟨n, rfl, hliteral⟩⟩
    rw [Path.addSuffix, hliteral, Path.mk.injEq, Path.bytes_ofNames_concat,
      Path.bytes_ofNames_concat]
    simp

namespace Buffers

variable {b : Buffers} {disk : Disk} {changes : EditSet} {docs : List PendingDocument}
  {c : Uri × List TextEdit} {doc : PendingDocument}

/-- The place of a document whose URI is that of an entry. -/
lemma Prepared.place_eq (hdoc : Prepared b c doc)
    (hcanonical : ∃ cwd path, disk.uriOf cwd path = .ok c.1) :
    c.1 = .ofNames doc.path.place ∧ doc.path = Uri.pathOf doc.path.place ∧
      disk.Solid doc.path.place := by
  obtain ⟨cwd, path, hcanonical⟩ := hcanonical
  obtain ⟨place, hplace, hsolid⟩ := exists_place_of_uriOf hcanonical
  have hpath : doc.path = Uri.pathOf place := by
    have := hdoc.path
    rw [hplace, Uri.path?_ofNames, Option.some.injEq] at this
    exact this.symm
  have heq : doc.path.place = place := by rw [hpath, Uri.place_pathOf hsolid.proper]
  rw [heq]
  exact ⟨hplace, hpath, hsolid⟩

/-- The place of a document that an edit set asks for. -/
lemma Ready.place_eq (h : b.Ready disk changes) (hc : c ∈ changes) (hdoc : Prepared b c doc) :
    c.1 = .ofNames doc.path.place ∧ doc.path = Uri.pathOf doc.path.place ∧
      disk.Solid doc.path.place :=
  hdoc.place_eq (h.canonical c hc)

lemma Ready.located_temporary (h : b.Ready disk changes) (hc : c ∈ changes)
    (hdoc : Prepared b c doc) : Located disk doc.temporary := by
  obtain ⟨-, hpath, hsolid⟩ := h.place_eq hc hdoc
  obtain ⟨front, n, htemporary, hfront, hn, -⟩ := exists_temporary hsolid
  rw [← hpath] at htemporary
  change Located disk (doc.path.addSuffix ".symbolsmith-tmp")
  rw [htemporary]
  refine hfront.located hn fun hleaf target => ?_
  rw [← htemporary] at hleaf
  rcases h.free c hc doc.path _ hdoc.path hleaf with hnone | hdir
  · simp [hnone]
  · simp [hdir]

lemma Ready.target (h : b.Ready disk changes) (hc : c ∈ changes) (hdoc : Prepared b c doc) :
    doc.path.endsInSlash = true ∨ Located disk doc.path ∧ Open disk doc.path ∧
      (disk.lookup doc.path.place = some (.file doc.previous.toUTF8) ∨
        disk.lookup doc.path.place = some .directory) := by
  obtain ⟨-, hpath, hsolid⟩ := h.place_eq hc hdoc
  obtain ⟨version, hbuffer⟩ := hdoc.buffer
  rcases Uri.pathOf_cases doc.path.place with hclosed | ⟨front, n, hplace, hliteral⟩
  · left
    rw [← hpath] at hclosed
    rw [Path.endsInSlash, hclosed, List.getLast?_concat]
    simp
  · right
    rw [hplace] at hsolid hliteral hpath ⊢
    rw [hliteral] at hpath
    have hfront := hsolid.dropLast
    rw [List.dropLast_concat] at hfront
    rw [hpath]
    refine ⟨hfront.located (hsolid.proper n (by simp)) fun _ => hsolid.settled, ?_⟩
    rcases h.saved c hc doc.path _ hdoc.path hbuffer with htext | hdir
    · obtain ⟨_, hfind⟩ := file_of_readText htext
      rw [hpath] at hfind
      obtain ⟨hopen, hlookup⟩ := hsolid.lookup_of_find hfind
      exact ⟨hopen, .inl hlookup⟩
    · obtain ⟨_, hfind⟩ := directory_of_isDirectory hdir
      rw [hpath] at hfind
      obtain ⟨hopen, hlookup⟩ := hsolid.lookup_of_find hfind
      exact ⟨hopen, .inr hlookup⟩

lemma Ready.text_ne (h : b.Ready disk changes) :
    changes.Pairwise fun x y => x.1.text ≠ y.1.text := by
  refine h.ascending.imp fun hlt heq => ?_
  rw [Uri.compare_eq_iff.mpr heq] at hlt
  cases hlt

lemma Ready.uri_apart (h : b.Ready disk changes) (hprepare : b.prepare changes = .ok docs) :
    docs.Pairwise fun x y => x.uri.text ≠ y.uri.text := by
  have htexts : (changes.map Prod.fst).Pairwise fun u v => u.text ≠ v.text :=
    List.pairwise_map.mpr h.text_ne
  rw [← map_uri_of_prepare hprepare] at htexts
  exact (List.pairwise_map (f := PendingDocument.uri)).mp htexts

/-- The documents of an edit set that can be applied can be committed. -/
lemma Ready.sited (h : b.Ready disk changes) (hprepare : b.prepare changes = .ok docs) :
    Sited disk docs where
  temporary := by
    intro doc hdoc
    obtain ⟨c, hc, hprepared⟩ := exists_change hprepare hdoc
    exact h.located_temporary hc hprepared
  free := by
    intro doc hdoc hopen
    obtain ⟨c, hc, hprepared⟩ := exists_change hprepare hdoc
    have hleaf := (h.located_temporary hc hprepared).leaf_eq_ok_iff.mpr ⟨hopen, rfl⟩
    exact h.free c hc doc.path _ hprepared.path hleaf
  target := by
    intro doc hdoc
    obtain ⟨c, hc, hprepared⟩ := exists_change hprepare hdoc
    exact h.target hc hprepared
  apart := by
    refine (h.uri_apart hprepare).imp_of_mem fun {x y} hx hy hne => ?_
    obtain ⟨c, hc, hcx⟩ := exists_change hprepare hx
    obtain ⟨e, he, hey⟩ := exists_change hprepare hy
    obtain ⟨hxuri, hxpath, -⟩ := h.place_eq hc hcx
    obtain ⟨hyuri, hypath, -⟩ := h.place_eq he hey
    have hplaces : x.path.place ≠ y.path.place := by
      intro heq
      rw [hcx.uri, hey.uri, hxuri, hyuri, heq] at hne
      exact hne rfl
    refine ⟨hplaces, fun heq => hplaces ?_⟩
    -- temporary files of one name are temporary files of one path
    have htemporary : x.temporary = y.temporary := by
      rw [(h.located_temporary hc hcx).literal, (h.located_temporary he hey).literal, heq]
    have hbytes : x.path.bytes = y.path.bytes :=
      List.append_cancel_right (congrArg Path.bytes htemporary)
    rw [show x.path = y.path from congrArg Path.mk hbytes]

/-! ### All or nothing -/

/-- A document has its new text, with the next version in its buffer and in its file, and the server
is told of it. -/
def Edited (b b' : Buffers) (disk' : Disk) (c : Uri × List TextEdit) (told : BufferChange) : Prop :=
  ∃ buffer text place, Keyed.get? c.1 b = some buffer ∧ applyEdits buffer.text c.2 = .ok text ∧
    Keyed.get? c.1 b' = some ⟨buffer.version + 1, text⟩ ∧
    c.1 = .ofNames place ∧ disk'.lookup place = some (.file text.toUTF8) ∧
    told = .changed c.1 (buffer.version + 1) text

/-- All documents of an edit set have their new texts, the server is told of each of them in their
order, and nothing else has changed. -/
structure Applied (b : Buffers) (disk : Disk) (changes : EditSet) (b' : Buffers) (disk' : Disk)
    (told : List BufferChange) : Prop where
  edited      : List.Forall₂ (Edited b b' disk') changes told
  buffers     : ∀ uri, (∀ c ∈ changes, uri.text ≠ c.1.text) → Keyed.get? uri b' = Keyed.get? uri b
  files       : ∀ place, (∀ c ∈ changes, c.1 ≠ .ofNames place) →
    disk'.lookup place = disk.lookup place
  temporaries : ∀ c ∈ changes, ∀ path place, c.1.path? = some path →
    disk.leaf (path.addSuffix ".symbolsmith-tmp") = .ok place → disk'.lookup place = none

lemma Ready.edited (h : b.Ready disk changes) (hprepare : b.prepare changes = .ok docs)
    {disk' : Disk} (hstage : Stage disk [] docs disk') (hc : c ∈ changes) (hdoc : doc ∈ docs)
    (hprepared : Prepared b c doc) :
    Edited b (b.accept docs).1 disk' c (.changed doc.uri (b.nextVersion doc.uri) doc.text) := by
  obtain ⟨hplace, -, -⟩ := h.place_eq hc hprepared
  obtain ⟨version, hbuffer⟩ := hprepared.buffer
  have hversion : b.nextVersion doc.uri = version + 1 := by
    rw [nextVersion, hprepared.uri, hbuffer]
  have hafter := get?_accept_of_mem (b := b) (h.uri_apart hprepare) hdoc
  rw [hversion, hprepared.uri] at hafter ⊢
  exact ⟨⟨version, doc.previous⟩, doc.text, doc.path.place, hbuffer, hprepared.text, hafter, hplace,
    (hstage.replaced doc hdoc).2, rfl⟩

/-- The documents that were committed are the documents of the edit set. -/
lemma Ready.applied (h : b.Ready disk changes) (hprepare : b.prepare changes = .ok docs)
    {disk' : Disk} (hstage : Stage disk [] docs disk') (hvacant : ∀ doc ∈ docs, Vacant disk doc) :
    Applied b disk changes (b.accept docs).1 disk' (b.accept docs).2 where
  edited := by
    obtain ⟨hlen, hzip⟩ := List.forall₂_iff_zip.mp (prepared_of_prepare hprepare)
    rw [told_accept (h.uri_apart hprepare), List.forall₂_map_right_iff, List.forall₂_iff_zip]
    refine ⟨hlen, fun {c doc} hmem => ?_⟩
    obtain ⟨hc, hdoc⟩ := List.of_mem_zip hmem
    exact h.edited hprepare hstage hc hdoc (hzip hmem)
  buffers := by
    intro uri hne
    refine get?_accept_of_ne fun doc hdoc => ?_
    obtain ⟨c, hc, hprepared⟩ := exists_change hprepare hdoc
    rw [hprepared.uri]
    exact hne c hc
  files := by
    intro place hne
    refine hstage.kept place (by simp) fun doc hdoc heq => ?_
    obtain ⟨c, hc, hprepared⟩ := exists_change hprepare hdoc
    exact hne c hc (heq ▸ (h.place_eq hc hprepared).1)
  temporaries := by
    intro c hc path place hpath hleaf
    obtain ⟨doc, hdoc, hprepared⟩ := exists_document hprepare hc
    obtain rfl := Option.some.inj (hprepared.path.symm.trans hpath)
    obtain ⟨-, rfl⟩ := (h.located_temporary hc hprepared).leaf_eq_ok_iff.mp hleaf
    have hne : ∀ e ∈ docs, e.path.place ≠ doc.temporary.place := fun e he =>
      ((h.sited hprepare).temporary_ne hdoc (hstage.replaced e he).1).symm
    rw [hstage.kept _ (by simp) hne, (hvacant doc hdoc).2]

def fileUri : Uri := .ofNames [[0x64], [0x61]]

def directoryUri : Uri := .ofNames [[0x64], [0x62]]

/-- Buffers of both, from the time when `b` was a file. -/
def blockedBuffers : Buffers := [(fileUri, ⟨3, "old"⟩), (directoryUri, ⟨0, ""⟩)]

/-- New texts for both. -/
def blockedChanges : EditSet :=
  [(fileUri, [⟨⟨⟨0, 0⟩, ⟨0, 3⟩⟩, "new"⟩]), (directoryUri, [⟨⟨⟨0, 0⟩, ⟨0, 0⟩⟩, "new"⟩])]

end Buffers

end Outline
