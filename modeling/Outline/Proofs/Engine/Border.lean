import Mathlib
import Outline.Host.Canned
import Outline.Proofs.Disk.Relative
import Outline.Proofs.Engine.BodyEdits

/-!
# The border of the workspace

A path that is given must lead to a file under the root, after all links. Of the symbols that a
server finds, those are kept whose path begins with the names of the root, wherever it leads. Both
say the same of a path that goes straight to its file, without a link and without leaving a
directory, and may differ for any other.
-/

namespace Outline

/-- The names of the path of the URI begin with those of the place. -/
def Uri.isNamedUnder (root : Place) (uri : Uri) : Bool :=
  match uri.path? with
  | some path => (root.map Piece.name).isPrefixOf path.names
  | none      => false

namespace Disk

variable {d : Disk} {root place goal : Place} {path : Path} {uri : Uri}

/-- The file of the URI is under the root, by the place where its path leads. -/
def isPlacedUnder (d : Disk) (root : Path) (uri : Uri) : Bool :=
  match d.placeOf uri with
  | some place => (Path.ofNames place).isUnder root
  | none       => false

/-- The path leads to the place by way of no link, and leaves no directory again. -/
structure LeadsStraight (d : Disk) (path : Path) (place : Place) : Prop where
  leadsTo  : d.LeadsTo path place
  noLink   : d.Leads 0 [] path.pieces place
  noParent : .parent ∉ path.names

lemma Leads.eq_append {names : List Name} (h : d.Leads 0 place (names.map .name) goal) :
    goal = place ++ names := by
  induction names generalizing place with
  | nil =>
    cases h
    rw [List.append_nil]
  | cons n names ih =>
    rw [List.map_cons] at h
    obtain ⟨-, -, ⟨-, further⟩ | ⟨links, target, hlinks, -, -⟩⟩ := leads_name_iff.mp h
    · rw [ih further, ← List.append_cons]
    · cases hlinks

/-- The names of a place lead straight to it. -/
lemma leadsStraight_of_names (h : d.canonicalize path = .ok place)
    (hpieces : path.pieces = place.map .name) (hnames : path.names = place.map .name) :
    d.LeadsStraight path place where
  leadsTo := canonicalize_eq_ok_iff.mp h
  noLink := hpieces ▸ (solid_of_canonicalize h).leads 0
  noParent := by simp [hnames]

/-- Such a path has the names of the place. -/
lemma LeadsStraight.names_eq (h : d.LeadsStraight path place) :
    path.names = place.map .name := by
  have hnames : path.names = (path.parts.filter (!Path.isIdle ·)).map .name := by
    refine List.map_congr_left fun part hpart => ?_
    have hmoves : Path.isIdle part = false := by simpa using (List.mem_filter.mp hpart).2
    have hdot : part ≠ [Path.dot] := by
      rintro rfl
      cases hmoves
    have hdots : part ≠ [Path.dot, Path.dot] := by
      rintro rfl
      exact h.noParent (List.mem_map.mpr ⟨_, hpart, rfl⟩)
    rw [Path.pieceOf, if_neg hdots, if_neg hdot]
  have hleads := h.noLink.thinned (.of_names path)
  rw [hnames] at hleads ⊢
  rw [hleads.eq_append, List.nil_append]

lemma isInside_eq_isNamedUnder (hroot : ∀ n ∈ root, Proper n) :
    isInside (.ofNames root) uri = uri.isNamedUnder root := by
  unfold isInside Uri.isNamedUnder
  cases uri.path? with
  | none => rfl
  | some path =>
    rw [Bool.eq_iff_iff, List.isPrefixOf_iff_prefix, Path.isUnder_iff (Path.isAbsolute_ofNames root),
      Path.names_ofNames hroot]

/-- The border is the same for a path that goes straight to its file. -/
lemma LeadsStraight.isNamedUnder_eq (h : d.LeadsStraight path place)
    (hpath : uri.path? = some path) (hroot : ∀ n ∈ root, Proper n) :
    uri.isNamedUnder root = d.isPlacedUnder (.ofNames root) uri := by
  have hplaceOf : d.placeOf uri = some place :=
    placeOf_eq_some_iff.mpr ⟨path, hpath, canonicalize_eq_ok_iff.mpr h.leadsTo⟩
  simp only [Uri.isNamedUnder, isPlacedUnder, hpath, hplaceOf, h.names_eq]
  rw [Bool.eq_iff_iff, List.isPrefixOf_iff_prefix, Path.isUnder_iff (Path.isAbsolute_ofNames root),
    Path.names_ofNames hroot, Path.names_ofNames h.leadsTo.solid.proper]

end Disk

namespace Engine

open Outline.Action

variable {σ : Type} [Host σ]

/-- The first hits in the workspace are shown, in the order of the server. A hit is taken to be in
the workspace by the names of its path. This is the border that is drawn for paths when every path
goes straight to its file. -/
theorem workspaceSymbols_named_inside (d : Disk) (root : Place) (query : String) (limit : Nat)
    (s s' : σ) (hits : List WorkspaceHit) (hroot : d.canonicalize (.ofNames root) = .ok root)
    (hanswer : exec (.orEmpty [] (Host.workspaceSymbols query)) s = (.ok hits, s')) :
    exec (workspaceSymbols (.ofNames root) query false limit) s =
        (.ok (((hits.filter fun hit => hit.location.uri.isNamedUnder root).take limit).map
          (.ofHit (.ofNames root))), s') ∧
      ((∀ hit ∈ hits, ∃ path place, hit.location.uri.path? = some path ∧
          d.LeadsStraight path place) →
        exec (workspaceSymbols (.ofNames root) query false limit) s =
          (.ok (((hits.filter fun hit => d.isPlacedUnder (.ofNames root) hit.location.uri).take
            limit).map (.ofHit (.ofNames root))), s')) := by
  have hproper := (Disk.solid_of_canonicalize hroot).proper
  have hnamed : exec (workspaceSymbols (.ofNames root) query false limit) s =
      (.ok (((hits.filter fun hit => hit.location.uri.isNamedUnder root).take limit).map
        (.ofHit (.ofNames root))), s') := by
    rw [workspaceSymbols, exec_bind_of_ok (exec_ofHost_eq_ok_iff.mpr hanswer), exec_pure]
    simp only [Bool.false_or, Disk.isInside_eq_isNamedUnder hproper]
  refine ⟨hnamed, fun hstraight => ?_⟩
  rw [hnamed, List.filter_congr fun hit hhit => ?_]
  obtain ⟨path, place, hpath, hleads⟩ := hstraight hit hhit
  exact hleads.isNamedUnder_eq hpath hproper

/-- A workspace `w` with the file `f` and a link `l` out to the file `o`. Beside it the link `k`
leads in to `f`. -/
def borderDisk : Disk :=
  ⟨[([[0x77]], .directory), ([[0x77], [0x66]], .file "f".toUTF8),
    ([[0x77], [0x6C]], .link ⟨[0x2F, 0x6F]⟩), ([[0x6F]], .file "o".toUTF8),
    ([[0x6B]], .link ⟨[0x77, 0x2F, 0x66]⟩)]⟩

/-- A symbol found in the file with these names. -/
def hitAt (names : List Name) : WorkspaceHit :=
  ⟨"f", ⟨12⟩, none, ⟨.ofNames names, ⟨⟨0, 0⟩, ⟨0, 1⟩⟩⟩⟩

/-- A host that finds these symbols. -/
def borderHost (hits : List WorkspaceHit) : CannedHost :=
  { disk := borderDisk, workspaceSymbols := hits }

/-- Of the files themselves `f` is kept and `o` is dropped. -/
theorem workspaceSymbols_borderHost :
    (exec (workspaceSymbols (.ofNames [[0x77]]) "f" false 2)
        (borderHost [hitAt [[0x77], [0x66]], hitAt [[0x6F]]])).1 =
      .ok [.ofHit (.ofNames [[0x77]]) (hitAt [[0x77], [0x66]])] := by
  have hanswer : exec (.orEmpty [] (Host.workspaceSymbols "f"))
      (borderHost [hitAt [[0x77], [0x66]], hitAt [[0x6F]]]) =
        (.ok [hitAt [[0x77], [0x66]], hitAt [[0x6F]]], _) := rfl
  have hstraight : ∀ hit ∈ [hitAt [[0x77], [0x66]], hitAt [[0x6F]]], ∃ path place,
      hit.location.uri.path? = some path ∧ borderDisk.LeadsStraight path place := by
    rw [List.forall_mem_cons, List.forall_mem_singleton]
    refine ⟨⟨.ofNames [[0x77], [0x66]], [[0x77], [0x66]], by decide, ?_⟩,
      ⟨.ofNames [[0x6F]], [[0x6F]], by decide, ?_⟩⟩
    · exact Disk.leadsStraight_of_names (by decide) (by decide) (by decide)
    · exact Disk.leadsStraight_of_names (by decide) (by decide) (by decide)
  rw [(workspaceSymbols_named_inside borderDisk [[0x77]] "f" 2 _ _ _ (by decide)
    hanswer).2 hstraight]
  rfl

/-- The link in the workspace is kept, though its file is outside, and the link outside is dropped,
though its file is in the workspace. -/
theorem workspaceSymbols_crosses_border :
    (∀ hit ∈ [hitAt [[0x77], [0x6C]], hitAt [[0x6B]]], ∃ place content,
        borderDisk.placeOf hit.location.uri = some place ∧
        borderDisk.lookup place = some (.file content)) ∧
      (exec (workspaceSymbols (.ofNames [[0x77]]) "f" false 2)
          (borderHost [hitAt [[0x77], [0x6C]], hitAt [[0x6B]]])).1 =
        .ok [.ofHit (.ofNames [[0x77]]) (hitAt [[0x77], [0x6C]])] ∧
      [hitAt [[0x77], [0x6C]], hitAt [[0x6B]]].filter (fun hit =>
          borderDisk.isPlacedUnder (.ofNames [[0x77]]) hit.location.uri) = [hitAt [[0x6B]]] := by
  refine ⟨?_, by rfl, by decide⟩
  rw [List.forall_mem_cons, List.forall_mem_singleton]
  exact ⟨⟨[[0x6F]], "o".toUTF8, by decide⟩, ⟨[[0x77], [0x66]], "f".toUTF8, by decide⟩⟩

end Engine

end Outline
