import Mathlib
import Outline.Proofs.Disk.Inside
import Outline.Proofs.Engine.BodyEdits
import Outline.Proofs.Engine.Unchanged
import Outline.Proofs.Host.ManyFiles
import Outline.Proofs.Symbol.Preorder

/-!
# The document that an edit of a symbol changes

A symbol is looked for in the file that a path names, but it is edited in its own document. That is
the same file, unless the server says of an entry of its answer that it is somewhere else. So an edit
changes at most one file, and this is the one that the path names when no entry of the answer is said
to be in another file.
-/

namespace Outline

open Outline.Action

/-! ### Symbols of an answer -/

namespace RawSymbol

/-- The documents that an answer names, for the entries at every depth. -/
def documentsOf (raw : List RawSymbol) : List Uri :=
  (nodesOf raw).filterMap fun n => n.2.location.bind RawLocation.uri

end RawSymbol

lemma RawInfo.uri_of_head? {uri : Uri} {info : RawInfo} {head : SymbolHead}
    (h : info.head? uri = some head) : head.uri = (info.location.bind RawLocation.uri).getD uri := by
  unfold head? at h
  split at h
  · cases h
  · split at h
    · cases h
    · cases h
      rfl

/-- A symbol is in the document that was asked about, or in one that the answer names. -/
lemma uri_of_mem_build {uri : Uri} {raw : List RawSymbol} {s : Symbol}
    (hs : s ∈ (SymbolTree.build uri raw).symbols) :
    s.uri = uri ∨ s.uri ∈ RawSymbol.documentsOf raw := by
  obtain ⟨n, hn, hhead⟩ := exists_node_of_mem_build hs
  have huri : s.uri = (n.2.location.bind RawLocation.uri).getD uri := RawInfo.uri_of_head? hhead
  cases hlocation : n.2.location.bind RawLocation.uri with
  | none => exact .inl (by rw [huri, hlocation, Option.getD_none])
  | some document =>
    rw [hlocation, Option.getD_some] at huri
    exact .inr (List.mem_filterMap.mpr ⟨n, hn, by rw [hlocation, huri]⟩)

namespace NamePath

lemma mem_of_pick {siblings : List Symbol} {segment : String} {s : Symbol}
    (h : pick siblings segment = some s) : s ∈ siblings := by
  unfold pick at h
  split at h
  · rename_i found hfound
    cases h
    exact List.mem_of_find?_eq_some hfound
  · obtain ⟨⟨name, n⟩, -, h⟩ := Option.bind_eq_some_iff.mp h
    exact List.mem_of_mem_filter (List.mem_of_getElem? h)

lemma mem_of_descend {tree : SymbolTree} {segments : List String} {s t : Symbol}
    (hs : s ∈ tree.symbols) (h : descend tree s segments = some t) : t ∈ tree.symbols := by
  induction segments generalizing s with
  | nil =>
    cases h
    exact hs
  | cons segment rest ih =>
    obtain ⟨child, hchild, h⟩ := Option.bind_eq_some_iff.mp h
    exact ih (SymbolTree.mem_children_iff.mp (mem_of_pick hchild)).1 h

end NamePath

lemma SymbolTree.mem_of_resolve {tree : SymbolTree} {namePath : String} {s : Symbol}
    (h : tree.resolve namePath = some s) : s ∈ tree.symbols := by
  unfold resolve at h
  split at h
  · cases h
  · obtain ⟨root, hroot, h⟩ := Option.bind_eq_some_iff.mp h
    exact NamePath.mem_of_descend (mem_roots_iff.mp (NamePath.mem_of_pick hroot)).1 h

namespace Engine

variable {σ : Type} [Host σ] {s s' : σ} {root : Path} {namePath path : String}

/-! ### The symbol of a name path -/

/-- A symbol that is found comes from an answer of the host. -/
lemma exists_resolves_of_exec {symbol : Symbol}
    (h : exec (resolveSymbol root namePath path) s = (.ok symbol, s')) :
    ∃ uri raw, exec (Host.documentSymbols uri) s = (.ok raw, s') ∧
      Resolves (Host.disk s) (fun _ => raw) root namePath path uri symbol := by
  obtain ⟨uri, _, hlocate, h⟩ := exec_bind_eq_ok_iff.mp h
  obtain ⟨tree, between, hloaded, h⟩ := exec_bind_eq_ok_iff.mp h
  obtain ⟨raw, _, hasked, hbuilt⟩ := exec_bind_eq_ok_iff.mp hloaded
  rw [exec_locate] at hlocate
  obtain ⟨hlocated, rfl⟩ := Prod.mk.inj hlocate
  cases hbuilt
  cases hresolved : (SymbolTree.build uri raw).resolve namePath with
  | none =>
    cases hempty : (SymbolTree.build uri raw).isEmpty with
    | true => simp [hempty] at h
    | false => simp [hempty, hresolved] at h
  | some found =>
    have hmem := SymbolTree.mem_of_resolve hresolved
    have hnonempty : (SymbolTree.build uri raw).symbols ≠ [] := List.ne_nil_of_mem hmem
    have hempty : (SymbolTree.build uri raw).isEmpty = false := by
      simpa [SymbolTree.isEmpty] using hnonempty
    simp only [hempty, hresolved] at h
    cases h
    rcases exec_orEmpty_eq_ok_iff.mp (exec_ofHost_eq_ok_iff.mp hasked) with
      hasked | ⟨e, -, -, rfl⟩
    · exact ⟨uri, raw, hasked, hlocated, hnonempty, hresolved⟩
    · -- after a timeout there are no symbols
      cases hmem

/-! ### What an edit reaches -/

/-- An edit changes nothing, or it is applied in the document of the symbol. -/
lemma editSymbol_cases [FileHost σ] (intent : Intent) (hfree : (Host.disk s).Unclaimed) :
    (∀ place, (Host.disk (exec (editSymbol root namePath path intent) s).2).lookup place =
      (Host.disk s).lookup place) ∨
    ∃ symbol between range, exec (resolveSymbol root namePath path) s = (.ok symbol, between) ∧
      AppliedToFiles (Host.disk s) [(symbol.uri, [intent.edit range])] (.ok ())
        (Host.disk (exec (editSymbol root namePath path intent) s).2) := by
  have hkept := keeps_resolveSymbol root namePath path s rfl
  rw [editSymbol]
  rcases hresolve : exec (resolveSymbol root namePath path) s with ⟨e | symbol, between⟩
  · rw [hresolve] at hkept
    rw [exec_bind_of_error hresolve, show Host.disk between = Host.disk s from hkept]
    exact .inl fun _ => rfl
  · rw [hresolve] at hkept
    have hdisk : Host.disk between = Host.disk s := hkept
    rw [exec_bind_of_ok hresolve, exec_liftM_bind]
    cases hrange : symbol.range with
    | none =>
      simp only [planEdit, hrange]
      exact .inl fun place => by rw [hdisk]
    | some range =>
      simp only [planEdit, hrange, applyPlan, exec_bind_pure_snd]
      have hreach := FileHost.applyEdits [(symbol.uri, [intent.edit range])] between
      rw [hdisk] at hreach
      exact (hreach.same_or_applied hfree).imp_right fun happlied =>
        ⟨symbol, between, range, rfl, happlied⟩

/-- The file at `place` is that of a symbol: the name path names the symbol in the file at `named`,
which the path leads to, and the symbol is in the document that was asked about or in one that the
answer of the host names. -/
structure Owns (s : σ) (root : Path) (namePath path : String) (place named : Place)
    (raw : List RawSymbol) (symbol : Symbol) : Prop where
  answered : (exec (Host.documentSymbols (.ofNames named)) s).1 = .ok raw
  resolves : Resolves (Host.disk s) (fun _ => raw) root namePath path (.ofNames named) symbol
  isFile   : ∃ content, (Host.disk s).lookup named = some (.file content)
  inside   : (Path.ofNames named).isUnder root = true
  leads    : (Host.disk s).placeOf symbol.uri = some place
  document : symbol.uri = .ofNames named ∨ symbol.uri ∈ RawSymbol.documentsOf raw

/-- A file that an edit of a symbol changes is that of the symbol. When all documents that the answer
names are in the file that the path leads to, no other file changes, and so none outside the
workspace. -/
theorem editSymbol_changes_own_document [FileHost σ] (s : σ) (root : Path)
    (namePath path : String) (intent : Intent) (hfree : (Host.disk s).NoTemporaries) (place : Place)
    (hchanged : (Host.disk (exec (editSymbol root namePath path intent) s).2).lookup place ≠
      (Host.disk s).lookup place) :
    ∃ named raw symbol, Owns s root namePath path place named raw symbol ∧
      ((∀ uri ∈ RawSymbol.documentsOf raw, ∀ other,
        (Host.disk s).placeOf uri = some other → other = named) → place = named) := by
  rcases editSymbol_cases intent hfree.unclaimed with
    hsame | ⟨symbol, between, range, hresolve, happlied⟩
  · exact absurd (hsame place) hchanged
  obtain ⟨uri, raw, hasked, hresolves⟩ := exists_resolves_of_exec hresolve
  obtain ⟨named, -, hnamed, hinside, hfile, rfl⟩ := Disk.locate_eq_ok_iff.mp hresolves.located
  -- what no document of the edit set leads to is kept
  have hleads : (Host.disk s).placeOf symbol.uri = some place := by
    by_contra hne
    exact hchanged ((happlied.carried hfree.unclaimed).kept place (List.forall_mem_singleton.mpr hne))
  have hdocument := uri_of_mem_build (SymbolTree.mem_of_resolve hresolves.resolved)
  refine ⟨named, raw, symbol, ⟨by rw [hasked], hresolves, hfile, hinside, hleads, hdocument⟩,
    fun hstays => ?_⟩
  rcases hdocument with huri | huri
  · rw [huri] at hleads
    exact (Disk.solid_of_canonicalize hnamed).eq_of_placeOf hleads
  · exact hstays symbol.uri huri place hleads

/-- A host with the file `a` in the directory `d` and other entries. It says of the symbol `f` of `a`
that it is in a document of its choice. -/
def elsewhereHost (entries : List (Place × Entry)) (document : Uri) : CannedHost where
  disk    := ⟨([[0x64]], .directory) :: ([[0x64], [0x61]], .file "let a".toUTF8) :: entries⟩
  symbols := [(.ofNames [[0x64], [0x61]], [.mk ⟨"f", none, none, none, none,
    some ⟨some document, some ⟨⟨0, 0⟩, ⟨0, 3⟩⟩⟩, none⟩ none])]

/-- A host that names the file `a` by a link. -/
def linkedHost : CannedHost :=
  elsewhereHost [([[0x64], [0x6C]], .link ⟨[0x61]⟩)] (.ofNames [[0x64], [0x6C]])

/-- By way of a link the edit stays in the file that the path leads to. -/
theorem editSymbol_linkedHost :
    linkedHost.disk.NoTemporaries ∧
      (exec (editSymbol ⟨[0x2F, 0x64]⟩ "f" "a" (.replace "new")) linkedHost).2.disk.lookup
        [[0x64], [0x61]] ≠ linkedHost.disk.lookup [[0x64], [0x61]] ∧
      ∃ named raw symbol,
        Owns linkedHost ⟨[0x2F, 0x64]⟩ "f" "a" [[0x64], [0x61]] named raw symbol ∧
        (∀ uri ∈ RawSymbol.documentsOf raw, ∀ other,
          linkedHost.disk.placeOf uri = some other → other = named) ∧ [[0x64], [0x61]] = named := by
  have hfree : linkedHost.disk.NoTemporaries := Disk.noTemporaries_of_entries (by decide)
  have hchanged :
      (exec (editSymbol ⟨[0x2F, 0x64]⟩ "f" "a" (.replace "new")) linkedHost).2.disk.lookup
        [[0x64], [0x61]] ≠ linkedHost.disk.lookup [[0x64], [0x61]] := by
    decide +kernel
  obtain ⟨named, raw, symbol, howns, hstays⟩ :=
    editSymbol_changes_own_document linkedHost ⟨[0x2F, 0x64]⟩ "f" "a" (.replace "new") hfree
      [[0x64], [0x61]] hchanged
  have hlink : linkedHost.disk.placeOf (.ofNames [[0x64], [0x6C]]) = some [[0x64], [0x61]] := by
    decide
  have hlocated : linkedHost.disk.locate ⟨[0x2F, 0x64]⟩ "a" = .ok (.ofNames [[0x64], [0x61]]) := by
    decide
  have hnamed : [[0x64], [0x61]] = named :=
    Uri.eq_of_ofNames_eq (Disk.solid_of_placeOf hlink).proper (by decide)
      (Except.ok.inj (hlocated.symm.trans howns.resolves.located))
  subst hnamed
  obtain rfl : linkedHost.symbolsOf (.ofNames [[0x64], [0x61]]) = raw :=
    Except.ok.inj howns.answered
  have hsame : ∀ uri ∈ RawSymbol.documentsOf (linkedHost.symbolsOf (.ofNames [[0x64], [0x61]])),
      ∀ other, linkedHost.disk.placeOf uri = some other → other = [[0x64], [0x61]] := by
    intro uri huri other hother
    rw [List.mem_singleton.mp huri] at hother
    exact Option.some.inj (hother.symm.trans hlink)
  exact ⟨hfree, hchanged, _, _, symbol, howns, hsame, hstays hsame⟩

/-- A host that says of a symbol in the directory `d` that it is in the file `o` beside `d`. -/
def strayHost : CannedHost :=
  elsewhereHost [([[0x6F]], .file "old".toUTF8)] (.ofNames [[0x6F]])

/-- The path leads to the file `a` in the workspace, and a file outside the workspace is changed. -/
theorem editSymbol_strayHost_leaves_workspace :
    strayHost.disk.NoTemporaries ∧
      strayHost.disk.locate ⟨[0x2F, 0x64]⟩ "a" = .ok (.ofNames [[0x64], [0x61]]) ∧
      (Path.ofNames [[0x6F]]).isUnder ⟨[0x2F, 0x64]⟩ = false ∧
      (exec (editSymbol ⟨[0x2F, 0x64]⟩ "f" "a" (.replace "new")) strayHost).1 = .ok ⟨"f", 1⟩ ∧
      strayHost.disk.lookup [[0x6F]] = some (.file "old".toUTF8) ∧
      (exec (editSymbol ⟨[0x2F, 0x64]⟩ "f" "a" (.replace "new")) strayHost).2.disk.lookup
        [[0x6F]] = some (.file "new".toUTF8) := by
  refine ⟨Disk.noTemporaries_of_entries (by decide), ?_, ?_, ?_, ?_, ?_⟩
  all_goals decide +kernel

end Engine

end Outline
