import Mathlib
import Outline.Engine
import Outline.Proofs.Change.Rewrite
import Outline.Proofs.Host.OneFile

/-!
# Edits of the text of a symbol

An edit of a symbol finds the symbol, plans one edit in the document that the symbol names, and has
it applied. It succeeds exactly when each of these steps can be taken. Then the file of the document
has its new text, and all else is as it was.
-/

namespace Outline

open Outline.Action

namespace Engine

open Disk

variable {σ : Type} [Host σ] {s s' : σ}

/-! ### Steps of an edit -/

lemma exec_locate (root : Path) (path : String) (s : σ) :
    exec (locate root path : Action σ ToolError Uri) s = ((Host.disk s).locate root path, s) := by
  rw [locate, exec_get_bind]
  cases (Host.disk s).locate root path with
  | error e => rfl
  | ok uri => rfl

/-- A timeout makes an empty tree. -/
lemma exec_loadTree_eq (uri : Uri) (s : σ) :
    exec (loadTree uri) s =
      ((((exec (Host.documentSymbols uri) s).1.tryCatch fun e =>
        if e.isTimeout then .ok [] else .error e).mapError ToolError.host).map (.build uri),
        (exec (Host.documentSymbols uri) s).2) := by
  rw [loadTree, ofHost, exec_bind, exec_adapt, exec_orEmpty]
  dsimp only
  cases Except.mapError ToolError.host _ with
  | error e => rfl
  | ok raw => rfl

lemma exec_loadTree {uri : Uri} {symbols : List RawSymbol} (hserves : Serves s uri symbols) :
    exec (loadTree uri) s = (.ok (.build uri symbols), (exec (Host.documentSymbols uri) s).2) := by
  rw [exec_loadTree_eq, hserves.answers]
  rfl

/-- The symbol that a name path names in a file, when these are the symbols of documents. -/
structure Resolves (disk : Disk) (symbols : Uri → List RawSymbol) (root : Path)
    (namePath path : String) (uri : Uri) (symbol : Symbol) : Prop where
  located  : disk.locate root path = .ok uri
  nonempty : (SymbolTree.build uri (symbols uri)).symbols ≠ []
  resolved : (SymbolTree.build uri (symbols uri)).resolve namePath = some symbol

variable {symbols : Uri → List RawSymbol} {root : Path} {namePath path : String} {intent : Intent}

lemma exec_resolveSymbol_eq_ok_iff
    (hserves : ∀ uri, (Host.disk s).locate root path = .ok uri → Serves s uri (symbols uri))
    {symbol : Symbol} :
    exec (resolveSymbol root namePath path) s = (.ok symbol, s') ↔
      ∃ uri, Resolves (Host.disk s) symbols root namePath path uri symbol ∧
        s' = (exec (Host.documentSymbols uri) s).2 := by
  rw [resolveSymbol, exec_bind_eq_ok_iff]
  simp only [exec_locate, Prod.mk.injEq]
  constructor
  · rintro ⟨uri, _, ⟨huri, rfl⟩, hexec⟩
    rw [exec_bind_of_ok (exec_loadTree (hserves uri huri))] at hexec
    cases hempty : (SymbolTree.build uri (symbols uri)).isEmpty with
    | true => simp [hempty] at hexec
    | false =>
      have hnonempty : (SymbolTree.build uri (symbols uri)).symbols ≠ [] := by
        simpa [SymbolTree.isEmpty] using hempty
      cases hresolved : (SymbolTree.build uri (symbols uri)).resolve namePath with
      | none => simp [hempty, hresolved] at hexec
      | some found =>
        simp only [hempty, hresolved] at hexec
        cases hexec
        exact ⟨uri, ⟨huri, hnonempty, hresolved⟩, rfl⟩
  · rintro ⟨uri, ⟨huri, hnonempty, hresolved⟩, rfl⟩
    refine ⟨uri, s, ⟨huri, rfl⟩, ?_⟩
    have hempty : (SymbolTree.build uri (symbols uri)).isEmpty = false := by
      simpa [SymbolTree.isEmpty] using hnonempty
    rw [exec_bind_of_ok (exec_loadTree (hserves uri huri))]
    simp [hempty, hresolved]

lemma exec_applyPlan_eq_ok_iff {symbol : Symbol} {plan : EditPlan} {outcome : EditOutcome} :
    exec (applyPlan symbol plan) s = (.ok outcome, s') ↔
      outcome = ⟨symbol.namePath, plan.documentCount⟩ ∧
        exec (Host.applyEdits plan.changes) s = (.ok (), s') := by
  rw [applyPlan, exec_bind_eq_ok_iff]
  simp only [exec_ofHost_eq_ok_iff, exec_pure, Prod.mk.injEq, Except.ok.injEq]
  constructor
  · rintro ⟨_, _, hexec, rfl, rfl⟩
    exact ⟨rfl, hexec⟩
  · rintro ⟨rfl, hexec⟩
    exact ⟨(), s', hexec, rfl, rfl⟩

/-- An edit of a symbol is the edit that is planned for it, in the document that it names. -/
lemma exec_editSymbol_eq_ok_iff
    (hserves : ∀ uri, (Host.disk s).locate root path = .ok uri → Serves s uri (symbols uri))
    {outcome : EditOutcome} :
    exec (editSymbol root namePath path intent) s = (.ok outcome, s') ↔
      ∃ uri symbol range, Resolves (Host.disk s) symbols root namePath path uri symbol ∧
        symbol.range = some range ∧ outcome = ⟨symbol.namePath, 1⟩ ∧
        exec (Host.applyEdits [(symbol.uri, [intent.edit range])])
          (exec (Host.documentSymbols uri) s).2 = (.ok (), s') := by
  rw [editSymbol, exec_bind_eq_ok_iff]
  simp only [exec_resolveSymbol_eq_ok_iff hserves, exec_bind_eq_ok_iff, exec_liftM,
    exec_applyPlan_eq_ok_iff, Prod.mk.injEq]
  constructor
  · rintro ⟨symbol, _, ⟨uri, hresolves, rfl⟩, plan, _, ⟨hplan, rfl⟩, rfl, happlied⟩
    unfold planEdit at hplan
    split at hplan
    · cases hplan
    · rename_i range hrange
      cases hplan
      exact ⟨uri, symbol, range, hresolves, hrange, rfl, happlied⟩
  · rintro ⟨uri, symbol, range, hresolves, hrange, rfl, happlied⟩
    exact ⟨symbol, _, ⟨uri, hresolves, rfl⟩, ⟨[(symbol.uri, [intent.edit range])]⟩, _,
      ⟨by rw [planEdit, hrange], rfl⟩, rfl, happlied⟩

/-! ### The effect of an edit -/

/-- An edit of a symbol that can be carried out: the symbol is found, it has a range, it names a file
that can be swapped, and the intent makes a new text of the text of that file. -/
structure BodyEdit (disk : Disk) (symbols : Uri → List RawSymbol) (root : Path)
    (namePath path : String) (intent : Intent) (symbol : Symbol) (place : Place) (new : String) :
    Prop where
  resolves  : ∃ uri, Resolves disk symbols root namePath path uri symbol
  named     : ∃ path', symbol.uri.path? = some path' ∧ disk.canonicalize path' = .ok place
  swappable : Swappable place
  rewrites  : ∃ range text, symbol.range = some range ∧
    disk.lookup place = some (.file text.toUTF8) ∧ intent.Rewrites range text new

section Effect

variable
  (hserves : ∀ uri, (Host.disk s).locate root path = .ok uri → Serves s uri (symbols uri))
  (hfree : (Host.disk s).NoTemporaries)
include hserves hfree

lemma exists_bodyEdit {outcome : EditOutcome}
    (hexec : exec (editSymbol root namePath path intent) s = (.ok outcome, s')) :
    ∃ symbol place new, BodyEdit (Host.disk s) symbols root namePath path intent symbol place new := by
  obtain ⟨uri, symbol, range, hresolves, hrange, -, hexec⟩ :=
    (exec_editSymbol_eq_ok_iff hserves).mp hexec
  have happlied := (hserves uri hresolves.located).applies [(symbol.uri, [intent.edit range])]
  rw [hexec] at happlied
  obtain ⟨place, new, hnamed, hswappable, text, hfile, hnew⟩ := happlied.exists_rewritten hfree
  exact ⟨symbol, place, new, ⟨uri, hresolves⟩, hnamed, hswappable, range, text, hrange, hfile,
    applyEdits_edit_eq_ok_iff.mp hnew⟩

lemma BodyEdit.exec_eq {symbol : Symbol} {place : Place} {new : String}
    (hedit : BodyEdit (Host.disk s) symbols root namePath path intent symbol place new) :
    ∃ s', exec (editSymbol root namePath path intent) s = (.ok ⟨symbol.namePath, 1⟩, s') ∧
      (Host.disk s').lookup place = some (.file new.toUTF8) ∧
      ∀ other, other ≠ place → (Host.disk s').lookup other = (Host.disk s).lookup other := by
  obtain ⟨⟨uri, hresolves⟩, hnamed, hswappable, range, text, hrange, hfile, hnew⟩ := hedit
  have hrewritten : (Host.disk s).Rewritten symbol.uri [intent.edit range] place new :=
    ⟨hnamed, hswappable, text, hfile, applyEdits_edit_eq_ok_iff.mpr hnew⟩
  have happlied := (hserves uri hresolves.located).applies [(symbol.uri, [intent.edit range])]
  obtain ⟨hok, hlookups⟩ := happlied.of_rewritten hfree hrewritten
  exact ⟨_, (exec_editSymbol_eq_ok_iff hserves).mpr
    ⟨uri, symbol, range, hresolves, hrange, rfl, Prod.ext hok rfl⟩, hlookups⟩

end Effect

/-- An edit of a symbol succeeds exactly when it can be carried out. Then the file of the symbol has
its new text, and nothing else has changed. -/
theorem editSymbol_effect (s : σ) (symbols : Uri → List RawSymbol) (root : Path)
    (namePath path : String) (intent : Intent)
    (hserves : ∀ uri, (Host.disk s).locate root path = .ok uri → Serves s uri (symbols uri))
    (hfree : (Host.disk s).NoTemporaries) :
    ((∃ outcome, (exec (editSymbol root namePath path intent) s).1 = .ok outcome) ↔
      ∃ symbol place new,
        BodyEdit (Host.disk s) symbols root namePath path intent symbol place new) ∧
    ∀ symbol place new,
      BodyEdit (Host.disk s) symbols root namePath path intent symbol place new →
      (exec (editSymbol root namePath path intent) s).1 = .ok ⟨symbol.namePath, 1⟩ ∧
      (Host.disk (exec (editSymbol root namePath path intent) s).2).lookup place =
        some (.file new.toUTF8) ∧
      ∀ other, other ≠ place →
        (Host.disk (exec (editSymbol root namePath path intent) s).2).lookup other =
          (Host.disk s).lookup other := by
  refine ⟨⟨?_, ?_⟩, fun symbol place new hedit => ?_⟩
  · rintro ⟨outcome, houtcome⟩
    have hexec : exec (editSymbol root namePath path intent) s = (.ok outcome, _) :=
      Prod.ext houtcome rfl
    exact exists_bodyEdit hserves hfree hexec
  · rintro ⟨symbol, place, new, hedit⟩
    obtain ⟨s', hexec, -⟩ := hedit.exec_eq hserves hfree
    exact ⟨_, by rw [hexec]⟩
  · obtain ⟨s', hexec, hplace, hothers⟩ := hedit.exec_eq hserves hfree
    rw [hexec]
    exact ⟨rfl, hplace, hothers⟩

/-- A host with the file `a` in the directory `d`. Its second line is the symbol `f`. -/
def twoLineHost : CannedHost where
  disk    := ⟨[([[0x64]], .directory), ([[0x64], [0x61]], .file "é\r\nf".toUTF8)]⟩
  symbols := [(.ofNames [[0x64], [0x61]],
    [.mk ⟨"f", none, none, some ⟨⟨1, 0⟩, ⟨1, 1⟩⟩, none, none, none⟩ none])]

/-- The symbol `f` of a document. -/
def symbolIn (uri : Uri) (range : Range) : Symbol where
  id       := 0
  head     := ⟨"f", none, none, range, none, uri⟩
  namePath := "f"
  depth    := 0
  parent   := none

lemma bodyEdit_twoLineHost :
    BodyEdit twoLineHost.disk twoLineHost.symbolsOf ⟨[0x2F, 0x64]⟩ "f" "a" (.insertBefore "g")
      (symbolIn (.ofNames [[0x64], [0x61]]) ⟨⟨1, 0⟩, ⟨1, 1⟩⟩) [[0x64], [0x61]] "é\r\ng\nf" where
  resolves  := ⟨.ofNames [[0x64], [0x61]], by decide, by decide, by decide⟩
  named     := ⟨⟨[0x2F, 0x64, 0x2F, 0x61]⟩, by decide, by decide⟩
  swappable := ⟨by decide, by decide, by decide, by decide⟩
  rewrites  := ⟨⟨⟨1, 0⟩, ⟨1, 1⟩⟩, "é\r\nf", rfl, rfl, ['é', '\r', '\n'], ['f'],
    ⟨by decide, by decide, by simp⟩, by decide⟩

/-- The new line goes in front of the second one, behind the line end of the first. -/
theorem effect_twoLineHost :
    (∀ uri, Serves twoLineHost uri (twoLineHost.symbolsOf uri)) ∧ twoLineHost.disk.NoTemporaries ∧
      (exec (editSymbol ⟨[0x2F, 0x64]⟩ "f" "a" (.insertBefore "g")) twoLineHost).1 =
        .ok ⟨"f", 1⟩ ∧
      (exec (editSymbol ⟨[0x2F, 0x64]⟩ "f" "a" (.insertBefore "g")) twoLineHost).2.disk.lookup
        [[0x64], [0x61]] = some (.file "é\r\ng\nf".toUTF8) := by
  have hserves := twoLineHost.serves rfl rfl
  have hfree : twoLineHost.disk.NoTemporaries := noTemporaries_of_entries (by decide)
  have heffect := (editSymbol_effect twoLineHost twoLineHost.symbolsOf ⟨[0x2F, 0x64]⟩ "f" "a"
    (.insertBefore "g") (fun uri _ => hserves uri) hfree).2 _ _ _ bodyEdit_twoLineHost
  exact ⟨hserves, hfree, heffect.1, heffect.2.1⟩

/-- A host with a file whose name looks like a drive, and a link to that file. The symbol `f` of the
file `a` is said to be at the link. -/
def driveHost : CannedHost where
  disk    := ⟨[([[0x64]], .directory), ([[0x64], [0x61]], .file "let a".toUTF8),
    ([[0x64], [0x62, 0x3A]], .file "old".toUTF8), ([[0x64], [0x6C]], .link ⟨[0x62, 0x3A]⟩)]⟩
  symbols := [(.ofNames [[0x64], [0x61]], [.mk ⟨"f", none, none, none, none,
    some ⟨some (.ofNames [[0x64], [0x6C]]), some ⟨⟨0, 0⟩, ⟨0, 3⟩⟩⟩, none⟩ none])]

/-- The symbol is found and has a range, it names a file with a text that the intent can be carried
out on, and yet the edit fails. -/
theorem editSymbol_driveHost_fails :
    (∀ uri, Serves driveHost uri (driveHost.symbolsOf uri)) ∧
      Resolves driveHost.disk driveHost.symbolsOf ⟨[0x2F, 0x64]⟩ "f" "a" (.ofNames [[0x64], [0x61]])
        (symbolIn (.ofNames [[0x64], [0x6C]]) ⟨⟨0, 0⟩, ⟨0, 3⟩⟩) ∧
      driveHost.disk.NoTemporaries ∧
      (Uri.ofNames [[0x64], [0x6C]]).path? = some ⟨[0x2F, 0x64, 0x2F, 0x6C]⟩ ∧
      driveHost.disk.readText ⟨[0x2F, 0x64, 0x2F, 0x6C]⟩ = .ok "old" ∧
      (Intent.replace "new").Rewrites ⟨⟨0, 0⟩, ⟨0, 3⟩⟩ "old" "new" ∧
      (exec (editSymbol ⟨[0x2F, 0x64]⟩ "f" "a" (.replace "new")) driveHost).1 =
        .error (.host (.io "Not a directory (os error 20)")) := by
  refine ⟨driveHost.serves rfl rfl, ⟨?_, ?_, ?_⟩, noTemporaries_of_entries (by decide), ?_, ?_,
    ⟨0, 3, ?_, ?_, ?_, ?_⟩, ?_⟩
  all_goals decide +kernel

end Engine

end Outline
