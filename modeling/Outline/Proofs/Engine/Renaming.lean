import Mathlib
import Outline.Proofs.Change.Planning
import Outline.Proofs.Engine.BodyEdits
import Outline.Proofs.Engine.Unchanged
import Outline.Proofs.Host.ManyFiles

/-!
# Renaming a symbol

The change that a server proposes for a new name is regrouped twice: by documents when it is planned,
and by files when it is applied. Neither loses an edit or takes one twice. So a rename that succeeds
gives every file the text that all edits for it make of its old text, in the order of the URIs they
came with, and changes nothing else.
-/

namespace Outline

open Outline.Action

/-! ### The plan of a proposed change -/

/-- The plan holds what a change proposes: its documents in the order of their URIs, and under each
of them all edits that are proposed for it, in their order. -/
structure EditPlan.Holds (plan : EditPlan) (proposals : List (Uri × List TextEdit)) : Prop where
  ascending : plan.changes.Pairwise fun x y => compare x.1 y.1 = .lt
  documents : ∀ uri : Uri, (∃ c ∈ plan.changes, c.1.text = uri.text) ↔
    ∃ p ∈ proposals, p.1.text = uri.text
  edits     : ∀ uri : Uri, Keyed.under uri plan.changes = Keyed.under uri proposals

lemma holds_of_planRename {edit : WorkspaceEdit} {plan : EditPlan}
    (h : planRename edit = some plan) : plan.Holds edit.proposals := by
  have hchanges := (WorkspaceEdit.planRename_eq_some_iff.mp h).2
  refine ⟨hchanges ▸ Keyed.ascending_gather _, fun uri => ?_, fun uri => ?_⟩
  · rw [hchanges]
    constructor
    · rintro ⟨c, hc, htext⟩
      obtain ⟨p, hp, hkey⟩ := Keyed.exists_of_mem_gather hc
      exact ⟨p, hp, by rw [hkey, htext]⟩
    · rintro ⟨p, hp, htext⟩
      obtain ⟨c, hc, heq⟩ := Keyed.exists_mem_gather hp
      exact ⟨c, hc, (Uri.compare_eq_iff.mp heq).symm.trans htext⟩
  · rw [hchanges, Keyed.under_gather]

namespace Engine

variable {σ : Type} [Host σ] {s s' : σ} {root : Path} {namePath path newName : String}

/-! ### Steps of a rename -/

/-- Asked for another name of the symbol that a name path names, the host proposes a change. -/
def Proposes (s : σ) (root : Path) (namePath path newName : String) (symbol : Symbol)
    (edit : WorkspaceEdit) (after : σ) : Prop :=
  ∃ position between, exec (resolveSymbol root namePath path) s = (.ok symbol, between) ∧
    anchor symbol = .ok position ∧
    exec (Host.rename symbol.uri position newName) between = (.ok (some edit), after)

lemma exists_proposes_of_exec {outcome : EditOutcome}
    (h : exec (renameSymbol root namePath path newName) s = (.ok outcome, s')) :
    ∃ symbol edit plan after, Proposes s root namePath path newName symbol edit after ∧
      planRename edit = some plan ∧ outcome = ⟨symbol.namePath, plan.documentCount⟩ ∧
      exec (Host.applyEdits plan.changes) after = (.ok (), s') := by
  unfold renameSymbol at h
  split at h
  · cases h
  obtain ⟨symbol, between, hresolve, h⟩ := exec_bind_eq_ok_iff.mp h
  obtain ⟨position, _, hanchor, h⟩ := exec_bind_eq_ok_iff.mp h
  obtain ⟨answer, after, hanswer, hplanned⟩ := exec_bind_eq_ok_iff.mp h
  obtain ⟨hposition, rfl⟩ := Prod.mk.inj (exec_liftM _ between ▸ hanchor)
  cases hplan : answer.bind planRename with
  | none =>
    rw [hplan] at hplanned
    cases hplanned
  | some plan =>
    rw [hplan] at hplanned
    obtain ⟨edit, rfl, hplan⟩ := Option.bind_eq_some_iff.mp hplan
    obtain ⟨houtcome, happly⟩ := exec_applyPlan_eq_ok_iff.mp hplanned
    rcases exec_orEmpty_eq_ok_iff.mp (exec_ofHost_eq_ok_iff.mp hanswer) with
      hproposed | ⟨_, -, -, hnone⟩
    · exact ⟨symbol, edit, plan, after, ⟨position, _, hresolve, hposition, hproposed⟩, hplan,
        houtcome, happly⟩
    · cases hnone

/-! ### The effect of a rename -/

variable [FileHost σ]

lemma Proposes.disk_eq {symbol : Symbol} {edit : WorkspaceEdit} {after : σ}
    (h : Proposes s root namePath path newName symbol edit after) :
    Host.disk after = Host.disk s := by
  obtain ⟨position, between, hresolve, -, hanswer⟩ := h
  have hbetween := keeps_resolveSymbol root namePath path s rfl
  rw [hresolve] at hbetween
  have hafter := FileHost.rename symbol.uri position newName _ between hbetween
  rwa [hanswer] at hafter

/-- A rename that succeeds carries out what the server proposes: every file has the text that all
edits for it make of its old text, in the order of their URIs, and nothing else has changed. -/
theorem renameSymbol_carries_out (s s' : σ) (root : Path) (namePath path newName : String)
    (outcome : EditOutcome) (hfree : (Host.disk s).NoTemporaries)
    (h : exec (renameSymbol root namePath path newName) s = (.ok outcome, s')) :
    ∃ symbol edit plan after, Proposes s root namePath path newName symbol edit after ∧
      planRename edit = some plan ∧ plan.Holds edit.proposals ∧
      outcome = ⟨symbol.namePath, plan.documentCount⟩ ∧
      (Host.disk s).Carried plan.changes (Host.disk s') := by
  obtain ⟨symbol, edit, plan, after, hproposes, hplan, houtcome, happly⟩ :=
    exists_proposes_of_exec h
  have hreach := FileHost.applyEdits plan.changes after
  rw [happly, hproposes.disk_eq] at hreach
  exact ⟨symbol, edit, plan, after, hproposes, hplan, holds_of_planRename hplan, houtcome,
    hreach.applied.carried hfree.unclaimed⟩

/-- A host with the files `a` and `b` in the directory `d`, where `l` is a link to `b`. It proposes
to rename the symbol `f` in both, in `b` by way of the link, and to delete `a` besides. -/
def aliasedHost : CannedHost :=
  let name : Range := ⟨⟨0, 0⟩, ⟨0, 1⟩⟩
  { disk := ⟨[([[0x64]], .directory), ([[0x64], [0x61]], .file "f()".toUTF8),
      ([[0x64], [0x62]], .file "f f".toUTF8), ([[0x64], [0x6C]], .link ⟨[0x62]⟩)]⟩
    symbols := [(.ofNames [[0x64], [0x61]], [.mk ⟨"f", none, none, name, none, none, none⟩ none])]
    rename := some ⟨none, some
      [.edit ⟨.ofNames [[0x64], [0x6C]], none, [.annotated ⟨⟨⟨0, 2⟩, ⟨0, 3⟩⟩, "g"⟩ "late"]⟩,
        .operation (.delete (.ofNames [[0x64], [0x61]]) none),
        .edit ⟨.ofNames [[0x64], [0x61]], none, [.plain ⟨name, "g"⟩]⟩,
        .edit ⟨.ofNames [[0x64], [0x62]], none, []⟩], none⟩ }

theorem renameSymbol_aliasedHost :
    aliasedHost.disk.NoTemporaries ∧
      (exec (renameSymbol ⟨[0x2F, 0x64]⟩ "f" "a" "g") aliasedHost).1 = .ok ⟨"f", 3⟩ ∧
      (exec (renameSymbol ⟨[0x2F, 0x64]⟩ "f" "a" "g") aliasedHost).2.disk.lookup
        [[0x64], [0x62]] = some (.file "f g".toUTF8) ∧
      ∃ symbol edit plan after, Proposes aliasedHost ⟨[0x2F, 0x64]⟩ "f" "a" "g" symbol edit after ∧
        planRename edit = some plan ∧ plan.Holds edit.proposals ∧
        EditOutcome.mk "f" 3 = ⟨symbol.namePath, plan.documentCount⟩ ∧
        aliasedHost.disk.Carried plan.changes
          (exec (renameSymbol ⟨[0x2F, 0x64]⟩ "f" "a" "g") aliasedHost).2.disk := by
  have hfree : aliasedHost.disk.NoTemporaries := Disk.noTemporaries_of_entries (by decide)
  have hok : (exec (renameSymbol ⟨[0x2F, 0x64]⟩ "f" "a" "g") aliasedHost).1 = .ok ⟨"f", 3⟩ := by
    decide +kernel
  have hnew : (exec (renameSymbol ⟨[0x2F, 0x64]⟩ "f" "a" "g") aliasedHost).2.disk.lookup
      [[0x64], [0x62]] = some (.file "f g".toUTF8) := by
    decide +kernel
  exact ⟨hfree, hok, hnew, renameSymbol_carries_out aliasedHost _ ⟨[0x2F, 0x64]⟩ "f" "a" "g" ⟨"f", 3⟩
    hfree (Prod.ext hok rfl)⟩

end Engine

end Outline
