import Mathlib.Data.List.Basic
import Outline.Proofs.Host.Step

/-!
# Steps of two hosts

Two steps are alike when, from states that correspond to each other, they have the same outcome and
lead to states that correspond again. What is composed of steps that are alike is alike. Hosts agree
when their operations are alike, where a request that times out counts as one with an empty answer:
that is all that anybody sees who takes timeouts for empty answers.
-/

namespace Outline

namespace Action

variable {σ τ ε ε' α β : Type}

/-- From states that correspond, both steps have the same outcome and lead to states that
correspond. -/
def Alike (R : σ → τ → Prop) (step : Action σ ε α) (other : Action τ ε α) : Prop :=
  ∀ s t, R s t → (exec step s).1 = (exec other t).1 ∧ R (exec step s).2 (exec other t).2

variable {R : σ → τ → Prop}

lemma alike_refl (step : Action σ ε α) : Alike Eq step step := by
  rintro s _ rfl
  exact ⟨rfl, rfl⟩

lemma alike_pure (a : α) : Alike R (pure a : Action σ ε α) (pure a) := fun _ _ h => ⟨rfl, h⟩

lemma alike_throw (e : ε) : Alike R (throw e : Action σ ε α) (throw e) := fun _ _ h => ⟨rfl, h⟩

lemma alike_liftM (x : Except ε α) : Alike R (liftM x : Action σ ε α) (liftM x) :=
  fun _ _ h => ⟨rfl, h⟩

namespace Alike

variable {step : Action σ ε α} {other : Action τ ε α}

lemma exists_outcome (h : Alike R step other) {s : σ} {t : τ} (hst : R s t) :
    ∃ outcome s' t', exec step s = (outcome, s') ∧ exec other t = (outcome, t') ∧ R s' t' :=
  ⟨_, _, _, rfl, Prod.ext (h s t hst).1.symm rfl, (h s t hst).2⟩

lemma bind {next : α → Action σ ε β} {next' : α → Action τ ε β} (hstep : Alike R step other)
    (hnext : ∀ a, Alike R (next a) (next' a)) : Alike R (step >>= next) (other >>= next') := by
  intro s t h
  obtain ⟨outcome, s', t', hs, ht, hstates⟩ := hstep.exists_outcome h
  rw [exec_bind, exec_bind, hs, ht]
  cases outcome with
  | error e => exact ⟨rfl, hstates⟩
  | ok a => exact hnext a s' t' hstates

lemma tryCatch {handle : ε → Action σ ε α} {handle' : ε → Action τ ε α}
    (hstep : Alike R step other) (hhandle : ∀ e, Alike R (handle e) (handle' e)) :
    Alike R (tryCatch step handle) (tryCatch other handle') := by
  intro s t h
  obtain ⟨outcome, s', t', hs, ht, hstates⟩ := hstep.exists_outcome h
  rw [exec_tryCatch, exec_tryCatch, hs, ht]
  cases outcome with
  | error e => exact hhandle e s' t' hstates
  | ok a => exact ⟨rfl, hstates⟩

lemma adapt {f : ε → ε'} (h : Alike R step other) :
    Alike R (ExceptT.adapt f step) (ExceptT.adapt f other) := by
  intro s t hst
  obtain ⟨houtcome, hstates⟩ := h s t hst
  rw [exec_adapt, exec_adapt, houtcome]
  exact ⟨rfl, hstates⟩

lemma map {f : α → β} (h : Alike R step other) : Alike R (f <$> step) (f <$> other) := by
  rw [map_eq_pure_bind, map_eq_pure_bind]
  exact h.bind fun a => alike_pure (f a)

lemma attempt (h : Alike R step other) : Alike R (attempt step) (attempt other) :=
  h.map.tryCatch fun _ => alike_pure none

lemma ofHost {step : Action σ HostError α} {other : Action τ HostError α}
    (h : Alike R step other) : Alike R (ofHost step) (ofHost other) := h.adapt

/-- A check in front of both steps. -/
lemma check {c : Prop} [Decidable c] {e : ε} {next : PUnit → Action σ ε β}
    {next' : PUnit → Action τ ε β} (h : Alike R (next ⟨⟩) (next' ⟨⟩)) :
    Alike R (if c then throw e >>= next else next ⟨⟩)
      (if c then throw e >>= next' else next' ⟨⟩) := by
  split
  · exact (alike_throw e).bind fun _ => h
  · exact h

end Alike

end Action

open Outline.Action

/-- States of two hosts correspond so that the hosts do the same, but where one of them times out on
a request for data the other one may answer that there is nothing. -/
structure Agree {σ τ : Type} (host : Host σ) (other : Host τ) (R : σ → τ → Prop) : Prop where
  disk {s : σ} {t : τ} (h : R s t) : host.disk s = other.disk t
  documentSymbols (uri : Uri) :
    Alike R (orEmpty [] (host.documentSymbols uri)) (orEmpty [] (other.documentSymbols uri))
  references (uri : Uri) (position : Position) (includeDeclaration : Bool) :
    Alike R (orEmpty [] (host.references uri position includeDeclaration))
      (orEmpty [] (other.references uri position includeDeclaration))
  rename (uri : Uri) (position : Position) (newName : String) :
    Alike R (orEmpty none (host.rename uri position newName))
      (orEmpty none (other.rename uri position newName))
  workspaceSymbols (query : String) :
    Alike R (orEmpty [] (host.workspaceSymbols query)) (orEmpty [] (other.workspaceSymbols query))
  applyEdits (changes : EditSet) : Alike R (host.applyEdits changes) (other.applyEdits changes)
  documentText (uri : Uri) : Alike R (host.documentText uri) (other.documentText uri)
  diagnostics (uri : Uri) :
    Alike R (ofState (host.diagnostics uri) : Action σ ToolError (List Diagnostic))
      (ofState (other.diagnostics uri))
  allDiagnostics :
    Alike R (ofState host.allDiagnostics : Action σ ToolError (List (Uri × List Diagnostic)))
      (ofState other.allDiagnostics)

end Outline
