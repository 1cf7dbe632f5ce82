import Mathlib.Data.List.Basic
import Outline.Host.Basic

/-!
# Steps of a host

What a step does from a state: its outcome, and the state afterwards, which it has changed whether
or not it fails. A composed step takes the second part from the state that the first one left, and
only if that succeeded. What every part keeps of the state, the whole step keeps.
-/

namespace Outline.Action

variable {σ ε ε' α β : Type} {s s' : σ}

/-- The outcome of a step from a state, and the state afterwards. -/
def exec (step : Action σ ε α) (s : σ) : Except ε α × σ := step.run.run s

/-! ### Simple steps -/

@[simp] lemma exec_pure (a : α) (s : σ) : exec (pure a : Action σ ε α) s = (.ok a, s) := rfl

@[simp] lemma exec_throw (e : ε) (s : σ) : exec (throw e : Action σ ε α) s = (.error e, s) := rfl

@[simp] lemma exec_liftM (x : Except ε α) (s : σ) :
    exec (liftM x : Action σ ε α) s = (x, s) := rfl

@[simp] lemma exec_adapt (f : ε → ε') (step : Action σ ε α) (s : σ) :
    exec (ExceptT.adapt f step) s = ((exec step s).1.mapError f, (exec step s).2) := rfl

/-! ### Composed steps -/

variable {step : Action σ ε α} {next : α → Action σ ε β}

lemma exec_bind (step : Action σ ε α) (next : α → Action σ ε β) (s : σ) :
    exec (step >>= next) s =
      match exec step s with
      | (.ok a, s')    => exec (next a) s'
      | (.error e, s') => (.error e, s') := by
  change (ExceptT.bindCont next (exec step s).1).run (exec step s).2 = _
  rcases exec step s with ⟨_ | _, _⟩ <;> rfl

@[simp] lemma exec_get_bind (next : σ → Action σ ε β) (s : σ) :
    exec (get >>= next) s = exec (next s) s := rfl

@[simp] lemma exec_set_bind (s s' : σ) (next : PUnit → Action σ ε β) :
    exec (set s' >>= next) s = exec (next ⟨⟩) s' := rfl

@[simp] lemma exec_modify_bind (f : σ → σ) (next : PUnit → Action σ ε β) (s : σ) :
    exec (modify f >>= next) s = exec (next ⟨⟩) (f s) := rfl

lemma exec_bind_of_ok {a : α} (h : exec step s = (.ok a, s')) :
    exec (step >>= next) s = exec (next a) s' := by
  rw [exec_bind, h]

lemma exec_bind_of_error {e : ε} (h : exec step s = (.error e, s')) :
    exec (step >>= next) s = (.error e, s') := by
  rw [exec_bind, h]

lemma exec_bind_eq_ok_iff {b : β} :
    exec (step >>= next) s = (.ok b, s') ↔
      ∃ a between, exec step s = (.ok a, between) ∧ exec (next a) between = (.ok b, s') := by
  rcases h : exec step s with ⟨e | a, between⟩
  · simp [exec_bind_of_error h]
  · simp [exec_bind_of_ok h]

/-- What is made of the result does not matter for the state. -/
lemma exec_bind_pure_snd (step : Action σ ε α) (f : α → β) (s : σ) :
    (exec (step >>= fun a => pure (f a)) s).2 = (exec step s).2 := by
  rcases h : exec step s with ⟨e | a, s'⟩
  · rw [exec_bind_of_error h]
  · rw [exec_bind_of_ok h]
    rfl

lemma exec_liftM_bind (x : Except ε α) (next : α → Action σ ε β) (s : σ) :
    exec (liftM x >>= next) s =
      match x with
      | .ok a    => exec (next a) s
      | .error e => (.error e, s) := by
  cases x <;> rfl

lemma exec_tryCatch (step : Action σ ε α) (handle : ε → Action σ ε α) (s : σ) :
    exec (tryCatch step handle) s =
      match exec step s with
      | (.ok a, s')    => (.ok a, s')
      | (.error e, s') => exec (handle e) s' := by
  change StateT.run (step.run >>= fun outcome => match outcome with
    | .ok a    => pure (.ok a)
    | .error e => (handle e).run) s = _
  rw [StateT.run_bind]
  change (match (exec step s).1 with
    | .ok a    => pure (.ok a)
    | .error e => (handle e).run : StateM σ (Except ε α)).run (exec step s).2 = _
  rcases exec step s with ⟨_ | _, _⟩ <;> rfl

/-- What is tried does not fail; what it did before it failed stays done. -/
lemma exec_attempt (step : Action σ ε α) (s : σ) :
    exec (attempt step) s = (.ok (exec step s).1.toOption, (exec step s).2) := by
  rw [attempt, exec_tryCatch, map_eq_pure_bind, exec_bind]
  rcases exec step s with ⟨_ | _, _⟩ <;> rfl

lemma exec_attempt_ofHost (step : Action σ HostError α) (s : σ) :
    exec (attempt (ofHost step)) s = (.ok (exec step s).1.toOption, (exec step s).2) := by
  rw [exec_attempt, ofHost, exec_adapt]
  cases (exec step s).1 with
  | error e => rfl
  | ok a => rfl

lemma exec_ofHost_eq_ok_iff {step : Action σ HostError α} {a : α} :
    exec (ofHost step) s = (.ok a, s') ↔ exec step s = (.ok a, s') := by
  change ((exec step s).1.mapError _, (exec step s).2) = _ ↔ _
  rcases exec step s with ⟨e | b, between⟩
  · simp [Except.mapError]
  · simp [Except.mapError]

lemma exec_orEmpty (empty : α) (step : Action σ HostError α) (s : σ) :
    exec (orEmpty empty step) s =
      ((exec step s).1.tryCatch fun e => if e.isTimeout then .ok empty else .error e,
        (exec step s).2) := by
  rw [orEmpty, exec_tryCatch]
  rcases exec step s with ⟨e | a, s'⟩
  · cases htimeout : e.isTimeout with
    | true => simp [htimeout, Except.tryCatch]
    | false => simp [htimeout, Except.tryCatch]
  · rfl

lemma exec_orEmpty_eq_ok_iff {step : Action σ HostError α} {empty a : α} :
    exec (orEmpty empty step) s = (.ok a, s') ↔
      exec step s = (.ok a, s') ∨
        ∃ e, exec step s = (.error e, s') ∧ e.isTimeout = true ∧ a = empty := by
  rw [orEmpty, exec_tryCatch]
  rcases exec step s with ⟨e | b, between⟩
  · cases htimeout : e.isTimeout with
    | true => simp [htimeout, eq_comm (b := a), and_comm]
    | false => simp [htimeout]
  · simp

/-! ### What a step keeps -/

/-- Whatever its outcome, the step leads from states with `P` to states with `P`. -/
def Keeps (P : σ → Prop) (step : Action σ ε α) : Prop := ∀ s, P s → P (exec step s).2

variable {P : σ → Prop}

lemma keeps_pure (a : α) : Keeps P (pure a : Action σ ε α) := fun _ h => h

lemma keeps_throw (e : ε) : Keeps P (throw e : Action σ ε α) := fun _ h => h

namespace Keeps

lemma bind (hstep : Keeps P step) (hnext : ∀ a, Keeps P (next a)) : Keeps P (step >>= next) := by
  intro s h
  have hfirst := hstep s h
  rcases hexec : exec step s with ⟨e | a, s'⟩
  · rw [exec_bind_of_error hexec]
    rwa [hexec] at hfirst
  · rw [exec_bind_of_ok hexec]
    rw [hexec] at hfirst
    exact hnext a s' hfirst

/-- After looking at the state, a step has only to keep what holds of the state it saw. -/
lemma get_bind {next : σ → Action σ ε β} (h : ∀ s, P s → P (exec (next s) s).2) :
    Keeps P (get >>= next) := h

lemma adapt {f : ε → ε'} (h : Keeps P step) : Keeps P (ExceptT.adapt f step) := h

lemma ofState {step : StateM σ α} (h : ∀ s, P s → P (step.run s).2) :
    Keeps P (ofState step : Action σ ε α) := h

lemma tryCatch {handle : ε → Action σ ε α} (hstep : Keeps P step)
    (hhandle : ∀ e, Keeps P (handle e)) : Keeps P (tryCatch step handle) := by
  intro s h
  have hfirst := hstep s h
  rw [exec_tryCatch]
  rcases hexec : exec step s with ⟨e | a, s'⟩
  · rw [hexec] at hfirst
    exact hhandle e s' hfirst
  · rwa [hexec] at hfirst

/-- A check in front of a step changes nothing. -/
lemma check {c : Prop} [Decidable c] {e : ε} {next : PUnit → Action σ ε β}
    (h : Keeps P (next ⟨⟩)) : Keeps P (if c then throw e >>= next else next ⟨⟩) := by
  split
  · exact fun _ hs => hs
  · exact h

lemma map {f : α → β} (h : Keeps P step) : Keeps P (f <$> step) := by
  rw [map_eq_pure_bind]
  exact h.bind fun a => keeps_pure (f a)

lemma attempt (h : Keeps P step) : Keeps P (attempt step) := h.map.tryCatch fun _ => keeps_pure none

lemma orEmpty {step : Action σ HostError α} {empty : α} (h : Keeps P step) :
    Keeps P (orEmpty empty step) := by
  refine h.tryCatch fun e => ?_
  split
  · exact keeps_pure empty
  · exact keeps_throw e

lemma ofHost {step : Action σ HostError α} (h : Keeps P step) : Keeps P (ofHost step) := h.adapt

end Keeps

/-! ### Where a step fails -/

/-- From states with `P`, the step succeeds or leads to a state with `Q`. -/
def FailsIn (P Q : σ → Prop) (step : Action σ ε α) : Prop :=
  ∀ s e s', P s → exec step s = (.error e, s') → Q s'

namespace FailsIn

variable {Q : σ → Prop}

lemma of_keeps (hPQ : ∀ s, P s → Q s) (h : Keeps P step) : FailsIn P Q step := by
  intro s e s' hs hexec
  have hafter := h s hs
  rw [hexec] at hafter
  exact hPQ s' hafter

lemma bind (hPQ : ∀ s, P s → Q s) (hstep : Keeps P step) (hnext : ∀ a, FailsIn P Q (next a)) :
    FailsIn P Q (step >>= next) := by
  intro s e s' hs hexec
  have hbetween := hstep s hs
  rcases hfirst : exec step s with ⟨e' | a, between⟩
  · rw [exec_bind_of_error hfirst] at hexec
    rw [hfirst] at hbetween
    cases hexec
    exact hPQ s' hbetween
  · rw [exec_bind_of_ok hfirst] at hexec
    rw [hfirst] at hbetween
    exact hnext a between e s' hbetween hexec

/-- A check in front of a step fails before anything is done. -/
lemma check {c : Prop} [Decidable c] {e : ε} {next : PUnit → Action σ ε β} (hPQ : ∀ s, P s → Q s)
    (h : FailsIn P Q (next ⟨⟩)) : FailsIn P Q (if c then throw e >>= next else next ⟨⟩) := by
  split
  · exact of_keeps hPQ fun _ hs => hs
  · exact h

lemma adapt {f : ε → ε'} (h : FailsIn P Q step) : FailsIn P Q (ExceptT.adapt f step) := by
  intro s e s' hs hexec
  rw [exec_adapt] at hexec
  rcases hstep : exec step s with ⟨e' | a, between⟩
  · rw [hstep] at hexec
    obtain ⟨-, rfl⟩ := Prod.mk.inj hexec
    exact h s e' between hs hstep
  · rw [hstep] at hexec
    cases hexec

end FailsIn

end Outline.Action
