import Mathlib.Data.List.Basic

set_option autoImplicit false

/- Computations on a state that may throw and keep the state they threw in. -/
namespace Raising

variable {ε σ α β : Type} {inv : σ → Prop}

/-- The state a computation ends in, by returning or by throwing. -/
def finalState : EStateM.Result ε σ α → σ
  | .ok _ state => state
  | .error _ state => state

/-- Every end of the computation keeps the invariant. -/
def Keeps (inv : σ → Prop) (program : EStateM ε σ α) : Prop :=
  ∀ state, inv state → inv (finalState (program state))

/-- The computation returns, and keeps the invariant. -/
def Returns (inv : σ → Prop) (program : EStateM ε σ α) : Prop :=
  ∀ state, inv state → ∃ value after, program state = .ok value after ∧ inv after

theorem bind_ok {program : EStateM ε σ α} {next : α → EStateM ε σ β} {state after : σ} {value : α}
    (returned : program state = .ok value after) :
    (program >>= next) state = next value after := by
  simp only [bind, EStateM.bind, returned]

theorem bind_error {program : EStateM ε σ α} {next : α → EStateM ε σ β} {state after : σ}
    {reason : ε} (threw : program state = .error reason after) :
    (program >>= next) state = .error reason after := by
  simp only [bind, EStateM.bind, threw]

theorem Returns.keeps {program : EStateM ε σ α} (returns : Returns inv program) :
    Keeps inv program := by
  intro state holds
  obtain ⟨value, after, returned, kept⟩ := returns state holds
  rw [returned]
  exact kept

theorem Returns.pure (value : α) : Returns inv (Pure.pure value : EStateM ε σ α) := by
  intro state holds
  exact ⟨value, state, rfl, holds⟩

theorem Keeps.pure (value : α) : Keeps inv (Pure.pure value : EStateM ε σ α) :=
  (Returns.pure value).keeps

theorem Keeps.throw (reason : ε) : Keeps inv (throw reason : EStateM ε σ α) := by
  intro state holds
  exact holds

theorem Keeps.bind {program : EStateM ε σ α} {next : α → EStateM ε σ β}
    (first : Keeps inv program) (rest : ∀ value, Keeps inv (next value)) :
    Keeps inv (program >>= next) := by
  intro state holds
  have middle := first state holds
  cases result : program state with
  | ok value after =>
    rw [result] at middle
    rw [bind_ok result]
    exact rest value after middle
  | error reason after =>
    rw [result] at middle
    rw [bind_error result]
    exact middle

theorem Returns.bind {program : EStateM ε σ α} {next : α → EStateM ε σ β}
    (first : Returns inv program) (rest : ∀ value, Returns inv (next value)) :
    Returns inv (program >>= next) := by
  intro state holds
  obtain ⟨value, after, returned, kept⟩ := first state holds
  rw [bind_ok returned]
  exact rest value after kept

end Raising
