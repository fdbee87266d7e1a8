import Mathlib.Data.List.Basic

set_option autoImplicit false

/- Running computations that may stop with an error. -/
namespace Outcome

variable {ε ε' α β : Type}

@[simp] theorem ok_bind (value : α) (next : α → Except ε β) :
    (Except.ok value >>= next) = next value := rfl

@[simp] theorem error_bind (reason : ε) (next : α → Except ε β) :
    ((Except.error reason : Except ε α) >>= next) = .error reason := rfl

@[simp] theorem pure_ok (value : α) : (pure value : Except ε α) = .ok value := rfl

@[simp] theorem mapError_ok (f : ε → ε') (value : α) :
    (Except.ok value : Except ε α).mapError f = .ok value := rfl

@[simp] theorem mapError_error (f : ε → ε') (reason : ε) :
    (Except.error reason : Except ε α).mapError f = .error (f reason) := rfl

/-- Peel one bind off a computation that returned. -/
theorem bind_ok_inv {first : Except ε α} {next : α → Except ε β} {value : β}
    (success : first >>= next = .ok value) :
    ∃ middle, first = .ok middle ∧ next middle = .ok value := by
  cases first with
  | error reason => cases success
  | ok middle => exact ⟨middle, rfl, success⟩

/-- A pass over a list in which every entry has its result. -/
theorem mapM_ok {f : α → Except ε β} {g : α → β} (entries : List α)
    (each : ∀ entry ∈ entries, f entry = .ok (g entry)) :
    entries.mapM f = .ok (entries.map g) := by
  induction entries with
  | nil => rfl
  | cons entry rest ih =>
    rw [List.mapM_cons, each entry List.mem_cons_self,
      ih fun other inside => each other (List.mem_cons_of_mem _ inside)]
    rfl

section

variable {loop : Nat → α → Except ε α} {inv done : α → Prop} {measure : α → Nat}

/-- A loop that spends one unit of fuel in a turn ends when every turn keeps an
invariant and lowers a measure, and more fuel does not change the result. -/
theorem loop_ends
    (turn : ∀ state, inv state →
      done state ∧ (∀ fuel, loop (fuel + 1) state = .ok state) ∨
        ∃ next, (∀ fuel, loop (fuel + 1) state = loop fuel next) ∧ inv next ∧
          measure next < measure state) (n : Nat) :
    ∀ state, inv state → measure state ≤ n →
      ∃ after, (∀ fuel > n, loop fuel state = .ok after) ∧ inv after ∧ done after := by
  induction n with
  | zero =>
    intro state holds small
    obtain ⟨ended, stops⟩ | ⟨next, -, -, lower⟩ := turn state holds
    · refine ⟨state, ?_, holds, ended⟩
      intro fuel more
      obtain ⟨fuel, rfl⟩ := Nat.exists_eq_succ_of_ne_zero (Nat.ne_of_gt more)
      exact stops fuel
    · omega
  | succ n ih =>
    intro state holds small
    obtain ⟨ended, stops⟩ | ⟨next, goes, holds', lower⟩ := turn state holds
    · refine ⟨state, ?_, holds, ended⟩
      intro fuel more
      obtain ⟨fuel, rfl⟩ := Nat.exists_eq_succ_of_ne_zero (show fuel ≠ 0 by omega)
      exact stops fuel
    · obtain ⟨after, ends, rest⟩ := ih next holds' (by omega)
      refine ⟨after, ?_, rest⟩
      intro fuel more
      obtain ⟨fuel, rfl⟩ := Nat.exists_eq_succ_of_ne_zero (show fuel ≠ 0 by omega)
      rw [goes fuel]
      exact ends fuel (by omega)

end

end Outcome
