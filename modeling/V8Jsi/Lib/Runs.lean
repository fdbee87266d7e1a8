import Mathlib.Data.List.Infix

set_option autoImplicit false

namespace Runs

variable {σ α φ : Type}

/-- A program driven by actions. `call state action` is `none` when the action
cannot be taken in that state, and an error when taking it loses the process. -/
structure Program (σ α φ : Type) where
  start : σ
  call : σ → α → Option (Except φ σ)

namespace Program

/-- Take the actions in order. A lost process takes no further action. -/
def exec (program : Program σ α φ) : Except φ σ → List α → Option (Except φ σ)
  | outcome, [] => some outcome
  | .error _, _ :: _ => none
  | .ok state, action :: rest => (program.call state action).bind (program.exec · rest)

def run (program : Program σ α φ) (trace : List α) : Option (Except φ σ) :=
  program.exec (.ok program.start) trace

/-- Every action of the trace is admitted in the state in which it is taken. -/
def Meets (program : Program σ α φ) (admits : σ → α → Prop) : σ → List α → Prop
  | _, [] => True
  | state, action :: rest => admits state action ∧
      ∀ next, program.call state action = some (.ok next) → program.Meets admits next rest

variable {program : Program σ α φ} {admits : σ → α → Prop} {safe : Except φ σ → Prop}

@[simp] theorem exec_nil (outcome : Except φ σ) : program.exec outcome [] = some outcome := by
  cases outcome <;> rfl

@[simp] theorem exec_error_cons (reason : φ) (action : α) (rest : List α) :
    program.exec (.error reason) (action :: rest) = none := rfl

@[simp] theorem exec_ok_cons (state : σ) (action : α) (rest : List α) :
    program.exec (.ok state) (action :: rest) =
      (program.call state action).bind (program.exec · rest) := rfl

/-- A guarded action that was taken found its guard true. -/
theorem guard_inv {condition : Prop} [Decidable condition] {value next : σ}
    (called : (if condition then some (Except.ok value) else none) =
      (some (.ok next) : Option (Except φ σ))) : condition ∧ value = next := by
  split at called
  · exact ⟨by assumption, Except.ok.inj (Option.some.inj called)⟩
  · cases called

/-- A run that continues past an action found the process alive before it. -/
theorem exec_cons_inv {state : σ} {action : α} {rest : List α} {outcome : Except φ σ}
    (ran : program.exec (.ok state) (action :: rest) = some outcome) :
    ∃ middle, program.call state action = some middle ∧
      program.exec middle rest = some outcome := by
  simpa only [exec_ok_cons, Option.bind_eq_some_iff] using ran

/-- A run that ends with the process alive found it alive after each action. -/
theorem exec_alive_cons_inv {state next : σ} {action : α} {rest : List α}
    (ran : program.exec (.ok state) (action :: rest) = some (.ok next)) :
    ∃ middle, program.call state action = some (.ok middle) ∧
      program.exec (.ok middle) rest = some (.ok next) := by
  obtain ⟨middle, called, continued⟩ := exec_cons_inv ran
  cases middle with
  | error reason =>
    cases rest with
    | nil => simp at continued
    | cons later more => simp at continued
  | ok middle => exact ⟨middle, called, continued⟩

/-- Invariants need only be checked at admitted actions. The outcome of the whole
trace is safe, and where the process is alive the invariant holds. -/
theorem exec_invariant (inv : σ → Prop)
    (alive : ∀ state, inv state → safe (.ok state))
    (step : ∀ state action outcome, inv state → admits state action →
      program.call state action = some outcome →
      safe outcome ∧ ∀ next, outcome = .ok next → inv next)
    (trace : List α) : ∀ state outcome, inv state → program.Meets admits state trace →
    program.exec (.ok state) trace = some outcome →
    safe outcome ∧ ∀ next, outcome = .ok next → inv next := by
  induction trace with
  | nil =>
    intro state outcome holds _ ran
    obtain rfl : Except.ok state = outcome := by simpa using ran
    refine ⟨alive state holds, ?_⟩
    rintro next ⟨⟩
    exact holds
  | cons action rest ih =>
    intro state outcome holds meets ran
    obtain ⟨middle, called, continued⟩ := exec_cons_inv ran
    have taken := step state action middle holds meets.1 called
    cases middle with
    | error reason =>
      cases rest with
      | nil =>
        obtain rfl : Except.error reason = outcome := by simpa using continued
        exact taken
      | cons later more => simp at continued
    | ok next => exact ih next outcome (taken.2 next rfl) (meets.2 next called) continued

theorem run_invariant (inv : σ → Prop) (safe : Except φ σ → Prop)
    (init : inv program.start) (alive : ∀ state, inv state → safe (.ok state))
    (step : ∀ state action outcome, inv state → admits state action →
      program.call state action = some outcome →
      safe outcome ∧ ∀ next, outcome = .ok next → inv next)
    {trace : List α} {outcome : Except φ σ}
    (meets : program.Meets admits program.start trace)
    (ran : program.run trace = some outcome) :
    safe outcome ∧ ∀ next, outcome = .ok next → inv next :=
  exec_invariant inv alive step trace program.start outcome init meets ran

/-- The special case without a condition on the actions. -/
theorem exec_invariant_always (inv : σ → Prop)
    (step : ∀ state action next, inv state →
      program.call state action = some (.ok next) → inv next)
    (trace : List α) : ∀ state next, inv state →
    program.exec (.ok state) trace = some (.ok next) → inv next := by
  induction trace with
  | nil =>
    intro state next holds ran
    obtain rfl : state = next := by simpa using ran
    exact holds
  | cons action rest ih =>
    intro state next holds ran
    obtain ⟨middle, called, continued⟩ := exec_alive_cons_inv ran
    exact ih middle next (step state action middle holds called) continued

theorem run_invariant_always (inv : σ → Prop)
    (init : inv program.start)
    (step : ∀ state action next, inv state →
      program.call state action = some (.ok next) → inv next)
    {trace : List α} {state : σ} (ran : program.run trace = some (.ok state)) :
    inv state :=
  exec_invariant_always inv step trace program.start state init ran

theorem meets_cons_ok {state next : σ} {action : α} (rest : List α)
    (called : program.call state action = some (.ok next)) :
    program.Meets admits state (action :: rest) ↔
      admits state action ∧ program.Meets admits next rest := by
  refine and_congr_right fun _ => ⟨fun every => every next called, fun holds other same => ?_⟩
  obtain rfl := Except.ok.inj (Option.some.inj (called.symm.trans same))
  exact holds

theorem meets_cons_stuck {state : σ} {action : α} (rest : List α)
    (stuck : ∀ next, program.call state action ≠ some (.ok next)) :
    program.Meets admits state (action :: rest) ↔ admits state action :=
  and_iff_left fun next called => absurd called (stuck next)

instance decidableMeets [∀ state action, Decidable (admits state action)] :
    ∀ state trace, Decidable (program.Meets admits state trace)
  | _, [] => isTrue trivial
  | state, action :: rest =>
      match called : program.call state action with
      | some (.ok next) =>
          have := decidableMeets next rest
          decidable_of_iff _ (meets_cons_ok rest called).symm
      | some (.error _) =>
          decidable_of_iff _ (meets_cons_stuck rest (by simp [called])).symm
      | none => decidable_of_iff _ (meets_cons_stuck rest (by simp [called])).symm

theorem Meets.of_append {state : σ} {first second : List α}
    (meets : program.Meets admits state (first ++ second)) :
    program.Meets admits state first := by
  induction first generalizing state with
  | nil => trivial
  | cons action rest ih => exact ⟨meets.1, fun next called => ih (meets.2 next called)⟩

/-- Every outcome reached along the trace is safe. -/
def SafeAlong (program : Program σ α φ) (safe : Except φ σ → Prop) (state : σ)
    (trace : List α) : Prop :=
  ∀ front back outcome, trace = front ++ back →
    program.exec (.ok state) front = some outcome → safe outcome

theorem SafeAlong.tail {state next : σ} {action : α} {rest : List α}
    (along : program.SafeAlong safe state (action :: rest))
    (called : program.call state action = some (.ok next)) :
    program.SafeAlong safe next rest := by
  intro front back outcome split ran
  refine along (action :: front) back outcome (by rw [split, List.cons_append]) ?_
  simpa only [exec_ok_cons, called, Option.bind_some] using ran

/-- When an action that is not admitted shows itself at once as an unsafe
outcome, the admitted traces are exactly the safe ones. -/
theorem safeAlong_iff_meets (inv : σ → Prop)
    (alive : ∀ state, inv state → safe (.ok state))
    (step : ∀ state action outcome, inv state → admits state action →
      program.call state action = some outcome →
      safe outcome ∧ ∀ next, outcome = .ok next → inv next)
    (refused : ∀ state action outcome, inv state → ¬ admits state action →
      program.call state action = some outcome → ¬ safe outcome)
    (trace : List α) : ∀ state outcome, inv state →
    program.exec (.ok state) trace = some outcome →
    (program.SafeAlong safe state trace ↔ program.Meets admits state trace) := by
  induction trace with
  | nil =>
    intro state outcome holds _
    refine ⟨fun _ => trivial, fun _ front back reached split ran => ?_⟩
    obtain ⟨rfl, -⟩ := List.append_eq_nil_iff.mp split.symm
    obtain rfl : Except.ok state = reached := by simpa using ran
    exact alive state holds
  | cons action rest ih =>
    intro state outcome holds ran
    constructor
    · intro along
      obtain ⟨middle, called, continued⟩ := exec_cons_inv ran
      have safeMiddle : safe middle :=
        along [action] rest middle rfl (by simp [called])
      have admitted : admits state action := by
        by_contra barred
        exact refused state action middle holds barred called safeMiddle
      refine ⟨admitted, fun next reached => ?_⟩
      obtain rfl : middle = .ok next := Option.some.inj (called.symm.trans reached)
      have held := (step state action _ holds admitted called).2 next rfl
      exact (ih next outcome held continued).mp (along.tail called)
    · intro meets front back reached split ranFront
      have meetsFront : program.Meets admits state front := by
        rw [split] at meets
        exact meets.of_append
      exact (exec_invariant inv alive step front state reached holds meetsFront ranFront).1

/-- Every action taken along the trace is good where it is taken. -/
def Along (program : Program σ α φ) (good : σ → α → Except φ σ → Prop) (state : σ)
    (trace : List α) : Prop :=
  ∀ front action back before outcome, trace = front ++ action :: back →
    program.exec (.ok state) front = some (.ok before) →
    program.call before action = some outcome → good before action outcome

variable {good : σ → α → Except φ σ → Prop}

theorem along_nil (state : σ) : program.Along good state [] := by
  intro front action back before outcome split
  simp at split

theorem Along.head {state : σ} {action : α} {rest : List α} {outcome : Except φ σ}
    (along : program.Along good state (action :: rest))
    (called : program.call state action = some outcome) : good state action outcome :=
  along [] action rest state outcome rfl (exec_nil _) called

theorem Along.tail {state next : σ} {action : α} {rest : List α}
    (along : program.Along good state (action :: rest))
    (called : program.call state action = some (.ok next)) :
    program.Along good next rest := by
  intro front later back before outcome split ran
  apply along (action :: front) later back before outcome
  · rw [split, List.cons_append]
  · simpa only [exec_ok_cons, called, Option.bind_some] using ran

theorem Along.cons {state : σ} {action : α} {rest : List α}
    (first : ∀ outcome, program.call state action = some outcome → good state action outcome)
    (later : ∀ next, program.call state action = some (.ok next) →
      program.Along good next rest) :
    program.Along good state (action :: rest) := by
  intro front taken back before outcome split ran called
  cases front with
  | nil =>
    obtain ⟨rfl, rfl⟩ := List.cons.inj split
    obtain rfl : state = before := by simpa using ran
    exact first outcome called
  | cons head more =>
    obtain ⟨rfl, tail⟩ := List.cons.inj split
    obtain ⟨next, stepped, continued⟩ := exec_alive_cons_inv ran
    exact later next stepped more taken back before outcome tail continued called

/-- Admitted actions are good when they keep the invariant. -/
theorem along_of_meets (inv : σ → Prop)
    (step : ∀ state action outcome, inv state → admits state action →
      program.call state action = some outcome →
      good state action outcome ∧ ∀ next, outcome = .ok next → inv next)
    (trace : List α) : ∀ state, inv state → program.Meets admits state trace →
    program.Along good state trace := by
  induction trace with
  | nil => exact fun state _ _ => along_nil state
  | cons action rest ih =>
    intro state holds meets
    apply Along.cons
    · intro outcome called
      exact (step state action outcome holds meets.1 called).1
    · intro next called
      have held := (step state action _ holds meets.1 called).2 next rfl
      exact ih next held (meets.2 next called)

/-- When an action is good exactly where it is admitted, the traces of good
actions are the admitted ones. -/
theorem along_iff_meets (inv : σ → Prop)
    (step : ∀ state action outcome, inv state → admits state action →
      program.call state action = some outcome →
      good state action outcome ∧ ∀ next, outcome = .ok next → inv next)
    (refused : ∀ state action outcome, inv state → ¬ admits state action →
      program.call state action = some outcome → ¬ good state action outcome)
    (trace : List α) : ∀ state outcome, inv state →
    program.exec (.ok state) trace = some outcome →
    (program.Along good state trace ↔ program.Meets admits state trace) := by
  induction trace with
  | nil => exact fun state _ _ _ => ⟨fun _ => trivial, fun _ => along_nil state⟩
  | cons action rest ih =>
    intro state outcome holds ran
    obtain ⟨middle, called, continued⟩ := exec_cons_inv ran
    constructor
    · intro along
      have admitted : admits state action := by
        by_contra barred
        exact refused state action middle holds barred called (along.head called)
      refine ⟨admitted, fun next reached => ?_⟩
      obtain rfl : middle = .ok next := Option.some.inj (called.symm.trans reached)
      have held := (step state action _ holds admitted called).2 next rfl
      exact (ih next outcome held continued).mp (along.tail called)
    · exact along_of_meets inv step (action :: rest) state holds

end Program

end Runs
