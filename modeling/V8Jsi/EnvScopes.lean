import Mathlib.Algebra.Group.Nat.Defs
import V8Jsi.Lib.Outcome
import V8Jsi.Lib.Runs
import V8Jsi.ScriptRuns

set_option autoImplicit false

/- The env scopes of v8_api.cpp: `openEnvScope`, `closeEnvScope` and the counted
isolate lockers of one thread. The allocator may give out any address that no
locker has, also that of a deleted one. -/
namespace V8Jsi.EnvScopes

open Runs Outcome ScriptRuns

/-- `NodeApiIsolateLocker`. The count is compared with zero only and wraps in 32
bits. -/
structure Locker (Runtime : Type) where
  runtime : Runtime
  refCount : UInt32 := 1
  previous : Option Nat
  deriving DecidableEq, Repr

/-- The lockers by their address, and `tls_current_`. -/
@[ext] structure Thread (Runtime : Type) where
  lockers : Nat → Option (Locker Runtime) := fun _ => none
  current : Option Nat := none

inductive Failure
  | danglingLocker (address : Nat)
  deriving DecidableEq, Repr

variable {Env Runtime : Type}

namespace Thread

def read (thread : Thread Runtime) (address : Nat) : Except Failure (Locker Runtime) :=
  match thread.lockers address with
  | some locker => .ok locker
  | none => .error (.danglingLocker address)

def set (thread : Thread Runtime) (address : Nat) (locker : Option (Locker Runtime)) :
    Thread Runtime :=
  { thread with lockers := Function.update thread.lockers address locker }

def hasCurrentRuntime [DecidableEq Runtime] (thread : Thread Runtime) (runtime : Runtime) :
    Except Failure Bool :=
  match thread.current with
  | none => .ok false
  | some address => do return (← thread.read address).runtime = runtime

/-- The constructor of a locker links it to the current one and makes it current. -/
def newLocker (thread : Thread Runtime) (runtime : Runtime) (address : Nat) : Thread Runtime :=
  { thread.set address (some { runtime, previous := thread.current }) with current := some address }

def addRef (thread : Thread Runtime) (address : Nat) : Except Failure (Thread Runtime) := do
  let locker ← thread.read address
  return thread.set address (some { locker with refCount := locker.refCount + 1 })

/-- The destructor makes the previous locker current. -/
def release (thread : Thread Runtime) (address : Nat) : Except Failure (Thread Runtime) := do
  let locker ← thread.read address
  if locker.refCount - 1 = 0 then
    return { thread.set address none with current := locker.previous }
  else return thread.set address (some { locker with refCount := locker.refCount - 1 })

end Thread

/-- What a call leaves: its status, the scope it stores and the thread. -/
structure Called (Runtime : Type) where
  status : NapiStatus
  scope : Option Nat := none
  thread : Thread Runtime

section

variable [DecidableEq Runtime] (runtimeOf : Env → Runtime)

/-- `out` is whether the caller gave a place for the scope, `address` where a new
locker is put. -/
def openEnvScope (env : Env) (out : Bool) (address : Nat) (thread : Thread Runtime) :
    Except Failure (Called Runtime) :=
  if out = false then .ok { status := .invalidArg, thread }
  else do
    let thread ←
      match ← thread.hasCurrentRuntime (runtimeOf env), thread.current with
      | true, some current => thread.addRef current
      | _, _ => pure (thread.newLocker (runtimeOf env) address)
    return { status := .ok, scope := thread.current, thread }

end

def closeEnvScope (scope : Option Nat) (thread : Thread Runtime) :
    Except Failure (Called Runtime) :=
  match scope with
  | none => .ok { status := .invalidArg, thread }
  | some locker =>
      if some locker ≠ thread.current then .ok { status := .genericFailure, thread }
      else do return { status := .ok, thread := ← thread.release locker }

namespace Thread

variable {thread : Thread Runtime} {address : Nat} {locker : Locker Runtime}

/-- The current locker lives. -/
def Alive (thread : Thread Runtime) : Prop :=
  ∀ address, thread.current = some address → ∃ locker, thread.lockers address = some locker

theorem read_alive (alive : thread.lockers address = some locker) :
    thread.read address = .ok locker := by
  simp only [read, alive]

theorem set_lockers (thread : Thread Runtime) (address : Nat) (value : Option (Locker Runtime)) :
    (thread.set address value).lockers address = value := Function.update_self ..

/-- Writing back what was there undoes a write. -/
theorem set_back (thread : Thread Runtime) (address : Nat) (value : Option (Locker Runtime)) :
    (thread.set address value).set address (thread.lockers address) = thread := by
  apply Thread.ext
  · change Function.update (Function.update thread.lockers address value) address
      (thread.lockers address) = thread.lockers
    rw [Function.update_idem, Function.update_eq_self]
  · rfl

theorem release_alive (alive : thread.lockers address = some locker) :
    thread.release address =
      if locker.refCount - 1 = 0 then
        .ok { thread.set address none with current := locker.previous }
      else .ok (thread.set address (some { locker with refCount := locker.refCount - 1 })) := by
  rw [release, read_alive alive, ok_bind]
  rfl

/-- A reference that is given back leaves the thread as it was, unless the count
had come round to zero. -/
theorem release_addRef (alive : thread.lockers address = some locker)
    (counted : locker.refCount ≠ 0) :
    (thread.set address (some { locker with refCount := locker.refCount + 1 })).release address =
      .ok thread := by
  have back := thread.set_back address (some { locker with refCount := locker.refCount + 1 })
  rw [alive] at back
  have nonzero : locker.refCount + 1 - 1 ≠ 0 := by
    rw [UInt32.add_sub_cancel]
    exact counted
  rw [release_alive (set_lockers ..), ite_cond_eq_false _ _ (eq_false nonzero),
    UInt32.add_sub_cancel]
  exact congrArg Except.ok back

/-- A new locker that is released is deleted. -/
theorem release_newLocker (runtime : Runtime) (free : thread.lockers address = none) :
    (thread.newLocker runtime address).release address = .ok thread := by
  have back := thread.set_back address (some { runtime, previous := thread.current })
  rw [free] at back
  have lives : (thread.newLocker runtime address).lockers address =
      some { runtime, previous := thread.current } := set_lockers ..
  rw [release_alive lives, ite_cond_eq_true _ _ (eq_true (show (1 : UInt32) - 1 = 0 by decide))]
  exact congrArg Except.ok back

end Thread

theorem closeEnvScope_current {thread : Thread Runtime} {current : Nat}
    (found : thread.current = some current) :
    closeEnvScope (some current) thread =
      (thread.release current).map fun thread => { status := .ok, thread } := by
  simp only [closeEnvScope, found, ne_eq, not_true_eq_false, ↓reduceIte]
  cases thread.release current <;> rfl

theorem closeEnvScope_other {thread : Thread Runtime} {scope : Option Nat}
    (other : scope ≠ thread.current) :
    closeEnvScope scope thread =
      .ok { status := if scope = none then .invalidArg else .genericFailure, thread } := by
  cases scope with
  | none => rfl
  | some locker => simp only [closeEnvScope, other, ne_eq, not_false_eq_true, ↓reduceIte, reduceCtorEq]

/-! ## Sequences of calls -/

/-- An open that has not been closed, with the thread as it was before it. -/
structure Opened (Runtime : Type) where
  scope : Option Nat
  before : Thread Runtime

/-- The thread with its unclosed opens, the latest first, and the last status. -/
structure Session (Runtime : Type) where
  thread : Thread Runtime := {}
  opens : List (Opened Runtime) := []
  status : NapiStatus := .ok

/-- The latest open can be closed back to the thread before it, and so can the
opens before it, down to the thread without lockers. -/
inductive Nested : Thread Runtime → List (Opened Runtime) → Prop
  | empty : Nested {} []
  | opened {thread : Thread Runtime} {opens : List (Opened Runtime)} {opened : Opened Runtime}
      (outer : Nested opened.before opens) (alive : thread.Alive)
      (closes : closeEnvScope opened.scope thread = .ok { status := .ok, thread := opened.before }) :
      Nested thread (opened :: opens)

namespace Nested

variable {thread : Thread Runtime} {opens : List (Opened Runtime)}

theorem alive (nested : Nested thread opens) : thread.Alive := by
  cases nested with
  | empty =>
    intro address current
    cases current
  | opened _ alive _ => exact alive

theorem none_current (nested : Nested thread opens) (closed : opens = []) :
    thread.current = none := by
  cases nested with
  | empty => rfl
  | opened _ _ _ => cases closed

end Nested

/-- A call of the thread: an open on some env, the close of the latest unclosed
open, and a close with another scope than the current locker. -/
inductive Call (Env : Type)
  | openScope (env : Env) (address : Nat)
  | closeScope
  | closeOther (scope : Option Nat)
  deriving DecidableEq, Repr

variable [DecidableEq Runtime] (runtimeOf : Env → Runtime)

def Session.call (session : Session Runtime) :
    Call Env → Option (Except Failure (Session Runtime))
  | .openScope env address =>
      if (session.thread.lockers address).isNone then
        some ((openEnvScope runtimeOf env true address session.thread).map fun called =>
          { thread := called.thread
            opens := ⟨called.scope, session.thread⟩ :: session.opens
            status := called.status })
      else none
  | .closeScope =>
      match session.opens with
      | [] => none
      | opened :: opens =>
          some ((closeEnvScope opened.scope session.thread).map fun called =>
            { thread := called.thread, opens, status := called.status })
  | .closeOther scope =>
      if scope ≠ session.thread.current then
        some ((closeEnvScope scope session.thread).map fun called =>
          { session with thread := called.thread, status := called.status })
      else none

def thread : Program (Session Runtime) (Call Env) Failure :=
  { start := {}, call := Session.call runtimeOf }

/-- What a call does to the scopes. The close of the latest open succeeds and
gives back the thread as it was before that open, lockers and counts included;
after the last one no locker is current. Another scope is refused and changes
nothing; `nullStatus` is what a null scope is refused with. -/
def Nests (nullStatus : NapiStatus) (session : Session Runtime) (call : Call Env)
    (outcome : Except Failure (Session Runtime)) : Prop :=
  ∃ next, outcome = .ok next ∧ (next.opens = [] → next.thread.current = none) ∧
    match call with
    | .openScope _ _ => next.status = .ok
    | .closeScope => next.status = .ok ∧
        ∀ opened ∈ session.opens.head?, next.thread = opened.before
    | .closeOther scope => next.thread = session.thread ∧
        next.status = if scope = none then nullStatus else .genericFailure

/-- An open that adds to the count of a locker which has come round to zero, as it
does after 2^32 unclosed opens. -/
def wraps (session : Session Runtime) : Call Env → Bool
  | .openScope env _ => (session.thread.current.bind session.thread.lockers).any fun locker =>
      locker.runtime = runtimeOf env && locker.refCount == 0
  | _ => false

/-! ## Opening and closing -/

section

variable {runtimeOf} {env : Env} {address : Nat} {thread : Thread Runtime}

/-- An open adds to the current locker, when this is one of its runtime, or it
makes a new locker. -/
theorem openEnvScope_cases (alive : thread.Alive) :
    (∃ current locker, thread.current = some current ∧ thread.lockers current = some locker ∧
      locker.runtime = runtimeOf env ∧
      openEnvScope runtimeOf env true address thread =
        .ok { status := .ok
              scope := some current
              thread := thread.set current
                (some { locker with refCount := locker.refCount + 1 }) }) ∨
    openEnvScope runtimeOf env true address thread =
      .ok { status := .ok
            scope := some address
            thread := thread.newLocker (runtimeOf env) address } := by
  cases found : thread.current with
  | none =>
    right
    simp only [openEnvScope, Thread.hasCurrentRuntime, found, Bool.true_eq_false, ↓reduceIte,
      ok_bind, pure_ok]
    rfl
  | some current =>
    obtain ⟨locker, lives⟩ := alive current found
    have read := Thread.read_alive lives
    by_cases same : locker.runtime = runtimeOf env
    · left
      refine ⟨current, locker, rfl, lives, same, ?_⟩
      simp only [openEnvScope, Thread.hasCurrentRuntime, Thread.addRef, found, read, same,
        Bool.true_eq_false, ↓reduceIte, ok_bind, pure_ok, decide_true]
      rw [Thread.set, found]
    · right
      simp only [openEnvScope, Thread.hasCurrentRuntime, found, read, same, Bool.true_eq_false,
        ↓reduceIte, ok_bind, pure_ok, decide_false]
      rfl

/-- An open succeeds, and the close that follows it gives back the thread as it
was, unless the count of the locker had come round to zero. -/
theorem openEnvScope_closes (alive : thread.Alive) (free : thread.lockers address = none)
    (counted : ∀ current locker, thread.current = some current →
      thread.lockers current = some locker → locker.runtime = runtimeOf env →
      locker.refCount ≠ 0) :
    ∃ called, openEnvScope runtimeOf env true address thread = .ok called ∧
      called.status = .ok ∧ called.thread.Alive ∧
      closeEnvScope called.scope called.thread = .ok { status := .ok, thread } := by
  rcases openEnvScope_cases alive with
    ⟨current, locker, found, lives, same, shared⟩ | new
  · refine ⟨_, shared, rfl, ?_, ?_⟩
    · intro other now
      obtain rfl : current = other := Option.some.inj (found.symm.trans now)
      exact ⟨_, Thread.set_lockers ..⟩
    · have given := Thread.release_addRef lives (counted current locker found lives same)
      refine (closeEnvScope_current (show (thread.set current _).current = _ from found)).trans ?_
      rw [given]
      rfl
  · refine ⟨_, new, rfl, ?_, ?_⟩
    · intro other now
      obtain rfl := Option.some.inj now
      exact ⟨_, Thread.set_lockers ..⟩
    · refine (closeEnvScope_current rfl).trans ?_
      rw [Thread.release_newLocker (runtimeOf env) free]
      rfl

end

/-! ## Whole sequences -/

theorem counted_of_wraps {session : Session Runtime} {env : Env} {address current : Nat}
    {locker : Locker Runtime} (counted : wraps runtimeOf session (.openScope env address) = false)
    (found : session.thread.current = some current)
    (lives : session.thread.lockers current = some locker)
    (same : locker.runtime = runtimeOf env) : locker.refCount ≠ 0 := by
  simpa only [wraps, found, Option.bind_some, lives, Option.any_some, same, decide_true,
    Bool.true_and, beq_eq_false_iff_ne] using counted

/-- One call keeps the nesting. -/
theorem nests_step {session : Session Runtime} {call : Call Env}
    {outcome : Except Failure (Session Runtime)} (nested : Nested session.thread session.opens)
    (counted : wraps runtimeOf session call = false)
    (called : session.call runtimeOf call = some outcome) :
    Nests .invalidArg session call outcome ∧
      ∀ next, outcome = .ok next → Nested next.thread next.opens := by
  cases call with
  | openScope env address =>
    simp only [Session.call] at called
    split at called
    · rename_i free
      obtain ⟨result, opens, status, alive, closes⟩ :=
        openEnvScope_closes nested.alive (Option.isNone_iff_eq_none.mp free)
          (fun _ _ found lives same => counted_of_wraps runtimeOf counted found lives same)
      rw [opens] at called
      obtain rfl := Option.some.inj called
      constructor
      · refine ⟨_, rfl, ?_, status⟩
        intro closed
        cases closed
      · rintro next reached
        obtain rfl := Except.ok.inj reached
        exact .opened nested alive closes
    · cases called
  | closeScope =>
    obtain ⟨thread, opens, status⟩ := session
    cases nested with
    | empty => cases called
    | @opened _ opens opened outer _ closes =>
      simp only [Session.call, closes] at called
      obtain rfl := Option.some.inj called
      constructor
      · refine ⟨_, rfl, outer.none_current, rfl, ?_⟩
        rintro first found
        obtain rfl := Option.some.inj found
        rfl
      · rintro next reached
        obtain rfl := Except.ok.inj reached
        exact outer
  | closeOther scope =>
    simp only [Session.call] at called
    split at called
    · rename_i other
      rw [closeEnvScope_other other] at called
      obtain rfl := Option.some.inj called
      constructor
      · exact ⟨_, rfl, nested.none_current, rfl, rfl⟩
      · rintro next reached
        obtain rfl := Except.ok.inj reached
        exact nested
    · cases called

/-- Scopes nest over all sequences of calls in which no count comes round to zero
under an open; a null scope is an invalid argument. -/
theorem scopes_nest (calls : List (Call Env))
    (counted : (thread runtimeOf).Meets (fun session call => wraps runtimeOf session call = false)
      (thread runtimeOf).start calls) :
    (thread runtimeOf).Along (Nests .invalidArg) (thread runtimeOf).start calls := by
  refine Program.along_of_meets (fun session => Nested session.thread session.opens) ?_ calls
    (thread runtimeOf).start .empty counted
  intro session call outcome nested admitted called
  exact nests_step runtimeOf nested admitted called

/-- Two runtimes in turn: the second open shares the locker of the first. -/
theorem scopes_nest_two_runtimes :
    (thread (id : Bool → Bool)).Along (Nests .invalidArg) (thread (id : Bool → Bool)).start
      [.openScope true 1, .openScope true 2, .openScope false 2, .closeOther (some 1),
        .openScope true 3, .closeScope, .closeScope, .closeScope, .closeScope] :=
  scopes_nest id _ (by decide)

/-! ## Where scopes do not nest -/

section

/-- The thread of one locker with the count. -/
def sharedBy (refCount : UInt32) : Thread Unit :=
  { lockers := Function.update (fun _ => none) 0 (some { runtime := (), refCount, previous := none })
    current := some 0 }

theorem call_sharedBy (refCount : UInt32) (opens : List (Opened Unit)) (status : NapiStatus) :
    (thread (id : Unit → Unit)).call ⟨sharedBy refCount, opens, status⟩ (.openScope () 1) =
      some (.ok ⟨sharedBy (refCount + 1), ⟨some 0, sharedBy refCount⟩ :: opens, .ok⟩) := by
  have more : (sharedBy refCount).set 0
      (some { runtime := (), refCount := refCount + 1, previous := none }) =
      sharedBy (refCount + 1) := by
    apply Thread.ext
    · exact Function.update_idem ..
    · rfl
  rw [← more]
  rfl

/-- Every further open adds one to the count. -/
theorem exec_sharedBy (more : Nat) : ∀ refCount opens status,
    ∃ opens', (thread (id : Unit → Unit)).exec (.ok ⟨sharedBy refCount, opens, status⟩)
        (List.replicate (more + 1) (.openScope () 1)) =
      some (.ok ⟨sharedBy (refCount + UInt32.ofNat (more + 1)),
        ⟨some 0, sharedBy (refCount + UInt32.ofNat more)⟩ :: opens', .ok⟩) := by
  induction more with
  | zero =>
    intro refCount opens status
    refine ⟨opens, ?_⟩
    rw [List.replicate_one, Program.exec_ok_cons]
    rw [call_sharedBy, show UInt32.ofNat 0 = 0 from rfl, UInt32.add_zero]
    rfl
  | succ more ih =>
    intro refCount opens status
    obtain ⟨opens', ran⟩ := ih (refCount + 1) (⟨some 0, sharedBy refCount⟩ :: opens) .ok
    refine ⟨opens', ?_⟩
    have shift : ∀ n, refCount + 1 + UInt32.ofNat n = refCount + UInt32.ofNat (n + 1) := by
      intro n
      rw [UInt32.ofNat_add, UInt32.add_assoc, UInt32.add_comm 1]
      rfl
    rw [shift, shift] at ran
    rw [List.replicate_succ, Program.exec_ok_cons]
    rw [call_sharedBy, Option.bind_some, ran]

/-- When the count has come round to one, a close deletes the locker that the
other opens still share. -/
theorem not_nests_wrapped (nullStatus : NapiStatus) (more : Nat)
    (round : 1 + UInt32.ofNat (more + 1) = 1) :
    ¬ (thread (id : Unit → Unit)).Along (Nests nullStatus) (thread (id : Unit → Unit)).start
      (.openScope () 0 :: (List.replicate (more + 1) (.openScope () 1) ++ [.closeScope])) := by
  intro along
  obtain ⟨opens, ran⟩ := exec_sharedBy more 1 [⟨some 0, {}⟩] .ok
  rw [round] at ran
  obtain ⟨next, closed, -, -, restored⟩ :=
    along (.openScope () 0 :: List.replicate (more + 1) (.openScope () 1)) .closeScope [] _ _ rfl
      ran rfl
  obtain rfl := Except.ok.inj closed
  have same := congrArg Thread.current (restored _ rfl)
  cases same

/-- A null scope is refused as an invalid argument; and when 2^32 + 1 opens share
a locker, the first close deletes it. -/
theorem null_and_wrapped_scopes :
    ¬ (thread (id : Unit → Unit)).Along (Nests .genericFailure) (thread (id : Unit → Unit)).start
      [.openScope () 0, .closeOther none] ∧
    ¬ (thread (id : Unit → Unit)).Along (Nests .genericFailure) (thread (id : Unit → Unit)).start
      (.openScope () 0 :: (List.replicate (2 ^ 32) (.openScope () 1) ++ [.closeScope])) := by
  constructor
  · intro along
    obtain ⟨next, refused, -, -, status⟩ :=
      along [.openScope () 0] (.closeOther none) [] _ _ rfl rfl rfl
    obtain rfl := Except.ok.inj refused
    cases status
  · exact not_nests_wrapped .genericFailure (2 ^ 32 - 1) (by decide)

end

end V8Jsi.EnvScopes
