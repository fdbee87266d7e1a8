import Mathlib.Logic.Function.Basic
import V8Jsi.Lib.Runs

set_option autoImplicit false

/- Unhandled promise rejections of the runtimes of an isolate, in V8JsiRuntime.cpp
and v8_api.cpp. Each `V8Runtime` keeps one record in `last_unhandled_promise_`. -/
namespace V8Jsi.PromiseRejection

open Runs

/-- What the callback asks the engine about values. -/
structure Engine (Value Message : Type) where
  isObject : Value → Bool
  isNativeError : Value → Bool
  createMessage : Value → Message
  stackTraceIsEmpty : Message → Bool
  error : String → Value
  messageOfThrown : Value → Message

/-- The embedder data of a context. -/
structure Context where
  numberOfEmbedderDataFields : Nat
  tagged : Bool
  runtime : Nat
  deriving DecidableEq, Repr

structure Promise where
  identity : Nat
  creationContext : Option Context
  deriving DecidableEq, Repr

inductive PromiseRejectEvent
  | rejectWithNoHandler
  | handlerAddedAfterReject
  | rejectAfterResolved
  | resolveAfterResolved
  deriving DecidableEq, Repr

structure PromiseRejectMessage (Value : Type) where
  promise : Promise
  event : PromiseRejectEvent
  value : Value

structure UnhandledPromiseRejection (Value Message : Type) where
  promise : Promise
  message : Option Message
  value : Value

structure V8Runtime (Value Message : Type) where
  ignoreUnhandledPromises : Bool := false
  lastUnhandledPromise : Option (UnhandledPromiseRejection Value Message) := none

variable {Value Message : Type}

def contextTagIndex : Nat := 1

/-- `GetCurrent` for the creation context of a promise. -/
def getCurrent (context : Context) : Option Nat :=
  if context.numberOfEmbedderDataFields ≤ contextTagIndex then none
  else if !context.tagged then none
  else some context.runtime

/-- The runtime that the callback turns to. -/
def Promise.runtime (promise : Promise) : Option Nat :=
  promise.creationContext.bind getCurrent

namespace V8Runtime

def hasUnhandledPromiseRejection (runtime : V8Runtime Value Message) : Bool :=
  runtime.lastUnhandledPromise.isSome

def getAndClearLastUnhandledPromiseRejection (runtime : V8Runtime Value Message) :
    Option (UnhandledPromiseRejection Value Message) × V8Runtime Value Message :=
  (runtime.lastUnhandledPromise, { runtime with lastUnhandledPromise := none })

def setUnhandledPromise (runtime : V8Runtime Value Message) (promise : Promise)
    (message : Option Message) (exception : Value) : V8Runtime Value Message :=
  if runtime.ignoreUnhandledPromises then runtime
  else { runtime with lastUnhandledPromise := some ⟨promise, message, exception⟩ }

def removeUnhandledPromise (runtime : V8Runtime Value Message) (promise : Promise) :
    V8Runtime Value Message :=
  if runtime.ignoreUnhandledPromises then runtime
  else
    match runtime.lastUnhandledPromise with
    | some record =>
        if record.promise = promise then { runtime with lastUnhandledPromise := none }
        else runtime
    | none => runtime

end V8Runtime

/-- The runtimes of the isolate by their number. -/
abbrev Runtimes (Value Message : Type) : Type := Nat → V8Runtime Value Message

/-- A value that is no native error and has no stack trace is replaced by an
`Error` that is thrown and caught for its stack trace. -/
def rejectionRecord (engine : Engine Value Message) (value : Value) : Option Message × Value :=
  let message := if engine.isObject value then some (engine.createMessage value) else none
  if !engine.isNativeError value && message.all engine.stackTraceIsEmpty then
    let thrown := engine.error "Unhandled Promise."
    (some (engine.messageOfThrown thrown), thrown)
  else (message, value)

def promiseRejectCallback (engine : Engine Value Message) (runtimes : Runtimes Value Message)
    (data : PromiseRejectMessage Value) : Runtimes Value Message :=
  if data.event = .rejectAfterResolved ∨ data.event = .resolveAfterResolved then runtimes
  else
    match data.promise.creationContext with
    | none => runtimes
    | some context =>
      match getCurrent context with
      | none => runtimes
      | some runtime =>
        if data.event = .handlerAddedAfterReject then
          Function.update runtimes runtime
            ((runtimes runtime).removeUnhandledPromise data.promise)
        else
          let (message, exception) := rejectionRecord engine data.value
          Function.update runtimes runtime
            ((runtimes runtime).setUnhandledPromise data.promise message exception)

/-- The C API reads the value of the record without a test for null. -/
inductive Failure
  | nullRecord
  deriving DecidableEq, Repr

/-- `getAndClearLastUnhandledPromiseRejection` of `NodeApiEnv`. -/
def jsrGetAndClear (runtime : V8Runtime Value Message) :
    Except Failure (Value × V8Runtime Value Message) :=
  match runtime.getAndClearLastUnhandledPromiseRejection with
  | (some rejectionInfo, cleared) => .ok (rejectionInfo.value, cleared)
  | (none, _) => .error .nullRecord

inductive Action (Value : Type)
  | promiseReject (data : PromiseRejectMessage Value)
  | getAndClear (runtime : Nat)
  | jsrGetAndClear (runtime : Nat)

/-! ## What is to be tracked -/

/-- For each runtime the promises that were rejected without a handler since its
last clear and have had no handler added since. -/
abbrev Unhandled : Type := Nat → List Promise

/-- A promise whose context has no runtime is no promise of a runtime. -/
def Unhandled.observeEvent (unhandled : Unhandled) (promise : Promise) :
    PromiseRejectEvent → Unhandled
  | .rejectWithNoHandler =>
      match promise.runtime with
      | some runtime => Function.update unhandled runtime (promise :: unhandled runtime)
      | none => unhandled
  | .handlerAddedAfterReject =>
      match promise.runtime with
      | some runtime =>
          Function.update unhandled runtime ((unhandled runtime).filter (· ≠ promise))
      | none => unhandled
  | .rejectAfterResolved | .resolveAfterResolved => unhandled

def Unhandled.observe (unhandled : Unhandled) : Action Value → Unhandled
  | .promiseReject data => unhandled.observeEvent data.promise data.event
  | .getAndClear runtime | .jsrGetAndClear runtime => Function.update unhandled runtime []

structure State (Value Message : Type) where
  runtimes : Runtimes Value Message := fun _ => {}
  unhandled : Unhandled := fun _ => []

def call (engine : Engine Value Message) (state : State Value Message) (action : Action Value) :
    Option (Except Failure (State Value Message)) :=
  let unhandled := state.unhandled.observe action
  match action with
  | .promiseReject data =>
      some (.ok ⟨promiseRejectCallback engine state.runtimes data, unhandled⟩)
  | .getAndClear runtime =>
      let cleared := (state.runtimes runtime).getAndClearLastUnhandledPromiseRejection.2
      some (.ok ⟨Function.update state.runtimes runtime cleared, unhandled⟩)
  | .jsrGetAndClear runtime =>
      some ((jsrGetAndClear (state.runtimes runtime)).map fun (_, cleared) =>
        ⟨Function.update state.runtimes runtime cleared, unhandled⟩)

def rejectionProgram (engine : Engine Value Message) :
    Program (State Value Message) (Action Value) Failure where
  start := {}
  call := call engine

def TrackedExactly : Except Failure (State Value Message) → Prop
  | .ok state => ∀ runtime,
      (state.runtimes runtime).hasUnhandledPromiseRejection = true ↔ state.unhandled runtime ≠ []
  | .error _ => False

/-- A handler is added to the promise of the record only when no other promise of
its runtime is unhandled, and the C API is asked for a record only when there is
one. -/
def SlotSuffices (state : State Value Message) : Action Value → Prop
  | .promiseReject data => data.event = .handlerAddedAfterReject →
      ∀ runtime record, data.promise.runtime = some runtime →
        (state.runtimes runtime).lastUnhandledPromise = some record →
        record.promise = data.promise → ∀ other ∈ state.unhandled runtime, other = data.promise
  | .getAndClear _ => True
  | .jsrGetAndClear runtime => (state.runtimes runtime).hasUnhandledPromiseRejection = true

/-! ## One runtime -/

/-- The record of a runtime names one of its unhandled promises; without a record
there is none. -/
structure Tracks (runtime : V8Runtime Value Message) (unhandled : List Promise) : Prop where
  listens : runtime.ignoreUnhandledPromises = false
  empty : runtime.lastUnhandledPromise = none → unhandled = []
  held : ∀ record, runtime.lastUnhandledPromise = some record → record.promise ∈ unhandled

theorem Tracks.exact {runtime : V8Runtime Value Message} {unhandled : List Promise}
    (tracks : Tracks runtime unhandled) :
    runtime.hasUnhandledPromiseRejection = true ↔ unhandled ≠ [] := by
  cases slot : runtime.lastUnhandledPromise with
  | none => simp [V8Runtime.hasUnhandledPromiseRejection, slot, tracks.empty slot]
  | some record =>
    have member := tracks.held record slot
    simp [V8Runtime.hasUnhandledPromiseRejection, slot, List.ne_nil_of_mem member]

theorem Tracks.set {runtime : V8Runtime Value Message} {unhandled : List Promise}
    (tracks : Tracks runtime unhandled) (promise : Promise) (message : Option Message)
    (exception : Value) :
    Tracks (runtime.setUnhandledPromise promise message exception) (promise :: unhandled) := by
  simp only [V8Runtime.setUnhandledPromise, tracks.listens, Bool.false_eq_true, if_false]
  exact ⟨rfl, by simp, by simp⟩

theorem Tracks.clear {runtime : V8Runtime Value Message} {unhandled : List Promise}
    (tracks : Tracks runtime unhandled) :
    Tracks runtime.getAndClearLastUnhandledPromiseRejection.2 [] :=
  ⟨tracks.listens, fun _ => rfl, fun _ found => by
    simp [V8Runtime.getAndClearLastUnhandledPromiseRejection] at found⟩

/-- The record is removed with its promise and no other unhandled one is left. -/
theorem Tracks.remove_last {runtime : V8Runtime Value Message} {unhandled : List Promise}
    {record : UnhandledPromiseRejection Value Message}
    (tracks : Tracks runtime unhandled) (slot : runtime.lastUnhandledPromise = some record)
    (alone : ∀ other ∈ unhandled, other = record.promise) :
    Tracks (runtime.removeUnhandledPromise record.promise)
      (unhandled.filter (· ≠ record.promise)) := by
  have none_left : unhandled.filter (· ≠ record.promise) = [] := by
    apply List.filter_eq_nil_iff.mpr
    intro other member
    simp [alone other member]
  rw [none_left]
  simp only [V8Runtime.removeUnhandledPromise, tracks.listens, Bool.false_eq_true, if_false, slot,
    if_true]
  exact ⟨rfl, fun _ => rfl, by simp⟩

/-- The record of another promise stays. -/
theorem Tracks.remove_other {runtime : V8Runtime Value Message} {unhandled : List Promise}
    {promise : Promise} (tracks : Tracks runtime unhandled)
    (other : ∀ record, runtime.lastUnhandledPromise = some record → record.promise ≠ promise) :
    Tracks (runtime.removeUnhandledPromise promise) (unhandled.filter (· ≠ promise)) := by
  have same : runtime.removeUnhandledPromise promise = runtime := by
    cases slot : runtime.lastUnhandledPromise with
    | none => simp [V8Runtime.removeUnhandledPromise, slot]
    | some record => simp [V8Runtime.removeUnhandledPromise, slot, other record slot]
  rw [same]
  refine ⟨tracks.listens, ?_, ?_⟩
  · intro slot
    rw [tracks.empty slot, List.filter_nil]
  · intro record slot
    simpa using ⟨tracks.held record slot, other record slot⟩

/-- The record is removed with its promise while another promise is unhandled. -/
theorem remove_loses {runtime : V8Runtime Value Message} {unhandled : List Promise}
    {record : UnhandledPromiseRejection Value Message} {other : Promise}
    (tracks : Tracks runtime unhandled) (slot : runtime.lastUnhandledPromise = some record)
    (member : other ∈ unhandled) (differs : other ≠ record.promise) :
    (runtime.removeUnhandledPromise record.promise).hasUnhandledPromiseRejection = false ∧
      unhandled.filter (· ≠ record.promise) ≠ [] := by
  constructor
  · simp [V8Runtime.removeUnhandledPromise, tracks.listens, slot,
      V8Runtime.hasUnhandledPromiseRejection]
  · apply List.ne_nil_of_mem (a := other)
    simpa using ⟨member, differs⟩

/-! ## All runtimes -/

def Invariant (state : State Value Message) : Prop :=
  ∀ runtime, Tracks (state.runtimes runtime) (state.unhandled runtime)

theorem Invariant.exact {state : State Value Message} (inv : Invariant state) :
    TrackedExactly (.ok state) :=
  fun runtime => (inv runtime).exact

theorem Invariant.update {state : State Value Message} (inv : Invariant state) (runtime : Nat)
    {changed : V8Runtime Value Message} {unhandled : List Promise}
    (tracks : Tracks changed unhandled) :
    Invariant ⟨Function.update state.runtimes runtime changed,
      Function.update state.unhandled runtime unhandled⟩ := by
  intro other
  by_cases same : other = runtime
  · subst same
    simpa using tracks
  · simpa [same] using inv other

theorem callback_ignored (engine : Engine Value Message) (state : State Value Message)
    {data : PromiseRejectMessage Value}
    (ignored : data.promise.runtime = none ∨ data.event = .rejectAfterResolved ∨
      data.event = .resolveAfterResolved) :
    promiseRejectCallback engine state.runtimes data = state.runtimes ∧
      state.unhandled.observeEvent data.promise data.event = state.unhandled := by
  rcases ignored with unowned | late | late
  · constructor
    · unfold promiseRejectCallback
      split
      · rfl
      · cases created : data.promise.creationContext with
        | none => rfl
        | some context =>
          have absent : getCurrent context = none := by simpa [Promise.runtime, created] using unowned
          simp [absent]
    · cases data.event <;> simp [Unhandled.observeEvent, unowned]
  · simp [promiseRejectCallback, Unhandled.observeEvent, late]
  · simp [promiseRejectCallback, Unhandled.observeEvent, late]

theorem callback_rejected (engine : Engine Value Message) (runtimes : Runtimes Value Message)
    {data : PromiseRejectMessage Value} {runtime : Nat}
    (owned : data.promise.runtime = some runtime) (event : data.event = .rejectWithNoHandler) :
    promiseRejectCallback engine runtimes data =
      Function.update runtimes runtime ((runtimes runtime).setUnhandledPromise data.promise
        (rejectionRecord engine data.value).1 (rejectionRecord engine data.value).2) := by
  obtain ⟨context, created, current⟩ := Option.bind_eq_some_iff.mp owned
  simp [promiseRejectCallback, event, created, current]

theorem callback_handled (engine : Engine Value Message) (runtimes : Runtimes Value Message)
    {data : PromiseRejectMessage Value} {runtime : Nat}
    (owned : data.promise.runtime = some runtime) (event : data.event = .handlerAddedAfterReject) :
    promiseRejectCallback engine runtimes data =
      Function.update runtimes runtime
        ((runtimes runtime).removeUnhandledPromise data.promise) := by
  obtain ⟨context, created, current⟩ := Option.bind_eq_some_iff.mp owned
  simp [promiseRejectCallback, event, created, current]

theorem promiseReject_kept (engine : Engine Value Message) {state : State Value Message}
    {data : PromiseRejectMessage Value} (inv : Invariant state)
    (suffices' : SlotSuffices state (.promiseReject data)) :
    Invariant ⟨promiseRejectCallback engine state.runtimes data,
      state.unhandled.observeEvent data.promise data.event⟩ := by
  cases owned : data.promise.runtime with
  | none =>
    obtain ⟨untouched, unobserved⟩ := callback_ignored engine state (.inl owned)
    rw [untouched, unobserved]
    exact inv
  | some runtime =>
    cases event : data.event with
    | rejectWithNoHandler =>
      rw [callback_rejected engine state.runtimes owned event]
      simp only [Unhandled.observeEvent, owned]
      exact inv.update runtime ((inv runtime).set data.promise _ _)
    | handlerAddedAfterReject =>
      rw [callback_handled engine state.runtimes owned event]
      simp only [Unhandled.observeEvent, owned]
      apply inv.update runtime
      by_cases last : ∃ record, (state.runtimes runtime).lastUnhandledPromise = some record ∧
          record.promise = data.promise
      · obtain ⟨record, slot, same⟩ := last
        have alone := suffices' event runtime record owned slot same
        rw [← same] at alone ⊢
        exact (inv runtime).remove_last slot alone
      · apply (inv runtime).remove_other
        intro record slot same
        exact last ⟨record, slot, same⟩
    | rejectAfterResolved =>
      rw [(callback_ignored engine state (.inr (.inl event))).1]
      exact inv
    | resolveAfterResolved =>
      rw [(callback_ignored engine state (.inr (.inr event))).1]
      exact inv

/-! ## Runs -/

theorem call_kept (engine : Engine Value Message) (state : State Value Message)
    (action : Action Value) (outcome : Except Failure (State Value Message))
    (inv : Invariant state) (admitted : SlotSuffices state action)
    (called : call engine state action = some outcome) :
    TrackedExactly outcome ∧ ∀ next, outcome = .ok next → Invariant next := by
  suffices kept : ∃ next, outcome = .ok next ∧ Invariant next by
    obtain ⟨next, rfl, held⟩ := kept
    refine ⟨held.exact, ?_⟩
    rintro other ⟨⟩
    exact held
  cases action with
  | promiseReject data =>
    obtain rfl := Option.some.inj called
    exact ⟨_, rfl, promiseReject_kept engine inv admitted⟩
  | getAndClear runtime =>
    obtain rfl := Option.some.inj called
    exact ⟨_, rfl, inv.update runtime (inv runtime).clear⟩
  | jsrGetAndClear runtime =>
    obtain rfl := Option.some.inj called
    obtain ⟨record, slot⟩ := Option.isSome_iff_exists.mp admitted
    refine ⟨⟨Function.update state.runtimes runtime
      (state.runtimes runtime).getAndClearLastUnhandledPromiseRejection.2,
      Function.update state.unhandled runtime []⟩, ?_, inv.update runtime (inv runtime).clear⟩
    simp [jsrGetAndClear, V8Runtime.getAndClearLastUnhandledPromiseRejection, slot, Except.map,
      Unhandled.observe]

theorem call_lost (engine : Engine Value Message) (state : State Value Message)
    (action : Action Value) (outcome : Except Failure (State Value Message))
    (inv : Invariant state) (refused : ¬ SlotSuffices state action)
    (called : call engine state action = some outcome) : ¬ TrackedExactly outcome := by
  cases action with
  | promiseReject data =>
    obtain rfl := Option.some.inj called
    simp only [SlotSuffices, not_forall] at refused
    obtain ⟨event, runtime, record, owned, slot, same, other, member, differs⟩ := refused
    have lost := remove_loses (inv runtime) slot member (by rwa [same])
    rw [same] at lost
    intro tracked
    have answer := tracked runtime
    rw [callback_handled engine state.runtimes owned event] at answer
    simp only [Unhandled.observe, event, Unhandled.observeEvent, owned, Function.update_self,
      lost.1] at answer
    exact Bool.false_ne_true (answer.mpr lost.2)
  | getAndClear runtime => exact absurd trivial refused
  | jsrGetAndClear runtime =>
    obtain rfl := Option.some.inj called
    have empty : (state.runtimes runtime).lastUnhandledPromise = none := by
      simpa [SlotSuffices, V8Runtime.hasUnhandledPromiseRejection] using refused
    simp [jsrGetAndClear, V8Runtime.getAndClearLastUnhandledPromiseRejection, empty, Except.map,
      TrackedExactly]

theorem start_invariant (engine : Engine Value Message) :
    Invariant (rejectionProgram engine).start :=
  fun _ => ⟨rfl, fun _ => rfl, by simp [rejectionProgram]⟩

/-- Along every run the answers are exact, and no null record is read, as long as,
and only as long as, one record is enough. -/
theorem tracked_exactly_iff (engine : Engine Value Message) (trace : List (Action Value))
    (outcome : Except Failure (State Value Message))
    (ran : (rejectionProgram engine).run trace = some outcome) :
    (rejectionProgram engine).SafeAlong TrackedExactly (rejectionProgram engine).start trace ↔
      (rejectionProgram engine).Meets SlotSuffices (rejectionProgram engine).start trace :=
  Program.safeAlong_iff_meets Invariant (fun _ inv => inv.exact) (call_kept engine)
    (call_lost engine) trace _ outcome (start_invariant engine) ran

/-- Rejected values are numbers, without a message of their own. -/
def plainEngine : Engine Nat String where
  isObject := fun _ => false
  isNativeError := fun _ => false
  createMessage := fun _ => ""
  stackTraceIsEmpty := fun _ => true
  error := fun _ => 0
  messageOfThrown := fun _ => "Uncaught Error: Unhandled Promise."

def promiseOf (identity : Nat) : Promise :=
  ⟨identity, some { numberOfEmbedderDataFields := 2, tagged := true, runtime := 0 }⟩

def rejected (identity : Nat) : Action Nat :=
  .promiseReject ⟨promiseOf identity, .rejectWithNoHandler, identity⟩

def handled (identity : Nat) : Action Nat :=
  .promiseReject ⟨promiseOf identity, .handlerAddedAfterReject, identity⟩

/-- The earlier rejection is handled, the later one is taken by the C API. -/
theorem tracked_exactly_first_handled :
    (rejectionProgram plainEngine).SafeAlong TrackedExactly (rejectionProgram plainEngine).start
      [rejected 1, rejected 2, handled 1, .jsrGetAndClear 0] := by
  apply (tracked_exactly_iff plainEngine [rejected 1, rejected 2, handled 1, .jsrGetAndClear 0]
    _ rfl).mpr
  simp [Program.Meets, rejectionProgram, call, rejected, handled, promiseOf, SlotSuffices,
    promiseRejectCallback, getCurrent, contextTagIndex, Promise.runtime, Unhandled.observe,
    Unhandled.observeEvent, rejectionRecord, plainEngine, V8Runtime.setUnhandledPromise,
    V8Runtime.removeUnhandledPromise, V8Runtime.hasUnhandledPromiseRejection, jsrGetAndClear,
    V8Runtime.getAndClearLastUnhandledPromiseRejection, Except.map]
  intro runtime record zero
  subst zero
  simp only [Function.update_self, Option.some.injEq]
  intro slot
  subst slot
  simp

/-- Handling the later of two rejections hides the earlier one, and a C API call
with nothing rejected reads a null record. -/
theorem later_handled_hides_earlier :
    ¬ (rejectionProgram plainEngine).SafeAlong TrackedExactly (rejectionProgram plainEngine).start
        [rejected 1, rejected 2, handled 2] ∧
      (rejectionProgram plainEngine).run [.jsrGetAndClear 0] =
        some (.error .nullRecord) := by
  refine ⟨fun along => ?_, rfl⟩
  have tracked : TrackedExactly (.ok _) :=
    along [rejected 1, rejected 2, handled 2] [] (.ok _) rfl rfl
  have answer := tracked 0
  revert answer
  decide

end V8Jsi.PromiseRejection
