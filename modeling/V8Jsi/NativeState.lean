import V8Jsi.Lib.Heap
import V8Jsi.Lib.Outcome
import V8Jsi.Lib.Runs
import V8Jsi.ScriptRuns

set_option autoImplicit false

/- The native state of an object in the two JSI implementations: a holder under
a private key in V8JsiRuntime.cpp, and a Node-API wrap in NodeApiJsiRuntime.cpp.
The objects stay alive during the calls, the env takes calls into JavaScript and
has no exception pending, and `none` is a null state. -/
namespace V8Jsi.NativeState

open Runs Outcome Heaps Heap ScriptRuns

/-- What a call answers. Both runtimes throw by a `JSINativeException`. -/
inductive Answer (State : Type)
  | done
  | has (result : Bool)
  | state (state : Option State)
  | thrown (message : String)
  deriving DecidableEq, Repr

variable {Obj State : Type} [DecidableEq Obj]

/-! ## V8Runtime -/

/-- The holder that the external under `nativeStateKey` points to, for each
object, and the state in each holder. -/
structure V8Runtime (Obj State : Type) where
  nativeStateKey : Obj → Option Nat := fun _ => none
  holders : Heap (Option State) := {}

namespace V8Runtime

def hasNativeState (runtime : V8Runtime Obj State) (obj : Obj) : Bool :=
  (runtime.nativeStateKey obj).isSome

def getNativeState (runtime : V8Runtime Obj State) (obj : Obj) : Except Fault (Option State) :=
  match runtime.nativeStateKey obj with
  | some holder => runtime.holders.read holder
  | none => .ok none

/-- A holder that is there gets the new state; otherwise a new one is put under
the key. -/
def setNativeState (runtime : V8Runtime Obj State) (obj : Obj) (state : Option State) :
    Except Fault (V8Runtime Obj State) :=
  match runtime.nativeStateKey obj with
  | some holder => do return { runtime with holders := ← runtime.holders.write holder state }
  | none =>
      .ok { nativeStateKey :=
              Function.update runtime.nativeStateKey obj (some runtime.holders.next)
            holders := runtime.holders.alloc state }

end V8Runtime

/-! ## NodeApiJsiRuntime -/

/-- The reference behind a wrap. Only its data, the `void*` given to `napi_wrap`,
is read. -/
structure Reference where
  data : Option Nat
  deriving DecidableEq, Repr

/-- The reference under the wrapper key of each object, and the shared pointers
that `setNativeState` makes by `new`. -/
structure NodeApiJsiRuntime (Obj State : Type) where
  wrapper : Obj → Option Reference := fun _ => none
  sharedPtrs : Heap (Option State) := {}

namespace NodeApiJsiRuntime

def napiUnwrap (runtime : NodeApiJsiRuntime Obj State) (obj : Obj) : NapiStatus × Option Nat :=
  match runtime.wrapper obj with
  | some reference => (.ok, reference.data)
  | none => (.invalidArg, none)

/-- The wrap goes away, and its reference with it: it is owned by the runtime. -/
def napiRemoveWrap (runtime : NodeApiJsiRuntime Obj State) (obj : Obj) :
    NapiStatus × Option Nat × NodeApiJsiRuntime Obj State :=
  match runtime.wrapper obj with
  | some reference =>
      (.ok, reference.data, { runtime with wrapper := Function.update runtime.wrapper obj none })
  | none => (.invalidArg, none, runtime)

/-- An object that is wrapped already is refused. -/
def napiWrap (runtime : NodeApiJsiRuntime Obj State) (obj : Obj) (data : Option Nat) :
    NapiStatus × NodeApiJsiRuntime Obj State :=
  if (runtime.wrapper obj).isSome then (.invalidArg, runtime)
  else (.ok, { runtime with wrapper := Function.update runtime.wrapper obj (some ⟨data⟩) })

/-- The digits of a status in `throwJSException`. -/
def statusCode : NapiStatus → String
  | .ok => "0"
  | .invalidArg => "1"
  | .genericFailure => "9"
  | .pendingException => "a"
  | .cannotRunJs => "17"

/-- `throwJSException` for a status that leaves no exception pending. -/
def throwJSException (status : NapiStatus) : Answer State :=
  .thrown ("A call to Node-API returned error code 0x" ++ statusCode status ++ ".")

def hasNativeState (runtime : NodeApiJsiRuntime Obj State) (obj : Obj) : Bool :=
  (runtime.napiUnwrap obj).1 = .ok && (runtime.napiUnwrap obj).2.isSome

def getNativeState (runtime : NodeApiJsiRuntime Obj State) (obj : Obj) :
    Except Fault (Answer State) :=
  match runtime.napiUnwrap obj with
  | (.ok, some nativeState) => do return .state (← runtime.sharedPtrs.read nativeState)
  | (.ok, none) => .ok (.state none)
  | (status, _) => .ok (throwJSException status)

/-- The first part of `setNativeState`: a state that is there is moved out of its
shared pointer, which stays allocated. -/
def dropNativeState (runtime : NodeApiJsiRuntime Obj State) (obj : Obj) :
    Except Fault (Answer State × NodeApiJsiRuntime Obj State) :=
  if runtime.hasNativeState obj then
    match runtime.napiRemoveWrap obj with
    | (.ok, some nativeState, runtime) => do
        let sharedPtrs ← runtime.sharedPtrs.write nativeState none
        return (.done, { runtime with sharedPtrs })
    | (.ok, none, runtime) => .ok (.done, runtime)
    | (status, _, runtime) => .ok (throwJSException status, runtime)
  else .ok (.done, runtime)

/-- The second part: a state that is not null is wrapped. -/
def wrapNativeState (runtime : NodeApiJsiRuntime Obj State) (obj : Obj) (state : Option State) :
    Answer State × NodeApiJsiRuntime Obj State :=
  match state with
  | none => (.done, runtime)
  | some state =>
      match napiWrap { runtime with sharedPtrs := runtime.sharedPtrs.alloc (some state) } obj
          (some runtime.sharedPtrs.next) with
      | (.ok, runtime) => (.done, runtime)
      | (status, runtime) => (throwJSException status, runtime)

def setNativeState (runtime : NodeApiJsiRuntime Obj State) (obj : Obj) (state : Option State) :
    Except Fault (Answer State × NodeApiJsiRuntime Obj State) := do
  match ← runtime.dropNativeState obj with
  | (.thrown message, runtime) => return (.thrown message, runtime)
  | (_, runtime) => return runtime.wrapNativeState obj state

end NodeApiJsiRuntime

/-! ## The same calls on both -/

inductive Call (Obj State : Type)
  | setNativeState (obj : Obj) (state : Option State)
  | hasNativeState (obj : Obj)
  | getNativeState (obj : Obj)
  deriving DecidableEq, Repr

def V8Runtime.call (runtime : V8Runtime Obj State) :
    Call Obj State → Except Fault (Answer State × V8Runtime Obj State)
  | .setNativeState obj state => do return (.done, ← runtime.setNativeState obj state)
  | .hasNativeState obj => .ok (.has (runtime.hasNativeState obj), runtime)
  | .getNativeState obj => do return (.state (← runtime.getNativeState obj), runtime)

def NodeApiJsiRuntime.call (runtime : NodeApiJsiRuntime Obj State) :
    Call Obj State → Except Fault (Answer State × NodeApiJsiRuntime Obj State)
  | .setNativeState obj state => runtime.setNativeState obj state
  | .hasNativeState obj => .ok (.has (runtime.hasNativeState obj), runtime)
  | .getNativeState obj => do return (← runtime.getNativeState obj, runtime)

/-- Both runtimes with their last answers. `lastSet` records for each object the
state of the last set, if there was one. -/
structure Runtimes (Obj State : Type) where
  v8 : V8Runtime Obj State := {}
  nodeApi : NodeApiJsiRuntime Obj State := {}
  lastSet : Obj → Option (Option State) := fun _ => none
  v8Answer : Answer State := .done
  nodeApiAnswer : Answer State := .done

def recordSet (lastSet : Obj → Option (Option State)) :
    Call Obj State → Obj → Option (Option State)
  | .setNativeState obj state => Function.update lastSet obj (some state)
  | _ => lastSet

def Runtimes.call (runtimes : Runtimes Obj State) (call : Call Obj State) :
    Except Fault (Runtimes Obj State) := do
  let (v8Answer, v8) ← runtimes.v8.call call
  let (nodeApiAnswer, nodeApi) ← runtimes.nodeApi.call call
  return { v8, nodeApi, lastSet := recordSet runtimes.lastSet call, v8Answer, nodeApiAnswer }

def runtimes : Program (Runtimes Obj State) (Call Obj State) Fault :=
  { start := {}, call := fun runtimes call => some (runtimes.call call) }

/-- An object has a state from its first set on, also when it was null, and the
state of the last set is given back. -/
def Answered (lastSet : Obj → Option (Option State)) (answer : Answer State) :
    Call Obj State → Prop
  | .setNativeState _ _ => answer = .done
  | .hasNativeState obj => answer = .has (lastSet obj).isSome
  | .getNativeState obj => ∀ state, lastSet obj = some state → answer = .state state

/-- Both runtimes give the same answer, and this is as it should be. -/
def Agrees (before : Runtimes Obj State) (call : Call Obj State)
    (outcome : Except Fault (Runtimes Obj State)) : Prop :=
  ∃ after, outcome = .ok after ∧ after.v8Answer = after.nodeApiAnswer ∧
    Answered before.lastSet after.v8Answer call

/-- No object is asked whether it has a state while the last one set is null, and
it is asked for its state only while the last one set is not null. -/
def Asked (before : Runtimes Obj State) : Call Obj State → Prop
  | .setNativeState _ _ => True
  | .hasNativeState obj => before.lastSet obj ≠ some none
  | .getNativeState obj => ∃ state, before.lastSet obj = some (some state)

/-! ## What each runtime answers -/

/-- The holders show the states of the last sets, null states among them. -/
structure V8Runtime.Tracks (runtime : V8Runtime Obj State) (lastSet : Obj → Option (Option State)) :
    Prop where
  owned : Owned runtime.nativeStateKey runtime.holders
  shows : shown runtime.nativeStateKey runtime.holders = lastSet

def v8Answers (lastSet : Obj → Option (Option State)) : Call Obj State → Answer State
  | .setNativeState _ _ => .done
  | .hasNativeState obj => .has (lastSet obj).isSome
  | .getNativeState obj => .state (lastSet obj).join

namespace V8Runtime.Tracks

variable {runtime : V8Runtime Obj State} {lastSet : Obj → Option (Option State)}

omit [DecidableEq Obj] in
theorem slot (tracks : runtime.Tracks lastSet) (obj : Obj) :
    runtime.nativeStateKey obj = none ∧ lastSet obj = none ∨
      ∃ holder state, runtime.nativeStateKey obj = some holder ∧
        runtime.holders.get? holder = some state ∧ lastSet obj = some state := by
  rw [← tracks.shows]
  cases found : runtime.nativeStateKey obj with
  | none => exact .inl ⟨rfl, by rw [shown, found]; rfl⟩
  | some holder =>
    obtain ⟨state, lives⟩ := tracks.owned.alive obj holder found
    exact .inr ⟨holder, state, rfl, lives, by rw [shown, found, Option.bind_some, lives]⟩

theorem call (tracks : runtime.Tracks lastSet) (call : Call Obj State) :
    ∃ after, runtime.call call = .ok (v8Answers lastSet call, after) ∧
      after.Tracks (recordSet lastSet call) := by
  cases call with
  | setNativeState obj state =>
    rcases tracks.slot obj with ⟨empty, -⟩ | ⟨holder, old, found, lives, -⟩
    · obtain ⟨owned, shows⟩ := tracks.owned.update_alloc obj state
      refine ⟨{ nativeStateKey :=
                  Function.update runtime.nativeStateKey obj (some runtime.holders.next)
                holders := runtime.holders.alloc state }, ?_, owned, ?_⟩
      · simp only [V8Runtime.call, setNativeState, empty, ok_bind]
        rfl
      · rw [shows, tracks.shows]
        rfl
    · obtain ⟨owned, shows⟩ := tracks.owned.write found state
      refine ⟨{ runtime with holders := runtime.holders.set holder (some state) }, ?_, owned, ?_⟩
      · simp only [V8Runtime.call, setNativeState, found, write_of_get? lives, ok_bind, pure_ok]
        rfl
      · rw [shows, tracks.shows]
        rfl
  | hasNativeState obj =>
    refine ⟨runtime, ?_, tracks⟩
    rcases tracks.slot obj with ⟨empty, none⟩ | ⟨holder, state, found, -, last⟩
    · simp only [V8Runtime.call, hasNativeState, v8Answers, empty, none, Option.isSome_none]
    · simp only [V8Runtime.call, hasNativeState, v8Answers, found, last, Option.isSome_some]
  | getNativeState obj =>
    refine ⟨runtime, ?_, tracks⟩
    rcases tracks.slot obj with ⟨empty, none⟩ | ⟨holder, state, found, lives, last⟩
    · simp only [V8Runtime.call, getNativeState, v8Answers, empty, none, ok_bind, pure_ok,
        Option.join_none]
    · simp only [V8Runtime.call, getNativeState, v8Answers, found, last, read_of_get? lives,
        ok_bind, pure_ok, Option.join_some]

end V8Runtime.Tracks

/-- The shared pointer that the wrap of an object leads to. -/
def NodeApiJsiRuntime.wrapped (runtime : NodeApiJsiRuntime Obj State) (obj : Obj) : Option Nat :=
  (runtime.wrapper obj).bind Reference.data

/-- A set with a null state is no wrap. -/
def keepsState (last : Option (Option State)) : Option (Option State) := last.join.map some

/-- The wraps show the states of the last sets that were not null. -/
structure NodeApiJsiRuntime.Tracks (runtime : NodeApiJsiRuntime Obj State)
    (lastSet : Obj → Option (Option State)) : Prop where
  owned : Owned runtime.wrapped runtime.sharedPtrs
  shows : shown runtime.wrapped runtime.sharedPtrs = fun obj => keepsState (lastSet obj)
  data : ∀ obj reference, runtime.wrapper obj = some reference → reference.data.isSome

def nodeApiAnswers (lastSet : Obj → Option (Option State)) : Call Obj State → Answer State
  | .setNativeState _ _ => .done
  | .hasNativeState obj => .has (lastSet obj).join.isSome
  | .getNativeState obj =>
      match (lastSet obj).join with
      | some state => .state (some state)
      | none => NodeApiJsiRuntime.throwJSException .invalidArg

namespace NodeApiJsiRuntime.Tracks

variable {runtime : NodeApiJsiRuntime Obj State} {lastSet : Obj → Option (Option State)}

omit [DecidableEq Obj] in
theorem slot (tracks : runtime.Tracks lastSet) (obj : Obj) :
    runtime.wrapper obj = none ∧ (lastSet obj).join = none ∨
      ∃ address state, runtime.wrapper obj = some ⟨some address⟩ ∧
        runtime.sharedPtrs.get? address = some (some state) ∧
        (lastSet obj).join = some state := by
  have shows := congrFun tracks.shows obj
  cases found : runtime.wrapper obj with
  | none =>
    left
    simp only [shown, wrapped, found, Option.bind_none, keepsState] at shows
    exact ⟨rfl, Option.map_eq_none_iff.mp shows.symm⟩
  | some reference =>
    right
    obtain ⟨address, data⟩ := Option.isSome_iff_exists.mp (tracks.data obj reference found)
    obtain ⟨value, lives⟩ := tracks.owned.alive obj address (by rw [wrapped, found]; exact data)
    simp only [shown, wrapped, found, Option.bind_some, data, lives, keepsState] at shows
    obtain ⟨state, last, rfl⟩ := Option.map_eq_some_iff.mp shows.symm
    exact ⟨address, state, congrArg some (congrArg Reference.mk data), lives, last⟩

theorem wrapped_update (runtime : NodeApiJsiRuntime Obj State) (obj : Obj)
    (reference : Option Reference) (sharedPtrs : Heap (Option State)) :
    NodeApiJsiRuntime.wrapped { wrapper := Function.update runtime.wrapper obj reference, sharedPtrs } =
      Function.update runtime.wrapped obj (reference.bind Reference.data) := by
  funext other
  by_cases same : other = obj
  · subst same
    simp only [wrapped, Function.update_self]
  · simp only [wrapped, Function.update_of_ne same]

theorem data_update {wrapper : Obj → Option Reference}
    (data : ∀ obj reference, wrapper obj = some reference → reference.data.isSome) (obj : Obj)
    (new : Option Reference) (filled : ∀ reference, new = some reference → reference.data.isSome)
    (other : Obj) (reference : Reference)
    (wraps : Function.update wrapper obj new other = some reference) : reference.data.isSome := by
  by_cases same : other = obj
  · subst same
    rw [Function.update_self] at wraps
    exact filled reference wraps
  · rw [Function.update_of_ne same] at wraps
    exact data other reference wraps

/-- Recording a set changes what is kept of that object only. -/
theorem keeps_update (lastSet : Obj → Option (Option State)) (obj : Obj) (state : Option State) :
    (fun other => keepsState (Function.update lastSet obj (some state) other)) =
      Function.update (fun other => keepsState (lastSet other)) obj (state.map some) := by
  funext other
  by_cases same : other = obj
  · subst same
    rw [Function.update_self, Function.update_self]
    rfl
  · rw [Function.update_of_ne same, Function.update_of_ne same]

/-- After the first part the object is not wrapped, as after a set with null. -/
theorem dropNativeState (tracks : runtime.Tracks lastSet) (obj : Obj) :
    ∃ after, runtime.dropNativeState obj = .ok (.done, after) ∧ after.wrapper obj = none ∧
      after.Tracks (Function.update lastSet obj (some none)) := by
  rcases tracks.slot obj with ⟨empty, none⟩ | ⟨address, state, found, lives, -⟩
  · refine ⟨runtime, ?_, empty, tracks.owned, ?_, tracks.data⟩
    · simp only [NodeApiJsiRuntime.dropNativeState, hasNativeState, napiUnwrap, empty, reduceCtorEq,
        decide_false, Bool.false_and, Bool.false_eq_true, ↓reduceIte]
    · have same : keepsState (lastSet obj) = Option.none := by rw [keepsState, none]; rfl
      rw [keeps_update, tracks.shows, Option.map_none, ← same, Function.update_eq_self]
  · have slot : runtime.wrapped obj = some address := by rw [wrapped, found]; rfl
    obtain ⟨written, moved⟩ := tracks.owned.write slot none
    obtain ⟨owned, shows⟩ := written.clear obj
    refine ⟨{ wrapper := Function.update runtime.wrapper obj none
              sharedPtrs := runtime.sharedPtrs.set address (some none) },
      ?_, Function.update_self .., ?_, ?_, ?_⟩
    · simp only [NodeApiJsiRuntime.dropNativeState, hasNativeState, napiUnwrap, napiRemoveWrap,
        found, write_of_get? lives, ok_bind, pure_ok, decide_true, Option.isSome_some,
        Bool.and_self, ↓reduceIte]
    · rw [wrapped_update]
      exact owned
    · rw [wrapped_update, keeps_update]
      refine shows.trans ?_
      rw [moved, tracks.shows, Function.update_idem]
      rfl
    · exact data_update tracks.data obj none (by simp)

/-- The second part wraps the new state. -/
theorem wrapNativeState (tracks : runtime.Tracks lastSet) {obj : Obj}
    (free : runtime.wrapper obj = none) (state : Option State) :
    ∃ after, runtime.wrapNativeState obj state = (.done, after) ∧
      after.Tracks (Function.update lastSet obj (some state)) := by
  cases state with
  | none =>
    obtain ⟨-, none⟩ | ⟨address, state, found, -, -⟩ := tracks.slot obj
    · refine ⟨runtime, rfl, tracks.owned, ?_, tracks.data⟩
      have same : keepsState (lastSet obj) = Option.none := by rw [keepsState, none]; rfl
      rw [keeps_update, tracks.shows, Option.map_none, ← same, Function.update_eq_self]
    · rw [free] at found
      cases found
  | some state =>
    obtain ⟨owned, shows⟩ := tracks.owned.update_alloc obj (some state)
    refine ⟨{ wrapper := Function.update runtime.wrapper obj (some ⟨some runtime.sharedPtrs.next⟩)
              sharedPtrs := runtime.sharedPtrs.alloc (some state) }, ?_, ?_, ?_, ?_⟩
    · simp only [NodeApiJsiRuntime.wrapNativeState, napiWrap, free, Option.isSome_none,
        Bool.false_eq_true, ↓reduceIte]
    · rw [wrapped_update]
      exact owned
    · rw [wrapped_update, keeps_update]
      refine shows.trans ?_
      rw [tracks.shows]
      rfl
    · exact data_update tracks.data obj _ (by simp)

theorem call (tracks : runtime.Tracks lastSet) (call : Call Obj State) :
    ∃ after, runtime.call call = .ok (nodeApiAnswers lastSet call, after) ∧
      after.Tracks (recordSet lastSet call) := by
  cases call with
  | setNativeState obj state =>
    obtain ⟨dropped, drops, free, cleared⟩ := tracks.dropNativeState obj
    obtain ⟨after, wraps, set⟩ := cleared.wrapNativeState free state
    rw [Function.update_idem] at set
    refine ⟨after, ?_, set⟩
    simp only [NodeApiJsiRuntime.call, setNativeState, drops, ok_bind, wraps]
    rfl
  | hasNativeState obj =>
    refine ⟨runtime, ?_, tracks⟩
    rcases tracks.slot obj with ⟨empty, none⟩ | ⟨address, state, found, -, last⟩
    · simp only [NodeApiJsiRuntime.call, hasNativeState, napiUnwrap, nodeApiAnswers, empty, none,
        Option.isSome_none, Bool.and_false]
    · simp only [NodeApiJsiRuntime.call, hasNativeState, napiUnwrap, nodeApiAnswers, found, last,
        Option.isSome_some, decide_true, Bool.and_self]
  | getNativeState obj =>
    refine ⟨runtime, ?_, tracks⟩
    rcases tracks.slot obj with ⟨empty, none⟩ | ⟨address, state, found, lives, last⟩
    · simp only [NodeApiJsiRuntime.call, getNativeState, napiUnwrap, nodeApiAnswers, empty, none,
        ok_bind, pure_ok]
    · simp only [NodeApiJsiRuntime.call, getNativeState, napiUnwrap, nodeApiAnswers, found, last,
        read_of_get? lives, ok_bind, pure_ok]

end NodeApiJsiRuntime.Tracks

/-! ## Whole sequences of calls -/

structure Tracks (runtimes : Runtimes Obj State) : Prop where
  v8 : runtimes.v8.Tracks runtimes.lastSet
  nodeApi : runtimes.nodeApi.Tracks runtimes.lastSet

omit [DecidableEq Obj] in
theorem tracks_start : Tracks ({} : Runtimes Obj State) := by
  refine ⟨⟨⟨?_, ?_⟩, rfl⟩, ⟨⟨?_, ?_⟩, rfl, ?_⟩⟩
  · intro obj address slot
    cases slot
  · intro first second address slot
    cases slot
  · intro obj address slot
    cases slot
  · intro first second address slot
    cases slot
  · intro obj reference slot
    cases slot

/-- One call on both runtimes, with the answer of each. -/
theorem Tracks.call {before : Runtimes Obj State} (tracks : Tracks before)
    (call : Call Obj State) :
    ∃ after, before.call call = .ok after ∧ Tracks after ∧
      after.v8Answer = v8Answers before.lastSet call ∧
      after.nodeApiAnswer = nodeApiAnswers before.lastSet call := by
  obtain ⟨v8, v8Called, v8Tracks⟩ := tracks.v8.call call
  obtain ⟨nodeApi, nodeApiCalled, nodeApiTracks⟩ := tracks.nodeApi.call call
  refine ⟨{ v8, nodeApi, lastSet := recordSet before.lastSet call
            v8Answer := v8Answers before.lastSet call
            nodeApiAnswer := nodeApiAnswers before.lastSet call },
    ?_, ⟨v8Tracks, nodeApiTracks⟩, rfl, rfl⟩
  simp only [Runtimes.call, v8Called, nodeApiCalled, ok_bind, pure_ok]

omit [DecidableEq Obj] in
/-- The answers agree on a call exactly when it is asked as it may be. -/
theorem agrees_iff {before after : Runtimes Obj State} (call : Call Obj State)
    (v8 : after.v8Answer = v8Answers before.lastSet call)
    (nodeApi : after.nodeApiAnswer = nodeApiAnswers before.lastSet call) :
    Agrees before call (.ok after) ↔ Asked before call := by
  have reads : Agrees before call (.ok after) ↔
      v8Answers before.lastSet call = nodeApiAnswers before.lastSet call ∧
        Answered before.lastSet (v8Answers before.lastSet call) call := by
    rw [← v8, ← nodeApi]
    constructor
    · rintro ⟨same, reached, agrees⟩
      obtain rfl := Except.ok.inj reached
      exact agrees
    · intro agrees
      exact ⟨after, rfl, agrees⟩
  rw [reads]
  cases call with
  | setNativeState obj state => simp only [v8Answers, nodeApiAnswers, Answered, Asked, and_self]
  | hasNativeState obj =>
    simp only [v8Answers, nodeApiAnswers, Answered, Asked, and_true]
    rcases before.lastSet obj with _ | _ | state <;> simp
  | getNativeState obj =>
    simp only [v8Answers, nodeApiAnswers, Answered, Asked]
    rcases before.lastSet obj with _ | _ | state <;> simp [NodeApiJsiRuntime.throwJSException]

/-- Over every sequence of calls on any objects the runtimes agree, as a native
state should be answered for, exactly when no call asks for one that is null. -/
theorem answers_agree_iff (calls : List (Call Obj State)) :
    runtimes.Along Agrees runtimes.start calls ↔ runtimes.Meets Asked runtimes.start calls := by
  have runs : ∀ (trace : List (Call Obj State)) (before : Runtimes Obj State), Tracks before →
      ∃ after, runtimes.exec (.ok before) trace = some (.ok after) := by
    intro trace
    induction trace with
    | nil => exact fun before _ => ⟨before, Program.exec_nil _⟩
    | cons call rest ih =>
      intro before tracks
      obtain ⟨after, called, next, -⟩ := tracks.call call
      obtain ⟨final, ran⟩ := ih after next
      refine ⟨final, ?_⟩
      rw [Program.exec_ok_cons]
      change (some (before.call call)).bind _ = _
      rw [called]
      exact ran
  obtain ⟨final, ran⟩ := runs calls {} tracks_start
  refine Program.along_iff_meets Tracks ?_ ?_ calls runtimes.start (.ok final) tracks_start ran
  · intro before call outcome tracks asked called
    obtain ⟨after, calls, next, v8, nodeApi⟩ := tracks.call call
    obtain rfl : Except.ok after = outcome := calls ▸ Option.some.inj called
    refine ⟨(agrees_iff call v8 nodeApi).mpr asked, ?_⟩
    rintro same reached
    obtain rfl := Except.ok.inj reached
    exact next
  · intro before call outcome tracks barred called agrees
    obtain ⟨after, calls, next, v8, nodeApi⟩ := tracks.call call
    obtain rfl : Except.ok after = outcome := calls ▸ Option.some.inj called
    exact barred ((agrees_iff call v8 nodeApi).mp agrees)

/-- After a reset with null the wrap is gone: NodeApiJsiRuntime has no state, and
throws when it is asked for it. -/
theorem reset_with_null_disagrees :
    ¬ (runtimes : Program (Runtimes Unit Nat) _ _).Along Agrees runtimes.start
        [.setNativeState () (some 42), .setNativeState () none, .hasNativeState ()] ∧
      ¬ (runtimes : Program (Runtimes Unit Nat) _ _).Along Agrees runtimes.start
        [.setNativeState () (some 42), .setNativeState () none, .getNativeState ()] := by
  constructor
  · intro along
    obtain ⟨after, reached, same, -⟩ := along
      [.setNativeState () (some 42), .setNativeState () none] (.hasNativeState ()) [] _ _
      rfl rfl rfl
    obtain rfl := Except.ok.inj reached
    cases same
  · intro along
    obtain ⟨after, reached, same, -⟩ := along
      [.setNativeState () (some 42), .setNativeState () none] (.getNativeState ()) [] _ _
      rfl rfl rfl
    obtain rfl := Except.ok.inj reached
    cases same

end V8Jsi.NativeState
