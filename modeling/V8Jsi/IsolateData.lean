import V8Jsi.IsolateOwnership

set_option autoImplicit false

/- The `IsolateData` that the runtimes of a thread reach through `isolate_data_`. -/
namespace V8Jsi.IsolateData

open IsolateOwnership Runs

/-- The functions that follow `isolate_data_`. -/
inductive Reader
  | napiTypeTag
  | napiWrapper
  | nativeStateKey
  | setImmediate
  deriving DecidableEq, Repr

inductive Failure
  | thread (failure : IsolateOwnership.Failure)
  | nullIsolateData (reader : Reader)
  deriving DecidableEq, Repr

inductive Action
  | construct
  | destroy (index : Nat)
  | read (index : Nat) (reader : Reader)
  deriving DecidableEq, Repr

def call (thread : Thread) : Action → Option (Except Failure Thread)
  | .construct => some ((construct thread).mapError .thread)
  | .destroy index => thread.runtimes[index]?.map fun runtime =>
      (destroy thread index runtime).mapError .thread
  | .read index reader => thread.runtimes[index]?.map fun runtime =>
      match runtime.isolateData with
      | none => .error (.nullIsolateData reader)
      | some _ => .ok thread

def threadData : Program Thread Action Failure where
  start := {}
  call := call

/-- Every live runtime has the data that its isolate keeps in its slot. -/
def DataReached : Except Failure Thread → Prop
  | .error _ => False
  | .ok thread => ∀ runtime ∈ thread.runtimes, ∃ isolate data,
      thread.isolates[runtime.isolate]? = some isolate ∧
        isolate.isolateDataSlot = some data ∧ runtime.isolateData = some data

/-- A runtime is constructed when no other one is live. -/
def alone (thread : Thread) : Action → Bool
  | .construct => thread.runtimes.isEmpty
  | .destroy _ | .read _ _ => true

/-- The only live runtime created its isolate and is inside it. -/
structure Single (thread : Thread) (isolate : Nat) : Prop where
  counter : thread.tlsIsolateUsageCounter = 1
  current : thread.current = some isolate
  runtimes : thread.runtimes =
    [{ isolate, isolateData := some isolate, arrayBufferAllocator := some isolate }]
  slot : ∃ previous, thread.isolates[isolate]? =
    some { isolateDataSlot := some isolate, previous }

def Invariant (thread : Thread) : Prop :=
  thread.tlsIsolateUsageCounter = 0 ∧ thread.runtimes = [] ∨ ∃ isolate, Single thread isolate

section

variable {thread : Thread} {isolate : Nat}

theorem Single.reached (single : Single thread isolate) : DataReached (.ok thread) := by
  intro runtime live
  obtain ⟨previous, slot⟩ := single.slot
  rw [single.runtimes] at live
  obtain rfl := List.mem_singleton.mp live
  exact ⟨_, isolate, slot, rfl, rfl⟩

theorem Invariant.reached (inv : Invariant thread) : DataReached (.ok thread) := by
  obtain ⟨-, none⟩ | ⟨isolate, single⟩ := inv
  · intro runtime live
    rw [none] at live
    cases live
  · exact single.reached

theorem Single.at_index (single : Single thread isolate) {index : Nat} {runtime : V8Runtime}
    (found : thread.runtimes[index]? = some runtime) :
    index = 0 ∧ runtime =
      { isolate, isolateData := some isolate, arrayBufferAllocator := some isolate } := by
  rw [single.runtimes] at found
  obtain ⟨inside, same⟩ := List.getElem?_eq_some_iff.mp found
  have first : index = 0 := by simpa using inside
  subst first
  exact ⟨rfl, same.symm⟩

/-- The first runtime makes the isolate with its data. -/
theorem construct_single (zero : thread.tlsIsolateUsageCounter = 0)
    (none : thread.runtimes = []) :
    ∃ after, construct thread = .ok after ∧ Single after thread.isolates.length := by
  refine ⟨createNewIsolate { thread with tlsIsolateUsageCounter := 0 + 1 }, ?_, ?_⟩
  · simp only [construct, zero, gt_iff_lt, UInt16.lt_irrefl, ↓reduceIte]
  · refine ⟨rfl, rfl, ?_, thread.current, ?_⟩
    · simp only [createNewIsolate, none, List.nil_append]
    · simp only [createNewIsolate, List.getElem?_concat_length]

/-- Its destructor disposes the isolate. -/
theorem destroy_single (single : Single thread isolate) :
    ∃ after, destroy thread 0
        { isolate, isolateData := some isolate, arrayBufferAllocator := some isolate } = .ok after ∧
      after.tlsIsolateUsageCounter = 0 ∧ after.runtimes = [] := by
  obtain ⟨previous, slot⟩ := single.slot
  have zero : (1 : UInt16) - 1 = 0 := rfl
  simp only [destroy, slot, single.counter, zero, disposeIsolate, single.current,
    single.runtimes, Bool.false_eq_true, ↓reduceIte, List.eraseIdx_zero, List.tail_cons]
  exact ⟨_, rfl, rfl, rfl⟩

/-- A runtime that finds another one live is left without the data. -/
theorem construct_reuses (single : Single thread isolate) :
    construct thread = .ok { thread with
      tlsIsolateUsageCounter := 1 + 1
      runtimes := thread.runtimes ++ [{ isolate }] } := by
  have positive : (1 : UInt16) > 0 := by decide
  simp only [construct, single.counter, positive, ↓reduceIte, single.current]

theorem call_reached {action : Action} {outcome : Except Failure Thread} (inv : Invariant thread)
    (admitted : alone thread action = true) (called : call thread action = some outcome) :
    ∃ after, outcome = .ok after ∧ Invariant after := by
  cases action with
  | construct =>
    have none : thread.runtimes = [] := List.isEmpty_iff.mp admitted
    obtain ⟨zero, -⟩ | ⟨isolate, single⟩ := inv
    · obtain ⟨after, constructed, single⟩ := construct_single zero none
      rw [call, constructed] at called
      cases called
      exact ⟨after, rfl, .inr ⟨_, single⟩⟩
    · rw [single.runtimes] at none
      cases none
  | destroy index =>
    obtain ⟨runtime, found, rfl⟩ := Option.map_eq_some_iff.mp called
    obtain ⟨-, none⟩ | ⟨isolate, single⟩ := inv
    · rw [none] at found
      cases found
    · obtain ⟨rfl, rfl⟩ := single.at_index found
      obtain ⟨after, destroyed, zero, none⟩ := destroy_single single
      rw [destroyed]
      exact ⟨after, rfl, .inl ⟨zero, none⟩⟩
  | read index reader =>
    obtain ⟨runtime, found, rfl⟩ := Option.map_eq_some_iff.mp called
    obtain ⟨-, none⟩ | ⟨isolate, single⟩ := inv
    · rw [none] at found
      cases found
    · obtain ⟨rfl, rfl⟩ := single.at_index found
      exact ⟨thread, rfl, .inr ⟨isolate, single⟩⟩

theorem call_unreached {action : Action} {outcome : Except Failure Thread} (inv : Invariant thread)
    (refused : ¬ alone thread action = true) (called : call thread action = some outcome) :
    ¬ DataReached outcome := by
  cases action with
  | construct =>
    obtain ⟨-, none⟩ | ⟨isolate, single⟩ := inv
    · exact absurd (List.isEmpty_iff.mpr none) refused
    · rw [call, construct_reuses single] at called
      cases called
      intro reached
      obtain ⟨_, data, -, -, own⟩ := reached { isolate } (List.mem_append_right _ List.mem_cons_self)
      cases own
  | destroy index => exact absurd rfl refused
  | read index reader => exact absurd rfl refused

end

/-- The live runtimes reach the data of their isolate exactly in the runs in which
no runtime is constructed while another one is live. -/
theorem data_reached_iff (trace : List Action) (outcome : Except Failure Thread)
    (ran : threadData.run trace = some outcome) :
    threadData.SafeAlong DataReached threadData.start trace ↔
      threadData.Meets (fun thread action => alone thread action = true) threadData.start
        trace := by
  refine Program.safeAlong_iff_meets Invariant (fun thread inv => inv.reached) ?_ ?_ trace
    threadData.start outcome (.inl ⟨rfl, rfl⟩) ran
  · intro thread action outcome inv admitted called
    obtain ⟨after, rfl, kept⟩ := call_reached inv admitted called
    refine ⟨kept.reached, ?_⟩
    rintro next ⟨⟩
    exact kept
  · intro thread action outcome inv refused called
    exact call_unreached inv refused called

/-- One runtime after the other, each used while it is live. -/
theorem data_reached_one_at_a_time :
    threadData.SafeAlong DataReached threadData.start
      [.construct, .read 0 .nativeStateKey, .destroy 0, .construct, .read 0 .setImmediate] :=
  (data_reached_iff _ _ rfl).mpr (by decide)

/-- The second runtime of a thread has no data: making a native state key of it
follows a null pointer. -/
theorem second_runtime_without_data :
    ¬ threadData.SafeAlong DataReached threadData.start [.construct, .construct] ∧
      threadData.run [.construct, .construct, .read 1 .nativeStateKey] =
        some (.error (.nullIsolateData .nativeStateKey)) := by
  refine ⟨fun along => ?_, rfl⟩
  have reached := along [.construct, .construct] [] _ rfl rfl
  obtain ⟨_, data, -, -, own⟩ := reached { isolate := 0 } (by decide)
  cases own

end V8Jsi.IsolateData
