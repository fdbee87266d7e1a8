import Mathlib.Data.List.Basic
import Mathlib.Data.List.Count
import V8Jsi.Lib.Runs

set_option autoImplicit false

/- The isolate of a thread in V8JsiRuntime.cpp. `V8Runtime` objects of one thread
share it through `tls_isolate_usage_counter_`; its allocator is kept in the
`create_params_` of the runtime that created it. -/
namespace V8Jsi.IsolateOwnership

open Runs

/-- The slots of an isolate that the runtimes use, and the isolate that was
current when it was entered. -/
structure Isolate where
  isolateDataSlot : Option Nat
  previous : Option Nat
  disposed : Bool := false
  deriving DecidableEq, Repr

/-- The members of `V8Runtime` that `CreateNewIsolate` and the constructor set.
Isolate data and allocators are numbered like the isolate they are made for. -/
structure V8Runtime where
  isolate : Nat
  isolateData : Option Nat := none
  arrayBufferAllocator : Option Nat := none
  deriving DecidableEq, Repr

inductive Event
  | created (isolate allocator : Nat)
  | disposed (isolate : Nat)
  | freed (allocator : Nat)
  deriving DecidableEq, Repr

/-- How a constructor or destructor loses the process. -/
inductive Failure
  | nullIsolate
  | disposedIsolate
  | exitedNotCurrent
  deriving DecidableEq, Repr

structure Thread where
  tlsIsolateUsageCounter : UInt16 := 0
  current : Option Nat := none
  isolates : List Isolate := []
  runtimes : List V8Runtime := []
  events : List Event := []
  deriving DecidableEq, Repr

/-- Live runtimes are destroyed in any order. -/
inductive Action
  | construct
  | destroy (index : Nat)
  deriving DecidableEq, Repr

/-- `CreateNewIsolate`, in the constructor of a new runtime. -/
def createNewIsolate (thread : Thread) : Thread :=
  let isolate := thread.isolates.length
  { thread with
    current := some isolate
    isolates := thread.isolates ++
      [{ isolateDataSlot := some isolate, previous := thread.current }]
    runtimes := thread.runtimes ++
      [{ isolate, isolateData := some isolate, arrayBufferAllocator := some isolate }]
    events := thread.events ++ [.created isolate isolate] }

def construct (thread : Thread) : Except Failure Thread :=
  let counter := thread.tlsIsolateUsageCounter
  let thread := { thread with tlsIsolateUsageCounter := counter + 1 }
  if counter > 0 then
    match thread.current with
    | none => .error .nullIsolate
    | some isolate => .ok { thread with runtimes := thread.runtimes ++ [{ isolate }] }
  else .ok (createNewIsolate thread)

/-- The delete expression does nothing for a runtime that created no isolate. -/
def deleteAllocator (runtime : V8Runtime) : List Event :=
  match runtime.arrayBufferAllocator with
  | some allocator => [.freed allocator]
  | none => []

/-- The end of the destructor: `Exit` wants the isolate to be the current one. -/
def disposeIsolate (thread : Thread) (runtime : V8Runtime) (isolate : Isolate) :
    Except Failure Thread :=
  if thread.current = some runtime.isolate then
    .ok { thread with
      current := isolate.previous
      isolates := thread.isolates.set runtime.isolate
        { isolate with isolateDataSlot := none, disposed := true }
      events := thread.events ++ .disposed runtime.isolate :: deleteAllocator runtime }
  else .error .exitedNotCurrent

/-- The destructor. `context_.Reset()` already touches the isolate. -/
def destroy (thread : Thread) (index : Nat) (runtime : V8Runtime) : Except Failure Thread :=
  match thread.isolates[runtime.isolate]? with
  | none => .error .nullIsolate
  | some isolate =>
    if isolate.disposed then .error .disposedIsolate
    else
      let counter := thread.tlsIsolateUsageCounter - 1
      let thread := { thread with
        tlsIsolateUsageCounter := counter
        runtimes := thread.runtimes.eraseIdx index }
      if counter = 0 then disposeIsolate thread runtime isolate else .ok thread

def call (thread : Thread) : Action → Option (Except Failure Thread)
  | .construct => some (construct thread)
  | .destroy index => thread.runtimes[index]?.map (destroy thread index)

def threadProgram : Program Thread Action Failure where
  start := {}
  call := call

/-! ## Ownership -/

/-- The allocator of a disposed isolate has been freed once, after the disposal,
and the allocator of any other isolate has not been freed. -/
structure AllocatorsOwned (events : List Event) : Prop where
  kept : ∀ isolate allocator, .created isolate allocator ∈ events →
    .disposed isolate ∉ events → .freed allocator ∉ events
  once : ∀ isolate allocator, .created isolate allocator ∈ events →
    .disposed isolate ∈ events → events.count (.freed allocator) = 1
  later : ∀ isolate allocator, .created isolate allocator ∈ events →
    .disposed isolate ∈ events →
    [Event.disposed isolate, .freed allocator].Sublist events

/-- What a constructor or destructor appends to the events of the thread. -/
def appended (before after : Thread) : List Event :=
  after.events.drop before.events.length

/-- An isolate is created exactly by a constructor that finds no live runtime, and
disposed exactly by the destructor of the last live runtime. -/
structure OwnedStep (before : Thread) (action : Action) (after : Thread) : Prop where
  created : (∃ isolate allocator, .created isolate allocator ∈ appended before after) ↔
    action = .construct ∧ before.runtimes = []
  disposed : ∀ isolate, .disposed isolate ∈ appended before after ↔
    ∃ index runtime, action = .destroy index ∧ before.runtimes[index]? = some runtime ∧
      runtime.isolate = isolate ∧ after.runtimes = []
  allocators : AllocatorsOwned after.events

def IsolateOwned (before : Thread) (action : Action) : Except Failure Thread → Prop
  | .ok after => OwnedStep before action after
  | .error _ => False

/-- No runtime is constructed while the counter has wrapped to zero, and the last
live runtime to be destroyed is the one that created the isolate. -/
def CreatorLast (thread : Thread) : Action → Prop
  | .construct => thread.runtimes.length < 0x10000
  | .destroy index => ∀ runtime, thread.runtimes[index]? = some runtime →
      thread.runtimes.length = 1 → runtime.arrayBufferAllocator ≠ none

/-! ## Closed lives -/

/-- The events of isolates that were created and disposed one after the other,
each with its allocator. -/
def closedLives (isolates : Nat) : List Event :=
  (List.range isolates).flatMap fun isolate =>
    [.created isolate isolate, .disposed isolate, .freed isolate]

theorem closedLives_succ (isolates : Nat) :
    closedLives (isolates + 1) = closedLives isolates ++
      [.created isolates isolates, .disposed isolates, .freed isolates] := by
  simp [closedLives, List.range_succ]

@[simp] theorem created_mem_closedLives (isolates isolate allocator : Nat) :
    Event.created isolate allocator ∈ closedLives isolates ↔
      isolate < isolates ∧ allocator = isolate := by
  simp [closedLives]
  grind

@[simp] theorem disposed_mem_closedLives (isolates isolate : Nat) :
    Event.disposed isolate ∈ closedLives isolates ↔ isolate < isolates := by
  simp [closedLives]

@[simp] theorem freed_mem_closedLives (isolates allocator : Nat) :
    Event.freed allocator ∈ closedLives isolates ↔ allocator < isolates := by
  simp [closedLives]

theorem count_freed_closedLives {isolates allocator : Nat} (below : allocator < isolates) :
    (closedLives isolates).count (.freed allocator) = 1 := by
  induction isolates with
  | zero => omega
  | succ isolates ih =>
    rw [closedLives_succ, List.count_append]
    by_cases last : allocator = isolates
    · have before : Event.freed allocator ∉ closedLives isolates := by simp [last]
      rw [List.count_eq_zero_of_not_mem before]
      simp [last]
    · rw [ih (by omega)]
      simp [Ne.symm last]

theorem freed_after_disposed {isolates isolate : Nat} (below : isolate < isolates) :
    [Event.disposed isolate, .freed isolate].Sublist (closedLives isolates) := by
  induction isolates with
  | zero => omega
  | succ isolates ih =>
    rw [closedLives_succ]
    by_cases last : isolate = isolates
    · subst last
      exact (List.sublist_cons_self _ _).trans (List.sublist_append_right _ _)
    · exact (ih (by omega)).trans (List.sublist_append_left _ _)

theorem closedLives_owned (isolates : Nat) : AllocatorsOwned (closedLives isolates) where
  kept := by
    intro isolate allocator created open_
    simp only [created_mem_closedLives] at created
    exact absurd ((disposed_mem_closedLives _ _).mpr created.1) open_
  once := by
    intro isolate allocator created _
    simp only [created_mem_closedLives] at created
    exact count_freed_closedLives (by omega)
  later := by
    intro isolate allocator created _
    simp only [created_mem_closedLives] at created
    rw [created.2]
    exact freed_after_disposed created.1

theorem openLife_owned (isolates : Nat) :
    AllocatorsOwned (closedLives isolates ++ [.created isolates isolates]) where
  kept := by
    intro isolate allocator created open_
    simp at created open_ ⊢
    omega
  once := by
    intro isolate allocator created disposed
    simp at created disposed
    rw [List.count_append, count_freed_closedLives (by omega)]
    simp
  later := by
    intro isolate allocator created disposed
    simp at created disposed
    obtain rfl : allocator = isolate := by omega
    exact (freed_after_disposed disposed).trans (List.sublist_append_left _ _)

/-! ## The invariant -/

/-- No runtime is live and every isolate has been disposed. -/
structure Idle (thread : Thread) : Prop where
  runtimes : thread.runtimes = []
  current : thread.current = none
  events : thread.events = closedLives thread.isolates.length

/-- All live runtimes share the isolate that was created last. -/
structure Shared (thread : Thread) (isolate : Nat) : Prop where
  live : thread.runtimes ≠ []
  current : thread.current = some isolate
  last : thread.isolates.length = isolate + 1
  undisposed : thread.isolates[isolate]? =
    some { isolateDataSlot := some isolate, previous := none }
  members : ∀ runtime ∈ thread.runtimes, runtime.isolate = isolate ∧
    ∀ allocator, runtime.arrayBufferAllocator = some allocator → allocator = isolate
  events : thread.events = closedLives isolate ++ [.created isolate isolate]

structure Invariant (thread : Thread) : Prop where
  counter : thread.tlsIsolateUsageCounter.toNat = thread.runtimes.length % 0x10000
  bound : thread.runtimes.length ≤ 0x10000
  phase : Idle thread ∨ ∃ isolate, Shared thread isolate

theorem start_invariant : Invariant threadProgram.start :=
  ⟨rfl, by decide, .inl ⟨rfl, rfl, rfl⟩⟩

/-! ## The counter -/

theorem counter_pos {thread : Thread} (inv : Invariant thread) :
    thread.tlsIsolateUsageCounter > 0 ↔ thread.runtimes.length % 0x10000 ≠ 0 := by
  rw [← inv.counter, gt_iff_lt, UInt16.lt_iff_toNat_lt]
  exact Nat.pos_iff_ne_zero

theorem counter_incremented {counter : UInt16} {runtimes : Nat}
    (same : counter.toNat = runtimes % 0x10000) :
    (counter + 1).toNat = (runtimes + 1) % 0x10000 := by
  rw [UInt16.toNat_add, same]
  simp only [UInt16.toNat_one]
  omega

theorem counter_decremented {counter : UInt16} {runtimes : Nat}
    (same : counter.toNat = runtimes % 0x10000) (live : 0 < runtimes) :
    (counter - 1).toNat = (runtimes - 1) % 0x10000 := by
  rw [UInt16.toNat_sub, same]
  simp only [UInt16.toNat_one]
  omega

/-- Below the wrap the destructor of the last runtime, and no other, finds zero. -/
theorem counter_reaches_zero {counter : UInt16} {runtimes : Nat}
    (same : counter.toNat = runtimes % 0x10000) (live : 0 < runtimes)
    (bound : runtimes ≤ 0x10000) : counter - 1 = 0 ↔ runtimes = 1 := by
  have value := counter_decremented same live
  rw [← UInt16.toNat_inj, value, UInt16.toNat_zero]
  omega

/-! ## Construction -/

theorem construct_creates {thread : Thread} (inv : Invariant thread)
    (wrapped : thread.runtimes.length % 0x10000 = 0) :
    construct thread = .ok (createNewIsolate
      { thread with tlsIsolateUsageCounter := thread.tlsIsolateUsageCounter + 1 }) := by
  have zero : ¬ thread.tlsIsolateUsageCounter > 0 := by
    rw [counter_pos inv]
    omega
  simp only [construct, if_neg zero]

theorem construct_shares {thread : Thread} {isolate : Nat} (inv : Invariant thread)
    (shared : Shared thread isolate) (unwrapped : thread.runtimes.length % 0x10000 ≠ 0) :
    construct thread = .ok { thread with
      tlsIsolateUsageCounter := thread.tlsIsolateUsageCounter + 1
      runtimes := thread.runtimes ++ [{ isolate }] } := by
  have positive : thread.tlsIsolateUsageCounter > 0 := (counter_pos inv).mpr unwrapped
  simp only [construct, if_pos positive, shared.current]

/-- The first runtime of a thread creates the isolate. -/
theorem construct_idle {thread : Thread} (inv : Invariant thread) (idle : Idle thread) :
    ∃ after, construct thread = .ok after ∧ OwnedStep thread .construct after ∧
      Invariant after := by
  have none : thread.runtimes.length = 0 := by simp [idle.runtimes]
  refine ⟨_, construct_creates inv (by omega), ⟨?_, ?_, ?_⟩, ?_, ?_, .inr ?_⟩
  · simp [appended, createNewIsolate, idle.runtimes]
  · simp [appended, createNewIsolate]
  · simp only [createNewIsolate, idle.events]
    exact openLife_owned _
  · simpa [createNewIsolate] using counter_incremented inv.counter
  · simp [createNewIsolate, idle.runtimes]
  · refine ⟨thread.isolates.length, ?_, rfl, ?_, ?_, ?_, ?_⟩
    · simp [createNewIsolate]
    · simp [createNewIsolate]
    · simp [createNewIsolate, idle.current]
    · simp [createNewIsolate, idle.runtimes]
    · simp [createNewIsolate, idle.events]

/-- Later ones reuse it. -/
theorem construct_shared {thread : Thread} {isolate : Nat} (inv : Invariant thread)
    (shared : Shared thread isolate) (room : thread.runtimes.length < 0x10000) :
    ∃ after, construct thread = .ok after ∧ OwnedStep thread .construct after ∧
      Invariant after := by
  have live := List.length_pos_of_ne_nil shared.live
  refine ⟨_, construct_shares inv shared (by omega), ⟨?_, ?_, ?_⟩, ?_, ?_, .inr ⟨isolate, ?_⟩⟩
  · simp [appended, shared.live]
  · simp [appended]
  · simp only [shared.events]
    exact openLife_owned _
  · simpa using counter_incremented inv.counter
  · simp only [List.length_append, List.length_singleton]
    omega
  · refine ⟨by simp, shared.current, shared.last, shared.undisposed, ?_, shared.events⟩
    intro runtime member
    rcases List.mem_append.mp member with old | new
    · exact shared.members runtime old
    · obtain rfl := List.mem_singleton.mp new
      simp

/-- After 65536 constructions the counter is zero again and a second isolate appears. -/
theorem construct_wrapped {thread : Thread} {isolate : Nat} {outcome : Except Failure Thread}
    (inv : Invariant thread) (shared : Shared thread isolate)
    (full : ¬ thread.runtimes.length < 0x10000) (called : construct thread = outcome) :
    ¬ IsolateOwned thread .construct outcome := by
  have bound := inv.bound
  rw [construct_creates inv (by omega)] at called
  subst called
  intro owned
  have created := owned.created.mp ⟨thread.isolates.length, thread.isolates.length,
    by simp [appended, createNewIsolate]⟩
  exact shared.live created.2

/-! ## Destruction -/

theorem destroy_last {thread : Thread} {index isolate : Nat} {runtime : V8Runtime}
    (inv : Invariant thread) (shared : Shared thread isolate)
    (found : thread.runtimes[index]? = some runtime) (single : thread.runtimes.length = 1) :
    destroy thread index runtime = .ok {
      tlsIsolateUsageCounter := 0
      current := none
      isolates := thread.isolates.set isolate
        { isolateDataSlot := none, previous := none, disposed := true }
      runtimes := []
      events := thread.events ++ .disposed isolate :: deleteAllocator runtime } := by
  have same := (shared.members runtime (List.mem_of_getElem? found)).1
  have zero := (counter_reaches_zero inv.counter (by omega) inv.bound).mpr single
  have within := (List.getElem?_eq_some_iff.mp found).1
  have emptied : thread.runtimes.eraseIdx index = [] := by
    apply List.eq_nil_of_length_eq_zero
    rw [List.length_eraseIdx_of_lt within]
    omega
  simp [destroy, disposeIsolate, same, shared.undisposed, shared.current, zero, emptied]

theorem destroy_other {thread : Thread} {index isolate : Nat} {runtime : V8Runtime}
    (inv : Invariant thread) (shared : Shared thread isolate)
    (found : thread.runtimes[index]? = some runtime) (more : thread.runtimes.length ≠ 1) :
    destroy thread index runtime = .ok { thread with
      tlsIsolateUsageCounter := thread.tlsIsolateUsageCounter - 1
      runtimes := thread.runtimes.eraseIdx index } := by
  have same := (shared.members runtime (List.mem_of_getElem? found)).1
  have live := List.length_pos_of_ne_nil shared.live
  have positive : thread.tlsIsolateUsageCounter - 1 ≠ 0 :=
    fun zero => more ((counter_reaches_zero inv.counter live inv.bound).mp zero)
  simp [destroy, same, shared.undisposed, positive]

/-- The creator of the isolate is the last to go. -/
theorem destroy_creator {thread : Thread} {index isolate : Nat} {runtime : V8Runtime}
    (inv : Invariant thread) (shared : Shared thread isolate)
    (found : thread.runtimes[index]? = some runtime) (single : thread.runtimes.length = 1)
    (creator : runtime.arrayBufferAllocator ≠ none) :
    ∃ after, destroy thread index runtime = .ok after ∧
      OwnedStep thread (.destroy index) after ∧ Invariant after := by
  obtain ⟨same, own⟩ := shared.members runtime (List.mem_of_getElem? found)
  obtain ⟨allocator, kept⟩ := Option.ne_none_iff_exists'.mp creator
  obtain rfl := own allocator kept
  have events : thread.events ++ .disposed allocator :: deleteAllocator runtime =
      closedLives (allocator + 1) := by
    simp [shared.events, deleteAllocator, kept, closedLives_succ]
  refine ⟨_, destroy_last inv shared found single, ⟨?_, ?_, ?_⟩, rfl, by simp, .inl ⟨rfl, rfl, ?_⟩⟩
  · simp [appended, deleteAllocator, kept]
  · intro other
    simp only [appended, List.drop_left, deleteAllocator, kept, List.mem_cons, reduceCtorEq,
      List.not_mem_nil, or_false, Event.disposed.injEq, and_true]
    constructor
    · rintro rfl
      exact ⟨index, runtime, rfl, found, same⟩
    · rintro ⟨_, _, ⟨⟩, found', same'⟩
      obtain rfl := Option.some.inj (found.symm.trans found')
      exact same'.symm.trans same
  · simp only [events]
    exact closedLives_owned _
  · simp only [events, List.length_set, shared.last]

/-- Another runtime that goes last disposes the isolate and deletes a null pointer. -/
theorem destroy_borrower {thread : Thread} {index isolate : Nat} {runtime : V8Runtime}
    {outcome : Except Failure Thread}
    (inv : Invariant thread) (shared : Shared thread isolate)
    (found : thread.runtimes[index]? = some runtime) (single : thread.runtimes.length = 1)
    (borrower : runtime.arrayBufferAllocator = none)
    (called : destroy thread index runtime = outcome) :
    ¬ IsolateOwned thread (.destroy index) outcome := by
  rw [destroy_last inv shared found single] at called
  subst called
  intro owned
  have events : thread.events ++ .disposed isolate :: deleteAllocator runtime =
      closedLives isolate ++ [.created isolate isolate, .disposed isolate] := by
    simp [shared.events, deleteAllocator, borrower]
  have once := owned.allocators.once isolate isolate
  simp only [events] at once
  have leaked := once (by simp) (by simp)
  rw [List.count_append, List.count_eq_zero_of_not_mem (by simp)] at leaked
  simp at leaked

theorem destroy_shared {thread : Thread} {index isolate : Nat} {runtime : V8Runtime}
    (inv : Invariant thread) (shared : Shared thread isolate)
    (found : thread.runtimes[index]? = some runtime) (more : thread.runtimes.length ≠ 1) :
    ∃ after, destroy thread index runtime = .ok after ∧
      OwnedStep thread (.destroy index) after ∧ Invariant after := by
  have live := List.length_pos_of_ne_nil shared.live
  have within := (List.getElem?_eq_some_iff.mp found).1
  have left : (thread.runtimes.eraseIdx index).length = thread.runtimes.length - 1 :=
    List.length_eraseIdx_of_lt within
  have others : thread.runtimes.eraseIdx index ≠ [] := by
    intro emptied
    rw [emptied] at left
    simp at left
    omega
  refine ⟨_, destroy_other inv shared found more, ⟨?_, ?_, ?_⟩, ?_, ?_, .inr ⟨isolate, ?_⟩⟩
  · simp [appended]
  · simp [appended, others]
  · simp only [shared.events]
    exact openLife_owned _
  · simp only [left]
    exact counter_decremented inv.counter live
  · have bound := inv.bound
    simp only [left]
    omega
  · refine ⟨others, shared.current, shared.last, shared.undisposed, ?_, shared.events⟩
    intro other member
    exact shared.members other (List.mem_of_mem_eraseIdx member)

/-! ## Runs -/

theorem call_owned (thread : Thread) (action : Action) (outcome : Except Failure Thread)
    (inv : Invariant thread) (admitted : CreatorLast thread action)
    (called : call thread action = some outcome) :
    IsolateOwned thread action outcome ∧ ∀ next, outcome = .ok next → Invariant next := by
  suffices good : ∃ after, outcome = .ok after ∧ OwnedStep thread action after ∧ Invariant after by
    obtain ⟨after, rfl, owned, held⟩ := good
    refine ⟨owned, ?_⟩
    rintro next ⟨⟩
    exact held
  cases action with
  | construct =>
    obtain rfl := Option.some.inj called
    rcases inv.phase with idle | ⟨isolate, shared⟩
    · exact construct_idle inv idle
    · exact construct_shared inv shared admitted
  | destroy index =>
    obtain ⟨runtime, found, rfl⟩ := Option.map_eq_some_iff.mp called
    rcases inv.phase with idle | ⟨isolate, shared⟩
    · simp [idle.runtimes] at found
    · by_cases single : thread.runtimes.length = 1
      · exact destroy_creator inv shared found single (admitted runtime found single)
      · exact destroy_shared inv shared found single

theorem call_not_owned (thread : Thread) (action : Action) (outcome : Except Failure Thread)
    (inv : Invariant thread) (refused : ¬ CreatorLast thread action)
    (called : call thread action = some outcome) : ¬ IsolateOwned thread action outcome := by
  cases action with
  | construct =>
    rcases inv.phase with idle | ⟨isolate, shared⟩
    · exact absurd (by simp [CreatorLast, idle.runtimes]) refused
    · exact construct_wrapped inv shared refused (Option.some.inj called)
  | destroy index =>
    obtain ⟨runtime, found, outcomeIs⟩ := Option.map_eq_some_iff.mp called
    rcases inv.phase with idle | ⟨isolate, shared⟩
    · simp [idle.runtimes] at found
    · simp only [CreatorLast, not_forall, not_not] at refused
      obtain ⟨other, found', single, borrower⟩ := refused
      obtain rfl := Option.some.inj (found.symm.trans found')
      exact destroy_borrower inv shared found single borrower outcomeIs

/-- Along every run of constructions and destructions the isolate and its
allocator are owned as long as, and only as long as, the counter does not wrap and
the creator of each isolate is destroyed last. -/
theorem isolate_owned_iff (trace : List Action) (outcome : Except Failure Thread)
    (ran : threadProgram.run trace = some outcome) :
    threadProgram.Along IsolateOwned threadProgram.start trace ↔
      threadProgram.Meets CreatorLast threadProgram.start trace :=
  Program.along_iff_meets Invariant call_owned call_not_owned trace threadProgram.start outcome
    start_invariant ran

/-- Two runtimes, the second destroyed first. -/
theorem isolate_owned_creator_last :
    threadProgram.Along IsolateOwned threadProgram.start
      [.construct, .construct, .destroy 1, .destroy 0] := by
  apply (isolate_owned_iff [.construct, .construct, .destroy 1, .destroy 0] _ rfl).mpr
  simp [Program.Meets, threadProgram, call, construct, createNewIsolate, destroy, CreatorLast]

/-- Two runtimes, the first destroyed first: the isolate is disposed and its
allocator is never freed. -/
theorem allocator_leaks_with_borrower_last :
    (threadProgram.run [.construct, .construct, .destroy 0, .destroy 0]).isSome ∧
      ¬ threadProgram.Along IsolateOwned threadProgram.start
        [.construct, .construct, .destroy 0, .destroy 0] := by
  refine ⟨rfl, fun along => ?_⟩
  have owned : OwnedStep _ _ _ :=
    along [.construct, .construct, .destroy 0] (.destroy 0) [] _ (.ok _) rfl rfl rfl
  have once := owned.allocators.once 0 0 (by decide) (by decide)
  revert once
  decide

end V8Jsi.IsolateOwnership
