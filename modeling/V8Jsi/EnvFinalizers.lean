import Mathlib.Algebra.BigOperators.Intervals
import V8Jsi.Lib.Heap
import V8Jsi.Lib.Outcome

set_option autoImplicit false

/- The finalizers of one env in v8_api.cpp, js_native_api_v8.h and
js_native_api_v8.cc: the queue `pending_finalizers`, the two lists of tracked
items, and `NodeApiEnv::DeleteMe`, which empties them while the callbacks change
them. A list of trackers stands for the chain of their links, its head first. -/
namespace V8Jsi.EnvFinalizers

open Heaps Heap Outcome

/-- The classes behind `RefTracker`. A `ReferenceWithData` finalizes as a
`Reference` does. A `TrackedStringResource` is deleted by V8 with its string, which it
does not collect while the env is deleted. -/
inductive Kind
  | trackedFinalizer
  | reference
  | referenceWithFinalizer
  | trackedStringResource
  deriving DecidableEq, Repr

namespace Kind

def isReference : Kind → Bool
  | reference | referenceWithFinalizer => true
  | trackedFinalizer | trackedStringResource => false

/-- The classes whose objects are queued. -/
def dequeues : Kind → Bool
  | trackedFinalizer | referenceWithFinalizer => true
  | reference | trackedStringResource => false

end Kind

/-- `callback` is whether `finalize_callback_` is set, `userland` whether user
code owns the reference and may delete it, and `reset` whether `env_` is null. -/
structure Tracker where
  kind : Kind
  userland : Bool := false
  callback : Bool := false
  reset : Bool := false
  deriving DecidableEq, Repr

namespace Tracker

/-- Whether `New` links the tracker into `finalizing_reflist`. -/
def finalizing (tracker : Tracker) : Bool :=
  match tracker.kind with
  | .trackedFinalizer | .referenceWithFinalizer => true
  | .reference => false
  | .trackedStringResource => tracker.callback

/-- Whether `Finalize` invokes a callback. -/
def invokes (tracker : Tracker) : Bool :=
  tracker.kind ≠ .trackedStringResource && tracker.callback

end Tracker

/-- What a callback does to the env: it deletes a reference, posts a finalizer or
makes a reference or an external string, with a finalizer or without. -/
inductive Op
  | deleteReference (address : Nat)
  | postFinalizer (callback : Bool)
  | newReference (finalizer userland : Bool)
  | newStringResource (callback : Bool)
  deriving DecidableEq, Repr

/-- The env. `registered`, `calls` and `userDeleted` record the trackers that got
a callback, those whose callback has been invoked, in order, and those that user
code deleted before that; `turns` counts the turns of the drain loop. -/
structure Env where
  trackers : Heap Tracker := {}
  finalizingReflist : List Nat := []
  reflist : List Nat := []
  pendingFinalizers : List Nat := []
  isFinalizationScheduled : Bool := false
  isDestructing : Bool := false
  deleted : Bool := false
  turns : Nat := 0
  registered : List Nat := []
  calls : List Nat := []
  userDeleted : List Nat := []
  deriving DecidableEq, Repr

inductive Failure
  | memory (fault : Fault)
  | outOfFuel
  | staleEnv
  deriving DecidableEq, Repr

namespace Env

def read (env : Env) (address : Nat) : Except Failure Tracker :=
  (env.trackers.read address).mapError .memory

/-- `New` of the classes: the tracker is linked at the head of its list. -/
def newTracker (env : Env) (tracker : Tracker) : Env :=
  { env with
    trackers := env.trackers.alloc tracker
    finalizingReflist :=
      if tracker.finalizing then env.trackers.next :: env.finalizingReflist
      else env.finalizingReflist
    reflist := if tracker.finalizing then env.reflist else env.trackers.next :: env.reflist
    registered :=
      if tracker.callback then env.registered ++ [env.trackers.next] else env.registered }

def unlink (env : Env) (address : Nat) : Env :=
  { env with
    finalizingReflist := env.finalizingReflist.erase address
    reflist := env.reflist.erase address }

/-- The task that is scheduled outside of the destruction holds a reference on the
env, so it does not run during `DeleteMe`. -/
def enqueueFinalizer (env : Env) (address : Nat) : Env :=
  { env with
    pendingFinalizers :=
      if address ∈ env.pendingFinalizers then env.pendingFinalizers
      else address :: env.pendingFinalizers
    isFinalizationScheduled := env.isFinalizationScheduled || !env.isDestructing }

def dequeueFinalizer (env : Env) (address : Nat) : Env :=
  { env with pendingFinalizers := env.pendingFinalizers.erase address }

/-- The destructors of trackers that Node-API deletes: a tracker is unlinked, and one with
a finalizer is taken out of the queue. -/
def destroy (env : Env) (address : Nat) : Except Failure Env := do
  let tracker ← env.read address
  let env := env.unlink address
  let env := if tracker.kind.dequeues then env.dequeueFinalizer address else env
  let trackers ← (env.trackers.delete address).mapError .memory
  return { env with trackers }

/-- User code has a handle on a reference only if it owns it and has not deleted
it; other addresses are no references of its own. -/
def napiDeleteReference (env : Env) (address : Nat) : Except Failure Env :=
  match env.trackers.get? address with
  | none => .ok env
  | some tracker =>
      if tracker.kind.isReference ∧ tracker.userland then
        destroy { env with
          userDeleted :=
            if tracker.callback then env.userDeleted ++ [address] else env.userDeleted } address
      else .ok env

/-- The callback may be null. -/
def nodeApiPostFinalizer (env : Env) (callback : Bool) : Env :=
  (env.newTracker { kind := .trackedFinalizer, callback }).enqueueFinalizer env.trackers.next

def runOp (env : Env) : Op → Except Failure Env
  | .deleteReference address => env.napiDeleteReference address
  | .postFinalizer callback => .ok (env.nodeApiPostFinalizer callback)
  | .newReference finalizer userland =>
      .ok (env.newTracker
        { kind := if finalizer then .referenceWithFinalizer else .reference
          userland, callback := finalizer })
  | .newStringResource callback =>
      .ok (env.newTracker { kind := .trackedStringResource, callback })

def runOps (env : Env) : List Op → Except Failure Env
  | [] => .ok env
  | op :: ops => do (← env.runOp op).runOps ops

def resetEnv (env : Env) (address : Nat) : Except Failure Env := do
  let tracker ← env.read address
  let trackers ← (env.trackers.write address { tracker with reset := true }).mapError .memory
  return { env with trackers }

/-- The destructor of a `TrackedStringResource`, once the env is deleted. The callback is
invoked directly as long as no env is left to invoke it. -/
def deleteStringResource (env : Env) (address : Nat) : Except Failure Env := do
  let tracker ← env.read address
  if tracker.callback ∧ !tracker.reset then throw .staleEnv
  else
    let trackers ← (env.trackers.delete address).mapError .memory
    return { env with
      trackers
      calls := if tracker.callback then env.calls ++ [address] else env.calls }

end Env

section

/- `behaviour n` is what the callback does that is invoked as the `n`-th, and
`begin n` chooses the first element of the unordered queue in the `n`-th turn. -/
variable (behaviour : Nat → List Op) (begin : Nat → Nat)

namespace Env

/-- `Finalizer::CallFinalizer`: the callback is cleared before it is invoked. -/
def callFinalizer (env : Env) (address : Nat) : Except Failure Env := do
  let tracker ← env.read address
  let trackers ←
    (env.trackers.write address { tracker with callback := false }).mapError .memory
  if tracker.callback then
    runOps { env with trackers, calls := env.calls ++ [address] } (behaviour env.calls.length)
  else return { env with trackers }

/-- The `Finalize` methods. Whether a reference deletes itself is decided before
the callback, which may have deleted it. -/
def finalize (env : Env) (address : Nat) : Except Failure Env := do
  let tracker ← env.read address
  let env := env.unlink address
  if tracker.kind = .trackedStringResource then env.resetEnv address
  else
    let env ← if tracker.kind = .reference then pure env else env.callFinalizer behaviour address
    if tracker.kind.isReference ∧ tracker.userland then return env
    else env.destroy address

def drainFinalizerQueue : Nat → Env → Except Failure Env
  | 0, _ => .error .outOfFuel
  | fuel + 1, env =>
      match env.pendingFinalizers[begin env.turns % env.pendingFinalizers.length]? with
      | none => .ok env
      | some refTracker => do
          let env := { env.dequeueFinalizer refTracker with turns := env.turns + 1 }
          drainFinalizerQueue fuel (← env.finalize behaviour refTracker)

/-- `RefTracker::FinalizeAll` over one of the lists. -/
def finalizeAll (list : Env → List Nat) : Nat → Env → Except Failure Env
  | 0, _ => .error .outOfFuel
  | fuel + 1, env =>
      match (list env).head? with
      | none => .ok env
      | some refTracker => do finalizeAll list fuel (← env.finalize behaviour refTracker)

/-- `DeleteMe`. `others` is what the callbacks of the module envs do to this env
that `removeModuleEnv` releases with the root env. -/
def deleteMe (others : List Op) (fuel : Nat) (env : Env) : Except Failure Env := do
  let env ← { env with isDestructing := true }.runOps others
  let env ← env.drainFinalizerQueue behaviour begin fuel
  let env ← env.finalizeAll behaviour Env.finalizingReflist fuel
  let env ← env.finalizeAll behaviour Env.reflist fuel
  return { env with deleted := true }

end Env

end

/-! ## Sets of tracked items -/

/-- A tracked item as it is before the deletion; `queued` ones are in
`pending_finalizers`. -/
inductive Item
  | trackedFinalizer (callback queued : Bool)
  | reference (userland : Bool)
  | referenceWithFinalizer (userland callback queued : Bool)
  | trackedStringResource (callback : Bool)
  deriving DecidableEq, Repr

namespace Item

def tracker : Item → Tracker
  | trackedFinalizer callback _ => { kind := .trackedFinalizer, callback }
  | reference userland => { kind := .reference, userland }
  | referenceWithFinalizer userland callback _ =>
      { kind := .referenceWithFinalizer, userland, callback }
  | trackedStringResource callback => { kind := .trackedStringResource, callback }

def queued : Item → Bool
  | trackedFinalizer _ queued => queued
  | referenceWithFinalizer _ _ queued => queued
  | reference _ | trackedStringResource _ => false

end Item

/-- The addresses of the items that a test accepts. -/
def selected (items : List Item) (test : Item → Bool) : List Nat :=
  (List.range items.length).filter fun address => items[address]?.any test

/-- The env that tracks these items. -/
def Env.tracking (items : List Item) : Env :=
  { trackers := ⟨items.map fun item => some item.tracker⟩
    finalizingReflist := selected items fun item => item.tracker.finalizing
    reflist := selected items fun item => !item.tracker.finalizing
    pendingFinalizers := selected items Item.queued
    registered := selected items fun item => item.tracker.callback }

/-- Every callback that was registered has been invoked once, or not at all if
user code deleted its reference before. -/
def AllInvoked (env : Env) : Prop :=
  ∀ address ∈ env.registered, env.calls.count address = if address ∈ env.userDeleted then 0 else 1

/-- The callback of an external string waits for the destructor, with no env to run in. -/
def Env.LeftToString (env : Env) (address : Nat) : Prop :=
  env.calls.count address = 0 ∧ ∃ tracker, env.trackers.get? address = some tracker ∧
    tracker.kind = .trackedStringResource ∧ tracker.callback = true ∧ tracker.reset = true

/-- Every callback that was registered has been invoked once, or not at all if
user code deleted its reference before, or it belongs to an external string. -/
def ExactlyOnce (env : Env) : Prop :=
  ∀ address ∈ env.registered, env.LeftToString address ∨
    (∀ tracker, env.trackers.get? address = some tracker →
      tracker.kind ≠ .trackedStringResource) ∧
      env.calls.count address = if address ∈ env.userDeleted then 0 else 1

/-- How many trackers a callback makes. -/
def creates (ops : List Op) : Nat :=
  ops.countP fun op => match op with
    | .deleteReference _ => false
    | _ => true

/-! ## The invariant -/

/-- A tracker whose callback is set is linked and has not been counted, an external string
as long as its env is not reset; any other registered one has been invoked once or deleted
by user code. -/
structure Sound (env : Env) : Prop where
  linked : ∀ address ∈ env.finalizingReflist ++ env.reflist,
    ∃ tracker, env.trackers.get? address = some tracker
  once : (env.finalizingReflist ++ env.reflist).Nodup
  queued : ∀ address ∈ env.pendingFinalizers,
    ∃ tracker, env.trackers.get? address = some tracker ∧ tracker.kind.dequeues = true
  queuedOnce : env.pendingFinalizers.Nodup
  plain : ∀ address tracker, env.trackers.get? address = some tracker →
    tracker.kind = .reference → tracker.callback = false
  waiting : ∀ address tracker, env.trackers.get? address = some tracker →
    tracker.callback = true → address ∈ env.registered ∧
      address ∉ env.calls ∧ address ∉ env.userDeleted ∧
      (address ∈ env.finalizingReflist ∨
        tracker.kind = .trackedStringResource ∧ tracker.reset = true)
  known : ∀ address ∈ env.registered, address < env.trackers.next
  logged : ∀ address, address ∈ env.calls ∨ address ∈ env.userDeleted → address ∈ env.registered
  settled : ∀ address ∈ env.registered,
    (∃ tracker, env.trackers.get? address = some tracker ∧ tracker.callback = true) ∨
      (∀ tracker, env.trackers.get? address = some tracker →
        tracker.kind ≠ .trackedStringResource) ∧
        env.calls.count address = if address ∈ env.userDeleted then 0 else 1

theorem finalizing_of_callback {tracker : Tracker} (set : tracker.callback = true)
    (plain : tracker.kind = .reference → tracker.callback = false) :
    tracker.finalizing = true := by
  cases kind : tracker.kind with
  | reference =>
    rw [plain kind] at set
    cases set
  | trackedFinalizer | referenceWithFinalizer | trackedStringResource =>
    simp [Tracker.finalizing, kind, set]

theorem newTracker_perm (env : Env) (tracker : Tracker) :
    ((env.newTracker tracker).finalizingReflist ++ (env.newTracker tracker).reflist).Perm
      (env.trackers.next :: (env.finalizingReflist ++ env.reflist)) := by
  cases kind : tracker.finalizing with
  | false =>
    simp only [Env.newTracker, kind, Bool.false_eq_true, ↓reduceIte]
    exact List.perm_middle
  | true =>
    simp only [Env.newTracker, kind, ↓reduceIte]
    exact List.Perm.refl _

theorem mem_newTracker_registered (env : Env) (tracker : Tracker) (address : Nat) :
    address ∈ (env.newTracker tracker).registered ↔
      address ∈ env.registered ∨ address = env.trackers.next ∧ tracker.callback = true := by
  cases set : tracker.callback with
  | false => simp [Env.newTracker, set]
  | true => simp [Env.newTracker, set]

theorem unlink_sublist (env : Env) (address : Nat) :
    ((env.unlink address).finalizingReflist ++ (env.unlink address).reflist).Sublist
      (env.finalizingReflist ++ env.reflist) :=
  List.erase_sublist.append List.erase_sublist

theorem not_mem_unlink {env : Env} {address : Nat}
    (once : (env.finalizingReflist ++ env.reflist).Nodup) :
    address ∉ (env.unlink address).finalizingReflist ++ (env.unlink address).reflist := by
  obtain ⟨first, second, -⟩ := List.nodup_append.mp once
  intro member
  rcases List.mem_append.mp member with member | member
  · exact first.not_mem_erase member
  · exact second.not_mem_erase member

namespace Sound

variable {env : Env} {address : Nat} {tracker : Tracker}

theorem fresh (sound : Sound env) :
    env.trackers.next ∉ env.registered ∧ env.trackers.next ∉ env.calls ∧
      env.trackers.next ∉ env.userDeleted := by
  have unknown : env.trackers.next ∉ env.registered := by
    intro known
    exact absurd (sound.known _ known) (Nat.lt_irrefl _)
  exact ⟨unknown, fun called => unknown (sound.logged _ (.inl called)),
    fun deleted => unknown (sound.logged _ (.inr deleted))⟩

theorem unlinked_next (sound : Sound env) :
    env.trackers.next ∉ env.finalizingReflist ++ env.reflist := by
  intro member
  obtain ⟨tracker, lives⟩ := sound.linked _ member
  exact absurd (address_lt lives) (Nat.lt_irrefl _)

/-- A new tracker is linked; a plain reference has no callback. -/
theorem newTracker (sound : Sound env) (tracker : Tracker)
    (plain : tracker.kind = .reference → tracker.callback = false) :
    Sound (env.newTracker tracker) := by
  obtain ⟨unknown, uncalled, undeleted⟩ := sound.fresh
  have lists := newTracker_perm env tracker
  refine ⟨?_, ?_, ?_, sound.queuedOnce, ?_, ?_, ?_, ?_, ?_⟩
  · intro address member
    rcases List.mem_cons.mp (lists.mem_iff.mp member) with rfl | member
    · exact ⟨tracker, get?_alloc_self⟩
    · obtain ⟨found, lives⟩ := sound.linked address member
      exact ⟨found, get?_alloc_of_some lives⟩
  · exact lists.nodup_iff.mpr (List.nodup_cons.mpr ⟨sound.unlinked_next, sound.once⟩)
  · intro address member
    obtain ⟨found, lives, kind⟩ := sound.queued address member
    exact ⟨found, get?_alloc_of_some lives, kind⟩
  · intro address found lives reference
    rcases get?_alloc_some lives with ⟨rfl, rfl⟩ | lives
    · exact plain reference
    · exact sound.plain address found lives reference
  · intro address found lives set
    rcases get?_alloc_some lives with ⟨rfl, rfl⟩ | lives
    · refine ⟨(mem_newTracker_registered ..).mpr (.inr ⟨rfl, set⟩), uncalled, undeleted, .inl ?_⟩
      simp only [Env.newTracker, finalizing_of_callback set plain, ↓reduceIte]
      exact List.mem_cons_self
    · obtain ⟨known, uncalled', undeleted', waits⟩ := sound.waiting address found lives set
      refine ⟨(mem_newTracker_registered ..).mpr (.inl known), uncalled', undeleted', ?_⟩
      refine waits.imp_left fun member => ?_
      unfold Env.newTracker
      split
      · exact List.mem_cons_of_mem _ member
      · exact member
  · intro address known
    have more : (env.newTracker tracker).trackers.next = env.trackers.next + 1 := next_alloc
    rw [more]
    rcases (mem_newTracker_registered ..).mp known with known | ⟨rfl, -⟩
    · exact Nat.lt_succ_of_lt (sound.known address known)
    · exact Nat.lt_succ_self _
  · intro address member
    exact (mem_newTracker_registered ..).mpr (.inl (sound.logged address member))
  · intro address known
    rcases (mem_newTracker_registered ..).mp known with before | ⟨rfl, set⟩
    · refine (sound.settled address before).imp ?_ ?_
      · rintro ⟨found, lives, set⟩
        exact ⟨found, get?_alloc_of_some lives, set⟩
      · rintro ⟨plain', counted⟩
        refine ⟨fun found lives => ?_, counted⟩
        rcases get?_alloc_some lives with ⟨rfl, rfl⟩ | lives
        · exact absurd before unknown
        · exact plain' found lives
    · exact .inl ⟨tracker, get?_alloc_self, set⟩

/-- A tracker with a finalizer may be queued at any time. -/
theorem enqueueFinalizer (sound : Sound env) (lives : env.trackers.get? address = some tracker)
    (kind : tracker.kind.dequeues = true) : Sound (env.enqueueFinalizer address) := by
  refine { sound with queued := ?_, queuedOnce := ?_ }
  · intro other member
    unfold Env.enqueueFinalizer at member
    split at member
    · exact sound.queued other member
    · rcases List.mem_cons.mp member with rfl | member
      · exact ⟨tracker, lives, kind⟩
      · exact sound.queued other member
  · unfold Env.enqueueFinalizer
    split
    · exact sound.queuedOnce
    · rename_i absent
      exact List.nodup_cons.mpr ⟨absent, sound.queuedOnce⟩

theorem dequeueFinalizer (sound : Sound env) (address : Nat) :
    Sound (env.dequeueFinalizer address) := by
  refine { sound with queued := ?_, queuedOnce := sound.queuedOnce.erase address }
  intro other member
  exact sound.queued other (List.mem_of_mem_erase member)

/-- A tracker without a callback may be unlinked. -/
theorem unlink (sound : Sound env)
    (cleared : ∀ tracker, env.trackers.get? address = some tracker → tracker.callback = false) :
    Sound (env.unlink address) := by
  have lists := unlink_sublist env address
  refine { sound with linked := ?_, once := sound.once.sublist lists, waiting := ?_ }
  · intro other member
    exact sound.linked other (lists.subset member)
  · intro other tracker lives set
    obtain ⟨known, uncalled, undeleted, waits⟩ := sound.waiting other tracker lives set
    refine ⟨known, uncalled, undeleted, waits.imp_left (List.mem_erase_of_ne ?_).mpr⟩
    rintro rfl
    rw [cleared tracker lives] at set
    cases set

end Sound

/-! ## One callback -/

theorem destroy_eq {env : Env} {address : Nat} {tracker : Tracker}
    (lives : env.trackers.get? address = some tracker) :
    env.destroy address =
      .ok { env.unlink address with
        pendingFinalizers :=
          if tracker.kind.dequeues then env.pendingFinalizers.erase address
          else env.pendingFinalizers
        trackers := env.trackers.set address none } := by
  cases kind : tracker.kind.dequeues with
  | false =>
    simp only [Env.destroy, Env.read, read_of_get? lives, mapError_ok, ok_bind, kind,
      Bool.false_eq_true, ↓reduceIte, Env.unlink, delete_of_get? lives, pure_ok]
  | true =>
    simp only [Env.destroy, Env.read, read_of_get? lives, mapError_ok, ok_bind, kind, ↓reduceIte,
      Env.unlink, Env.dequeueFinalizer, delete_of_get? lives, pure_ok]

/-- One tracker loses its callback, which is put down if it was set; the others stay
as they are. -/
theorem Sound.settle {env after : Env} {address : Nat} {tracker : Tracker} (sound : Sound env)
    (lives : env.trackers.get? address = some tracker)
    (ours : tracker.kind ≠ .trackedStringResource)
    (next : after.trackers.next = env.trackers.next)
    (registered : after.registered = env.registered)
    (lists : (after.finalizingReflist ++ after.reflist).Sublist
      (env.finalizingReflist ++ env.reflist))
    (pending : after.pendingFinalizers.Sublist env.pendingFinalizers)
    (reached : address ∈ after.finalizingReflist ++ after.reflist ∨
      address ∈ after.pendingFinalizers →
      ∃ found, after.trackers.get? address = some found ∧ found.kind = tracker.kind)
    (linked : ∀ other, other ≠ address → other ∈ env.finalizingReflist →
      other ∈ after.finalizingReflist)
    (others : ∀ other, other ≠ address →
      after.trackers.get? other = env.trackers.get? other ∧
        after.calls.count other = env.calls.count other ∧
        (other ∈ after.userDeleted ↔ other ∈ env.userDeleted))
    (cleared : ∀ found, after.trackers.get? address = some found →
      found.kind = tracker.kind ∧ found.callback = false)
    (counted : tracker.callback = true →
      after.calls.count address = if address ∈ after.userDeleted then 0 else 1)
    (kept : tracker.callback = false →
      after.calls = env.calls ∧ after.userDeleted = env.userDeleted) : Sound after := by
  have called : ∀ other, other ≠ address → (other ∈ after.calls ↔ other ∈ env.calls) := by
    intro other apart
    rw [← List.count_pos_iff, ← List.count_pos_iff, (others other apart).2.1]
  have isolated : ∀ {other found}, after.trackers.get? other = some found →
      found.callback = true → other ≠ address := by
    rintro other found lives' set rfl
    rw [(cleared found lives').2] at set
    cases set
  refine ⟨?_, sound.once.sublist lists, ?_, sound.queuedOnce.sublist pending, ?_, ?_, ?_, ?_, ?_⟩
  · intro other member
    by_cases same : other = address
    · subst same
      obtain ⟨found, lives', -⟩ := reached (.inl member)
      exact ⟨found, lives'⟩
    · rw [(others other same).1]
      exact sound.linked other (lists.subset member)
  · intro other member
    obtain ⟨found, lives', kind⟩ := sound.queued other (pending.subset member)
    by_cases same : other = address
    · subst same
      obtain rfl := Option.some.inj (lives.symm.trans lives')
      obtain ⟨now, lives'', same⟩ := reached (.inr member)
      exact ⟨now, lives'', same ▸ kind⟩
    · exact ⟨found, (others other same).1.trans lives', kind⟩
  · intro other found lives' reference
    by_cases same : other = address
    · subst same
      exact (cleared found lives').2
    · exact sound.plain other found ((others other same).1.symm.trans lives') reference
  · intro other found lives' set
    have apart := isolated lives' set
    obtain ⟨trackers, -, deleted⟩ := others other apart
    obtain ⟨known, uncalled, undeleted, waits⟩ :=
      sound.waiting other found (trackers.symm.trans lives') set
    exact ⟨registered ▸ known, mt (called other apart).mp uncalled, mt deleted.mp undeleted,
      waits.imp_left (linked other apart)⟩
  · intro other known
    rw [next]
    exact sound.known other (registered ▸ known)
  · intro other recorded
    rw [registered]
    by_cases same : other = address
    · subst same
      cases set : tracker.callback with
      | false =>
        rw [(kept set).1, (kept set).2] at recorded
        exact sound.logged other recorded
      | true => exact (sound.waiting other tracker lives set).1
    · rw [called other same, (others other same).2.2] at recorded
      exact sound.logged other recorded
  · intro other known
    have before := sound.settled other (registered ▸ known)
    by_cases same : other = address
    · subst same
      refine .inr ⟨fun found lives' => (cleared found lives').1.trans_ne ours, ?_⟩
      cases set : tracker.callback with
      | false =>
        rw [(kept set).1, (kept set).2]
        refine (before.resolve_left ?_).2
        rintro ⟨found, lives', set'⟩
        obtain rfl := Option.some.inj (lives.symm.trans lives')
        cases set.symm.trans set'
      | true => exact counted set
    · obtain ⟨trackers, counts, deleted⟩ := others other same
      rw [trackers, counts]
      simp only [deleted]
      exact before

/-- The deletion of a tracker leaves the others; a callback that is still set is
put down as deleted by user code. -/
theorem Sound.destroy {env : Env} {address : Nat} {tracker : Tracker} (sound : Sound env)
    (lives : env.trackers.get? address = some tracker)
    (ours : tracker.kind ≠ .trackedStringResource) :
    Sound { env.unlink address with
      pendingFinalizers :=
        if tracker.kind.dequeues then env.pendingFinalizers.erase address
        else env.pendingFinalizers
      trackers := env.trackers.set address none
      userDeleted :=
        if tracker.callback then env.userDeleted ++ [address] else env.userDeleted } := by
  have unqueued : address ∉ if tracker.kind.dequeues then env.pendingFinalizers.erase address
      else env.pendingFinalizers := by
    split
    · exact sound.queuedOnce.not_mem_erase
    · rename_i plain
      intro member
      obtain ⟨found, lives', kind⟩ := sound.queued address member
      obtain rfl := Option.some.inj (lives.symm.trans lives')
      exact plain kind
  apply sound.settle lives ours
  · exact next_set none
  · rfl
  · exact unlink_sublist env address
  · dsimp only
    split
    · exact List.erase_sublist
    · exact List.Sublist.refl _
  · rintro (member | member)
    · exact absurd member (not_mem_unlink sound.once)
    · exact absurd member unqueued
  · intro other apart member
    exact (List.mem_erase_of_ne apart).mpr member
  · intro other apart
    refine ⟨get?_set_of_ne _ apart, rfl, ?_⟩
    cases tracker.callback with
    | false => exact Iff.rfl
    | true => simp only [↓reduceIte, List.mem_append, List.mem_singleton, apart, or_false]
  · intro found lives'
    rw [get?_set_self none lives] at lives'
    cases lives'
  · intro set
    have uncalled := (sound.waiting address tracker lives set).2.1
    simp only [set, ↓reduceIte, List.mem_append, List.mem_singleton, or_true]
    exact List.count_eq_zero_of_not_mem uncalled
  · intro unset
    exact ⟨rfl, by simp only [unset, Bool.false_eq_true, ↓reduceIte]⟩

/-- What operations of user code may change: at most `grown` trackers are added,
and those that user code does not own stay as they are. -/
structure Grows (before after : Env) (grown : Nat) : Prop where
  pending : after.pendingFinalizers.length ≤ before.pendingFinalizers.length + grown
  finalizing : after.finalizingReflist.length ≤ before.finalizingReflist.length + grown
  calls : after.calls = before.calls
  registered : ∀ address ∈ before.registered, address ∈ after.registered
  keeps : ∀ address tracker, before.trackers.get? address = some tracker →
    ¬ (tracker.kind.isReference ∧ tracker.userland) →
    after.trackers.get? address = some tracker

namespace Grows

theorem refl (env : Env) : Grows env env 0 :=
  ⟨Nat.le_refl _, Nat.le_refl _, rfl, fun _ => id, fun _ _ lives _ => lives⟩

theorem trans {first second third : Env} {grown more : Nat} (one : Grows first second grown)
    (two : Grows second third more) : Grows first third (grown + more) := by
  refine ⟨?_, ?_, two.calls.trans one.calls, ?_, ?_⟩
  · have := one.pending
    have := two.pending
    omega
  · have := one.finalizing
    have := two.finalizing
    omega
  · intro address known
    exact two.registered address (one.registered address known)
  · intro address tracker lives owned
    exact two.keeps address tracker (one.keeps address tracker lives owned) owned

theorem newTracker (env : Env) (tracker : Tracker) : Grows env (env.newTracker tracker) 1 := by
  refine ⟨Nat.le_succ _, ?_, rfl, ?_, ?_⟩
  · cases kind : tracker.finalizing with
    | false =>
      simp only [Env.newTracker, kind, Bool.false_eq_true, ↓reduceIte]
      omega
    | true =>
      simp only [Env.newTracker, kind, ↓reduceIte, List.length_cons]
      omega
  · intro address known
    exact (mem_newTracker_registered ..).mpr (.inl known)
  · intro address found lives _
    exact get?_alloc_of_some lives

end Grows

theorem erase_length_le (list : List Nat) (address : Nat) :
    (list.erase address).length ≤ list.length := List.erase_sublist.length_le

/-- Each operation keeps the invariant. -/
theorem Sound.runOp {env : Env} (sound : Sound env) (op : Op) :
    ∃ after, env.runOp op = .ok after ∧ Sound after ∧ Grows env after (creates [op]) := by
  cases op with
  | deleteReference address =>
    cases lives : env.trackers.get? address with
    | none =>
      refine ⟨env, ?_, sound, .refl env⟩
      simp only [Env.runOp, Env.napiDeleteReference, lives]
    | some tracker =>
      by_cases owned : tracker.kind.isReference ∧ tracker.userland
      · have ours : tracker.kind ≠ .trackedStringResource := by
          intro kind
          rw [kind] at owned
          cases owned.1
        refine ⟨_, ?_, sound.destroy lives ours, ?_⟩
        · simp only [Env.runOp, Env.napiDeleteReference, lives, owned, and_self, ↓reduceIte]
          exact destroy_eq lives
        · refine ⟨?_, erase_length_le .., rfl, fun _ => id, ?_⟩
          · dsimp only
            split
            · exact erase_length_le ..
            · exact Nat.le_refl _
          · intro other found lives' unowned
            rw [get?_set_of_ne _ ?_]
            · exact lives'
            · rintro rfl
              obtain rfl := Option.some.inj (lives.symm.trans lives')
              exact unowned owned
      · refine ⟨env, ?_, sound, .refl env⟩
        simp only [Env.runOp, Env.napiDeleteReference, lives, owned, ↓reduceIte]
  | postFinalizer callback =>
    have linked := sound.newTracker { kind := .trackedFinalizer, callback } (by simp)
    have grows := Grows.newTracker env { kind := .trackedFinalizer, callback }
    refine ⟨env.nodeApiPostFinalizer callback, rfl, linked.enqueueFinalizer get?_alloc_self rfl, ?_⟩
    refine ⟨?_, grows.finalizing, rfl, grows.registered, grows.keeps⟩
    unfold Env.nodeApiPostFinalizer Env.enqueueFinalizer
    split
    · exact grows.pending
    · exact Nat.le_refl _
  | newReference finalizer userland =>
    refine ⟨_, rfl, sound.newTracker _ ?_, Grows.newTracker env _⟩
    cases finalizer with
    | false => exact fun _ => rfl
    | true => intro reference; cases reference
  | newStringResource callback =>
    refine ⟨_, rfl, sound.newTracker _ ?_, Grows.newTracker env _⟩
    intro reference
    cases reference

theorem creates_cons (op : Op) (ops : List Op) :
    creates (op :: ops) = creates [op] + creates ops := by
  rw [creates, creates, creates, ← List.countP_append, List.singleton_append]

theorem Sound.runOps (ops : List Op) : ∀ {env : Env}, Sound env →
    ∃ after, env.runOps ops = .ok after ∧ Sound after ∧ Grows env after (creates ops) := by
  induction ops with
  | nil => exact fun {env} sound => ⟨env, rfl, sound, .refl env⟩
  | cons op ops ih =>
    intro env sound
    obtain ⟨middle, ran, sound', grows⟩ := sound.runOp op
    obtain ⟨after, ran', sound'', grows'⟩ := ih sound'
    refine ⟨after, ?_, sound'', ?_⟩
    · rw [Env.runOps, ran, ok_bind, ran']
    · rw [creates_cons]
      exact grows.trans grows'

/-- A callback that is cleared, and counted if it was set, leaves the invariant. -/
theorem Sound.cleared {env : Env} {address : Nat} {tracker : Tracker} (sound : Sound env)
    (lives : env.trackers.get? address = some tracker)
    (ours : tracker.kind ≠ .trackedStringResource) :
    Sound { env with
      trackers := env.trackers.set address (some { tracker with callback := false })
      calls := if tracker.callback then env.calls ++ [address] else env.calls } := by
  have self := get?_set_self (some { tracker with callback := false }) lives
  apply sound.settle lives ours
  · exact next_set _
  · rfl
  · exact List.Sublist.refl _
  · exact List.Sublist.refl _
  · exact fun _ => ⟨_, self, rfl⟩
  · exact fun _ _ member => member
  · intro other apart
    refine ⟨get?_set_of_ne _ apart, ?_, Iff.rfl⟩
    cases tracker.callback with
    | false => rfl
    | true =>
      have absent : [address].count other = 0 :=
        List.count_eq_zero_of_not_mem (by simpa using apart)
      simp only [↓reduceIte, List.count_append, absent, Nat.add_zero]
  · intro found lives'
    obtain rfl := Option.some.inj (self.symm.trans lives')
    exact ⟨rfl, rfl⟩
  · intro set
    obtain ⟨-, uncalled, undeleted, -⟩ := sound.waiting address tracker lives set
    simp only [set, ↓reduceIte, undeleted, List.count_append, List.count_singleton_self]
    rw [List.count_eq_zero_of_not_mem uncalled]
  · intro unset
    exact ⟨by simp only [unset, Bool.false_eq_true, ↓reduceIte], rfl⟩

/-- The resource of an external string is left to V8, its callback still set. -/
theorem Sound.resetEnv {env : Env} {address : Nat} {tracker : Tracker} (sound : Sound env)
    (lives : env.trackers.get? address = some tracker)
    (kind : tracker.kind = .trackedStringResource) :
    Sound { env.unlink address with
      trackers := env.trackers.set address (some { tracker with reset := true }) } := by
  have lists := unlink_sublist env address
  have self := get?_set_self (some { tracker with reset := true }) lives
  refine ⟨?_, sound.once.sublist lists, ?_, sound.queuedOnce, ?_, ?_, ?_, sound.logged, ?_⟩
  · intro other member
    have apart : other ≠ address := by
      rintro rfl
      exact not_mem_unlink sound.once member
    rw [get?_set_of_ne _ apart]
    exact sound.linked other (lists.subset member)
  · intro other member
    obtain ⟨found, lives', dequeues⟩ := sound.queued other member
    by_cases same : other = address
    · subst same
      obtain rfl := Option.some.inj (lives.symm.trans lives')
      rw [kind] at dequeues
      cases dequeues
    · exact ⟨found, (get?_set_of_ne _ same).trans lives', dequeues⟩
  · intro other found lives' reference
    by_cases same : other = address
    · subst same
      obtain rfl := Option.some.inj (self.symm.trans lives')
      cases kind.symm.trans reference
    · rw [get?_set_of_ne _ same] at lives'
      exact sound.plain other found lives' reference
  · intro other found lives' set
    by_cases same : other = address
    · subst same
      obtain rfl := Option.some.inj (self.symm.trans lives')
      obtain ⟨known, uncalled, undeleted, -⟩ := sound.waiting other tracker lives set
      exact ⟨known, uncalled, undeleted, .inr ⟨kind, rfl⟩⟩
    · rw [get?_set_of_ne _ same] at lives'
      obtain ⟨known, uncalled, undeleted, waits⟩ := sound.waiting other found lives' set
      exact ⟨known, uncalled, undeleted, waits.imp_left (List.mem_erase_of_ne same).mpr⟩
  · intro other known
    exact (sound.known other known).trans_eq (next_set _).symm
  · intro other known
    have before := sound.settled other known
    by_cases same : other = address
    · subst same
      rcases before with ⟨found, lives', set⟩ | ⟨plain, -⟩
      · obtain rfl := Option.some.inj (lives.symm.trans lives')
        exact .inl ⟨_, self, set⟩
      · exact absurd kind (plain tracker lives)
    · rw [get?_set_of_ne _ same]
      exact before

/-! ## The loops -/

section

variable {behaviour : Nat → List Op} {left : Nat → Nat}

theorem read_eq {env : Env} {address : Nat} {tracker : Tracker}
    (lives : env.trackers.get? address = some tracker) : env.read address = .ok tracker := by
  rw [Env.read, read_of_get? lives, mapError_ok]

theorem invokes_eq {tracker : Tracker} (ours : tracker.kind ≠ .trackedStringResource) :
    tracker.invokes = tracker.callback := by
  simp only [Tracker.invokes, ours, ne_eq, not_false_eq_true, decide_true, Bool.true_and]

/-- `CallFinalizer` on an unlinked tracker: the callback, if it is set, runs in an
env in which it is cleared and counted. -/
theorem callFinalizer_eq {env : Env} {address : Nat} {tracker : Tracker}
    (lives : env.trackers.get? address = some tracker) :
    (env.unlink address).callFinalizer behaviour address =
      (Env.unlink { env with
        trackers := env.trackers.set address (some { tracker with callback := false })
        calls := if tracker.callback then env.calls ++ [address] else env.calls } address).runOps
        (if tracker.callback then behaviour env.calls.length else []) := by
  have lives' : (env.unlink address).trackers.get? address = some tracker := lives
  cases set : tracker.callback with
  | false =>
    simp only [Env.callFinalizer, Env.read, read_of_get? lives', write_of_get? lives', mapError_ok,
      ok_bind, pure_ok, set, Bool.false_eq_true, ↓reduceIte]
    rfl
  | true =>
    simp only [Env.callFinalizer, Env.read, read_of_get? lives', write_of_get? lives', mapError_ok,
      ok_bind, set, ↓reduceIte]
    rfl

/-- What is left after a tracker has been finalized. The new trackers of its
callback are paid for out of `left`, and when none is invoked the lists only lose. -/
structure Finalized (left : Nat → Nat) (before after : Env) (address : Nat) (invokes : Bool) :
    Prop where
  sound : Sound after
  registered : ∀ other ∈ before.registered, other ∈ after.registered
  pending : after.pendingFinalizers.length + left after.calls.length ≤
    before.pendingFinalizers.length + left before.calls.length
  finalizing : after.finalizingReflist.length + left after.calls.length ≤
    (before.finalizingReflist.erase address).length + left before.calls.length
  quiet : invokes = false →
    after.finalizingReflist.Sublist (before.finalizingReflist.erase address) ∧
      after.reflist.Sublist (before.reflist.erase address)

/-- A tracker that deletes itself after its callback. -/
theorem Finalized.destroy {before middle : Env} {address : Nat} {invokes : Bool}
    {tracker : Tracker} (finalized : Finalized left before middle address invokes)
    (lives : middle.trackers.get? address = some tracker)
    (ours : tracker.kind ≠ .trackedStringResource) (cleared : tracker.callback = false) :
    ∃ after, middle.destroy address = .ok after ∧
      Finalized left before after address invokes := by
  have sound := finalized.sound.destroy lives ours
  simp only [cleared, Bool.false_eq_true, ↓reduceIte] at sound
  refine ⟨_, destroy_eq lives, sound, finalized.registered, ?_, ?_, ?_⟩
  · refine Nat.le_trans (Nat.add_le_add_right ?_ _) finalized.pending
    dsimp only
    split
    · exact erase_length_le ..
    · exact Nat.le_refl _
  · exact Nat.le_trans (Nat.add_le_add_right (erase_length_le ..) _) finalized.finalizing
  · intro quiet
    obtain ⟨finalizing, plain⟩ := finalized.quiet quiet
    exact ⟨List.erase_sublist.trans finalizing, List.erase_sublist.trans plain⟩

/-- `Finalize` of a reference that has no finalizer. -/
theorem Sound.finalize_reference {env : Env} {address : Nat} {tracker : Tracker}
    (sound : Sound env) (lives : env.trackers.get? address = some tracker)
    (kind : tracker.kind = .reference) :
    ∃ after, env.finalize behaviour address = .ok after ∧
      Finalized left env after address tracker.invokes := by
  have noCallback := sound.plain address tracker lives kind
  have ours : tracker.kind ≠ .trackedStringResource := by
    rw [kind]
    nofun
  have unlinked : Finalized left env (env.unlink address) address tracker.invokes := by
    refine ⟨sound.unlink ?_, fun _ => id, Nat.le_refl _, Nat.le_refl _,
      fun _ => ⟨List.Sublist.refl _, List.Sublist.refl _⟩⟩
    intro found lives'
    obtain rfl := Option.some.inj (lives.symm.trans lives')
    exact noCallback
  simp only [Env.finalize, read_eq lives, ok_bind, kind, reduceCtorEq, ↓reduceIte, pure_ok]
  split
  · exact ⟨_, rfl, unlinked⟩
  · exact unlinked.destroy lives ours noCallback

/-- `Finalize` of the resource of an external string. -/
theorem Sound.finalize_string {env : Env} {address : Nat} {tracker : Tracker}
    (sound : Sound env) (lives : env.trackers.get? address = some tracker)
    (kind : tracker.kind = .trackedStringResource) :
    ∃ after, env.finalize behaviour address = .ok after ∧
      Finalized left env after address tracker.invokes := by
  have lives' : (env.unlink address).trackers.get? address = some tracker := lives
  refine ⟨_, ?_, sound.resetEnv lives kind, fun _ => id, Nat.le_refl _, Nat.le_refl _,
    fun _ => ⟨List.Sublist.refl _, List.Sublist.refl _⟩⟩
  simp only [Env.finalize, read_eq lives, ok_bind, kind, ↓reduceIte, Env.resetEnv, read_eq lives',
    write_of_get? lives', mapError_ok, pure_ok]
  rfl

/-- `Finalize` of a tracker that has a finalizer of its own. -/
theorem Sound.finalize_finalizer (spends : ∀ n, creates (behaviour n) + left (n + 1) ≤ left n)
    {env : Env} {address : Nat} {tracker : Tracker} (sound : Sound env)
    (lives : env.trackers.get? address = some tracker) (kind : tracker.kind ≠ .reference)
    (ours : tracker.kind ≠ .trackedStringResource) :
    ∃ after, env.finalize behaviour address = .ok after ∧
      Finalized left env after address tracker.invokes := by
  have self := get?_set_self (some { tracker with callback := false }) lives
  have cleared : ∀ found,
      (env.trackers.set address (some { tracker with callback := false })).get? address =
        some found → found.callback = false := by
    intro found lives'
    obtain rfl := Option.some.inj (self.symm.trans lives')
    rfl
  have start := (sound.cleared lives ours).unlink cleared
  obtain ⟨middle, ran, sound', grows⟩ :=
    start.runOps (if tracker.callback then behaviour env.calls.length else [])
  have finalized : Finalized left env middle address tracker.invokes := by
    have paid : creates (if tracker.callback then behaviour env.calls.length else []) +
        left middle.calls.length ≤ left env.calls.length := by
      rw [grows.calls]
      cases tracker.callback with
      | false => exact Nat.le_of_eq (Nat.zero_add _)
      | true =>
        have called : (env.calls ++ [address]).length = env.calls.length + 1 := by
          rw [List.length_append, List.length_singleton]
        exact called ▸ spends env.calls.length
    refine ⟨sound', grows.registered, ?_, ?_, ?_⟩
    · have := grows.pending
      exact Nat.le_trans (Nat.add_le_add_right this _) (by
        rw [Nat.add_assoc]
        exact Nat.add_le_add_left paid _)
    · have := grows.finalizing
      exact Nat.le_trans (Nat.add_le_add_right this _) (by
        rw [Nat.add_assoc]
        exact Nat.add_le_add_left paid _)
    · intro quiet
      rw [invokes_eq ours] at quiet
      rw [quiet] at ran
      obtain rfl := Except.ok.inj ran
      exact ⟨List.Sublist.refl _, List.Sublist.refl _⟩
  simp only [Env.finalize, read_eq lives, ok_bind, kind, ours, ↓reduceIte, callFinalizer_eq lives,
    ran, pure_ok]
  split
  · exact ⟨middle, rfl, finalized⟩
  · rename_i own
    exact finalized.destroy (grows.keeps address _ self own) ours rfl

/-- `Finalize` of a tracker that lives. -/
theorem Sound.finalize (spends : ∀ n, creates (behaviour n) + left (n + 1) ≤ left n) {env : Env}
    {address : Nat} {tracker : Tracker} (sound : Sound env)
    (lives : env.trackers.get? address = some tracker) :
    ∃ after, env.finalize behaviour address = .ok after ∧
      Finalized left env after address tracker.invokes := by
  by_cases plain : tracker.kind = .reference
  · exact sound.finalize_reference lives plain
  · by_cases string : tracker.kind = .trackedStringResource
    · exact sound.finalize_string lives string
    · exact sound.finalize_finalizer spends lives plain string

/-- The loop over a list, by its turns. -/
theorem finalizeAll_ends (list : Env → List Nat) {inv : Env → Prop} {measure : Env → Nat}
    (turn : ∀ env address, inv env → (list env).head? = some address →
      ∃ after, env.finalize behaviour address = .ok after ∧ inv after ∧
        measure after < measure env) {env : Env} (holds : inv env) :
    ∃ after, (∀ fuel > measure env, Env.finalizeAll behaviour list fuel env = .ok after) ∧
      inv after ∧ list after = [] := by
  apply loop_ends ?_ _ env holds (Nat.le_refl _)
  intro env holds
  cases head : (list env).head? with
  | none =>
    refine .inl ⟨List.head?_eq_none_iff.mp head, fun fuel => ?_⟩
    simp only [Env.finalizeAll, head]
  | some address =>
    obtain ⟨middle, finalized, rest⟩ := turn env address holds head
    refine .inr ⟨middle, fun fuel => ?_, rest⟩
    simp only [Env.finalizeAll, head, finalized, ok_bind]

/-- The invariant of the loops: what is registered stays so. -/
structure Deleting (start env : Env) : Prop where
  sound : Sound env
  registered : ∀ address ∈ start.registered, address ∈ env.registered

theorem Deleting.finalize {start env : Env} {address : Nat} {tracker : Tracker}
    (spends : ∀ n, creates (behaviour n) + left (n + 1) ≤ left n) (deleting : Deleting start env)
    (lives : env.trackers.get? address = some tracker) :
    ∃ after, env.finalize behaviour address = .ok after ∧ Deleting start after ∧
      Finalized left env after address tracker.invokes := by
  obtain ⟨after, ran, finalized⟩ := deleting.sound.finalize spends lives
  refine ⟨after, ran, ⟨finalized.sound, ?_⟩, finalized⟩
  intro other known
  exact finalized.registered other (deleting.registered other known)

theorem drain_ends (begin : Nat → Nat) (spends : ∀ n, creates (behaviour n) + left (n + 1) ≤ left n)
    {start env : Env} (deleting : Deleting start env) :
    ∃ after bound,
      (∀ fuel > bound, Env.drainFinalizerQueue behaviour begin fuel env = .ok after) ∧
        Deleting start after := by
  have turn : ∀ env, Deleting start env →
      True ∧ (∀ fuel, Env.drainFinalizerQueue behaviour begin (fuel + 1) env = .ok env) ∨
        ∃ next, (∀ fuel, Env.drainFinalizerQueue behaviour begin (fuel + 1) env =
            Env.drainFinalizerQueue behaviour begin fuel next) ∧ Deleting start next ∧
          next.pendingFinalizers.length + left next.calls.length <
            env.pendingFinalizers.length + left env.calls.length := by
    intro env deleting
    cases first : env.pendingFinalizers[begin env.turns % env.pendingFinalizers.length]? with
    | none =>
      refine .inl ⟨trivial, fun fuel => ?_⟩
      simp only [Env.drainFinalizerQueue, first]
    | some address =>
      have member := List.mem_of_getElem? first
      obtain ⟨tracker, lives, -⟩ := deleting.sound.queued address member
      have dequeued : Deleting start
          { env.dequeueFinalizer address with turns := env.turns + 1 } :=
        ⟨{ deleting.sound.dequeueFinalizer address with }, deleting.registered⟩
      obtain ⟨middle, finalized, deleting', effect⟩ := dequeued.finalize spends lives
      refine .inr ⟨middle, fun fuel => ?_, deleting', ?_⟩
      · simp only [Env.drainFinalizerQueue, first, finalized, ok_bind]
      · have paid : middle.pendingFinalizers.length + left middle.calls.length ≤
          (env.pendingFinalizers.erase address).length + left env.calls.length := effect.pending
        have shorter := List.length_erase_of_mem member
        have positive := List.length_pos_of_mem member
        omega
  obtain ⟨after, ends, holds, -⟩ := loop_ends turn _ env deleting (Nat.le_refl _)
  exact ⟨after, _, ends, holds⟩

/-- The first list: each turn takes its head, and pays for what it adds. -/
theorem finalizing_ends (spends : ∀ n, creates (behaviour n) + left (n + 1) ≤ left n)
    {start env : Env} (deleting : Deleting start env) :
    ∃ after bound,
      (∀ fuel > bound, Env.finalizeAll behaviour Env.finalizingReflist fuel env = .ok after) ∧
        Deleting start after ∧ after.finalizingReflist = [] := by
  have turn : ∀ env address, Deleting start env →
      env.finalizingReflist.head? = some address →
      ∃ after, env.finalize behaviour address = .ok after ∧ Deleting start after ∧
        after.finalizingReflist.length + left after.calls.length <
          env.finalizingReflist.length + left env.calls.length := by
    intro env address deleting head
    have member := List.mem_of_mem_head? head
    obtain ⟨tracker, lives⟩ := deleting.sound.linked address (List.mem_append_left _ member)
    obtain ⟨after, finalized, deleting', effect⟩ := deleting.finalize spends lives
    refine ⟨after, finalized, deleting', ?_⟩
    have paid := effect.finalizing
    have shorter := List.length_erase_of_mem member
    have positive := List.length_pos_of_mem member
    omega
  obtain ⟨after, ends, holds, empty⟩ :=
    finalizeAll_ends Env.finalizingReflist turn deleting
  exact ⟨after, _, ends, holds, empty⟩

/-- The second list holds no callback any more. -/
theorem reflist_ends (spends : ∀ n, creates (behaviour n) + left (n + 1) ≤ left n)
    {start env : Env} (deleting : Deleting start env) (finalized : env.finalizingReflist = []) :
    ∃ after bound,
      (∀ fuel > bound, Env.finalizeAll behaviour Env.reflist fuel env = .ok after) ∧
        Deleting start after ∧ after.finalizingReflist = [] := by
  have turn : ∀ env address, Deleting start env ∧ env.finalizingReflist = [] →
      env.reflist.head? = some address →
      ∃ after, env.finalize behaviour address = .ok after ∧
        (Deleting start after ∧ after.finalizingReflist = []) ∧
        after.reflist.length < env.reflist.length := by
    rintro env address ⟨deleting, empty⟩ head
    have member := List.mem_of_mem_head? head
    obtain ⟨tracker, lives⟩ := deleting.sound.linked address (List.mem_append_right _ member)
    have silent : tracker.invokes = false := by
      by_cases string : tracker.kind = .trackedStringResource
      · simp only [Tracker.invokes, string, ne_eq, not_true_eq_false, decide_false, Bool.false_and]
      · rw [invokes_eq string]
        by_contra set
        have set := Bool.of_not_eq_false set
        rcases (deleting.sound.waiting address tracker lives set).2.2.2 with waits | ⟨kind, -⟩
        · rw [empty] at waits
          cases waits
        · exact string kind
    obtain ⟨after, ran, deleting', effect⟩ := deleting.finalize spends lives
    obtain ⟨finalizing, plain⟩ := effect.quiet silent
    refine ⟨after, ran, ⟨deleting', ?_⟩, ?_⟩
    · rw [empty] at finalizing
      exact List.sublist_nil.mp finalizing
    · have shorter := List.length_erase_of_mem member
      have positive := List.length_pos_of_mem member
      have fewer := plain.length_le
      omega
  obtain ⟨after, ends, ⟨holds, empty⟩, -⟩ :=
    finalizeAll_ends Env.reflist turn ⟨deleting, finalized⟩
  exact ⟨after, _, ends, holds, empty⟩

end

/-! ## The deletion of an env -/

/-- When only finitely many callbacks make trackers, there is a budget for all of
them. -/
theorem exists_budget (behaviour : Nat → List Op) (bound : Nat)
    (finite : ∀ n ≥ bound, creates (behaviour n) = 0) :
    ∃ left : Nat → Nat, ∀ n, creates (behaviour n) + left (n + 1) ≤ left n := by
  refine ⟨fun n => ∑ k ∈ Finset.Ico n bound, creates (behaviour k), ?_⟩
  intro n
  by_cases inside : n < bound
  · exact Nat.le_of_eq
      (Finset.sum_eq_sum_Ico_succ_bot inside fun k => creates (behaviour k)).symm
  · have none : ∀ m ≥ bound, ∑ k ∈ Finset.Ico m bound, creates (behaviour k) = 0 := by
      intro m beyond
      rw [Finset.Ico_eq_empty_of_le beyond, Finset.sum_empty]
    dsimp only
    rw [finite n (by omega), none n (by omega), none (n + 1) (by omega)]

theorem mem_selected {items : List Item} {test : Item → Bool} {address : Nat} :
    address ∈ selected items test ↔ ∃ item, items[address]? = some item ∧ test item = true := by
  rw [selected, List.mem_filter, List.mem_range]
  cases found : items[address]? with
  | none => simp
  | some item =>
    have inside : address < items.length := (List.getElem?_eq_some_iff.mp found).1
    simp [inside]

theorem get?_tracking {items : List Item} {address : Nat} {tracker : Tracker} :
    (Env.tracking items).trackers.get? address = some tracker ↔
      ∃ item, items[address]? = some item ∧ item.tracker = tracker := by
  simp only [Env.tracking, get?, List.getElem?_map]
  cases items[address]? with
  | none => simp
  | some item => simp

theorem selected_nodup (items : List Item) (test : Item → Bool) : (selected items test).Nodup :=
  List.nodup_range.filter _

/-- The items of an env are linked once, each in the list of its class. -/
theorem sound_tracking (items : List Item) : Sound (Env.tracking items) := by
  refine ⟨?_, ?_, ?_, selected_nodup .., ?_, ?_, ?_, ?_, ?_⟩
  · intro address member
    rcases List.mem_append.mp member with member | member
    · obtain ⟨item, found, -⟩ := mem_selected.mp member
      exact ⟨item.tracker, get?_tracking.mpr ⟨item, found, rfl⟩⟩
    · obtain ⟨item, found, -⟩ := mem_selected.mp member
      exact ⟨item.tracker, get?_tracking.mpr ⟨item, found, rfl⟩⟩
  · refine List.nodup_append.mpr ⟨selected_nodup .., selected_nodup .., ?_⟩
    rintro address first _ second rfl
    obtain ⟨item, found, kind⟩ := mem_selected.mp first
    obtain ⟨item', found', kind'⟩ := mem_selected.mp second
    obtain rfl := Option.some.inj (found.symm.trans found')
    rw [kind] at kind'
    cases kind'
  · intro address member
    obtain ⟨item, found, queued⟩ := mem_selected.mp member
    refine ⟨item.tracker, get?_tracking.mpr ⟨item, found, rfl⟩, ?_⟩
    cases item with
    | trackedFinalizer callback queued => rfl
    | referenceWithFinalizer userland callback queued => rfl
    | reference userland => cases queued
    | trackedStringResource callback => cases queued
  · intro address tracker lives reference
    obtain ⟨item, -, rfl⟩ := get?_tracking.mp lives
    cases item with
    | trackedFinalizer callback queued => cases reference
    | reference userland => rfl
    | referenceWithFinalizer userland callback queued => cases reference
    | trackedStringResource callback => cases reference
  · intro address tracker lives set
    obtain ⟨item, found, rfl⟩ := get?_tracking.mp lives
    refine ⟨mem_selected.mpr ⟨item, found, set⟩, by simp [Env.tracking], by simp [Env.tracking],
      .inl (mem_selected.mpr ⟨item, found, ?_⟩)⟩
    cases item with
    | trackedFinalizer callback queued => rfl
    | reference userland => cases set
    | referenceWithFinalizer userland callback queued => rfl
    | trackedStringResource callback => exact set
  · intro address known
    obtain ⟨item, found, -⟩ := mem_selected.mp known
    exact address_lt (get?_tracking.mpr ⟨item, found, rfl⟩)
  · rintro address (called | deleted)
    · cases called
    · cases deleted
  · intro address known
    obtain ⟨item, found, set⟩ := mem_selected.mp known
    exact .inl ⟨item.tracker, get?_tracking.mpr ⟨item, found, rfl⟩, set⟩

/-- What the destructor of an external string does after the deletion. -/
theorem deleteStringResource_eq {env : Env} {address : Nat} (waits : env.LeftToString address) :
    ∃ next, env.deleteStringResource address = .ok next ∧
      next.calls = env.calls ++ [address] := by
  obtain ⟨-, tracker, lives, -, set, reset⟩ := waits
  simp only [Env.deleteStringResource, read_eq lives, ok_bind, set, reset, Bool.not_true,
    Bool.false_eq_true, and_false, ↓reduceIte, delete_of_get? lives, mapError_ok, pure_ok]
  exact ⟨_, rfl, rfl⟩

/-- Deleting an env ends, for every set of tracked items and whatever their callbacks do.
Then each callback has been invoked exactly once unless user code deleted its reference
before, and that of an external string is invoked when V8 deletes the string. -/
theorem deleteMe_exactlyOnce (items : List Item) (behaviour : Nat → List Op) (begin : Nat → Nat)
    (others : List Op) (bound : Nat) (finite : ∀ n ≥ bound, creates (behaviour n) = 0) :
    ∃ after enough,
      (∀ fuel > enough, (Env.tracking items).deleteMe behaviour begin others fuel = .ok after) ∧
        after.deleted = true ∧ ExactlyOnce after ∧
        (∀ address ∈ (Env.tracking items).registered, address ∈ after.registered) ∧
        ∀ address, after.LeftToString address →
          ∃ next, after.deleteStringResource address = .ok next ∧
            next.calls = after.calls ++ [address] := by
  obtain ⟨left, spends⟩ := exists_budget behaviour bound finite
  have start : Sound { Env.tracking items with isDestructing := true } :=
    { sound_tracking items with }
  obtain ⟨first, ran, sound, grows⟩ := start.runOps others
  have deleting : Deleting (Env.tracking items) first := ⟨sound, grows.registered⟩
  obtain ⟨second, drains, drained, deleting⟩ := drain_ends begin spends deleting
  obtain ⟨third, turns, finalized, deleting, empty⟩ := finalizing_ends spends deleting
  obtain ⟨fourth, turns', released, deleting, empty⟩ := reflist_ends spends deleting empty
  refine ⟨{ fourth with deleted := true }, max drains (max turns turns'), ?_, rfl, ?_,
    deleting.registered, fun address => deleteStringResource_eq⟩
  · intro fuel more
    simp only [Env.deleteMe, ran, drained fuel (by omega), finalized fuel (by omega),
      released fuel (by omega), ok_bind, pure_ok]
  · intro address known
    rcases deleting.sound.settled address known with ⟨tracker, lives, set⟩ | counted
    · obtain ⟨-, uncalled, -, waits⟩ := deleting.sound.waiting address tracker lives set
      rw [empty] at waits
      obtain ⟨kind, reset⟩ := waits.resolve_left List.not_mem_nil
      exact .inl ⟨List.count_eq_zero_of_not_mem uncalled, tracker, lives, kind, set, reset⟩
    · exact .inr counted

/-- The first callback posts a finalizer and deletes a queued reference of the user, whose
own callback is then never invoked. That of the external string waits. -/
theorem deleteMe_exactlyOnce_posting :
    ∃ after enough,
      (∀ fuel > enough,
        (Env.tracking [.trackedFinalizer true true, .referenceWithFinalizer true true true,
          .reference false, .trackedStringResource true]).deleteMe
            (fun n => if n = 0 then [.postFinalizer true, .deleteReference 1] else [])
            (fun _ => 0) [] fuel = .ok after) ∧
        after.deleted = true ∧ ExactlyOnce after ∧
        (∀ address ∈ (Env.tracking [.trackedFinalizer true true,
          .referenceWithFinalizer true true true, .reference false,
          .trackedStringResource true]).registered, address ∈ after.registered) ∧
        ∀ address, after.LeftToString address →
          ∃ next, after.deleteStringResource address = .ok next ∧
            next.calls = after.calls ++ [address] := by
  apply deleteMe_exactlyOnce _ _ _ _ 1
  intro n later
  have apart : n ≠ 0 := by omega
  simp only [apart, ↓reduceIte]
  rfl

/-- The callback of an external string is not invoked by the deletion of the env. -/
theorem external_string_not_finalized :
    ∃ after,
      (Env.tracking [.trackedStringResource true]).deleteMe (fun _ => []) (fun _ => 0) [] 2 =
          .ok after ∧
        after.deleted = true ∧ after.registered = [0] ∧ after.calls = [] ∧ ¬ AllInvoked after := by
  refine ⟨_, rfl, rfl, rfl, rfl, ?_⟩
  intro invoked
  exact absurd (invoked 0 (by decide)) (by decide)

/- The callbacks of the first item and of the posted finalizer run, and those of the
deleted reference and of the string do not. -/
example :
    ((Env.tracking [.trackedFinalizer true true, .referenceWithFinalizer true true true,
      .reference false, .trackedStringResource true]).deleteMe
        (fun n => if n = 0 then [.postFinalizer true, .deleteReference 1] else [])
        (fun _ => 0) [] 4).map (fun env => (env.registered, env.calls, env.userDeleted)) =
      .ok ([0, 1, 3, 4], [0, 4], [1]) := by
  decide

end V8Jsi.EnvFinalizers
