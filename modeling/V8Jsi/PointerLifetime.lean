import Mathlib.Data.List.Nodup
import V8Jsi.PointerValue

set_option autoImplicit false

/- Who may still touch a pointer value: the stack of scopes while `value_` is
set, the pending deletions once the last reference is gone, and the holders of
references before that. -/
namespace V8Jsi.PointerValue

open Runs Heaps Outcome

/-- The fields of an object agree with the lists it stands in. -/
structure Fits (references : Heap Nat) (stack pool held : List Nat) (p : Nat)
    (this : NodeApiRefCountedPointerValue) : Prop where
  counted : this.refCount = held.count p
  onStack : p ∈ stack → this.value = true
  pooled : p ∈ pool → this.refCount = 0 ∧ this.canBeDeletedFromStack = false
  flagged : this.canBeDeletedFromStack = true → this.refCount = 0
  refAlive : ∀ ref, this.ref = some ref → ∃ strength, references.get? ref = some strength

structure Owned (store : Store) (stack pool held : List Nat) : Prop where
  stackDistinct : stack.Nodup
  poolDistinct : pool.Nodup
  alive : ∀ p, p ∈ stack ∨ p ∈ pool ∨ p ∈ held → ∃ this, store.objects.get? p = some this
  fits : ∀ p this, store.objects.get? p = some this →
    Fits store.references stack pool held p this
  refOwned : ∀ p q this that ref, store.objects.get? p = some this →
    store.objects.get? q = some that → this.ref = some ref → that.ref = some ref → p = q

/-- The lists and the references may change together with one object, if all
others go on fitting. -/
theorem Owned.set {store : Store} {stack pool held stack' pool' held' : List Nat} {p : Nat}
    {this : NodeApiRefCountedPointerValue} {cell : Option NodeApiRefCountedPointerValue}
    {references : Heap Nat} (owned : Owned store stack pool held)
    (found : store.objects.get? p = some this)
    (stackDistinct : stack'.Nodup) (poolDistinct : pool'.Nodup)
    (alive : ∀ q, q ∈ stack' ∨ q ∈ pool' ∨ q ∈ held' →
      if q = p then ∃ after, cell = some after else q ∈ stack ∨ q ∈ pool ∨ q ∈ held)
    (others : ∀ q that, q ≠ p → store.objects.get? q = some that →
      Fits store.references stack pool held q that → Fits references stack' pool' held' q that)
    (self : ∀ after, cell = some after → Fits references stack' pool' held' p after)
    (unshared : ∀ after q that ref, cell = some after → q ≠ p →
      store.objects.get? q = some that → after.ref = some ref → that.ref ≠ some ref) :
    Owned ⟨store.objects.set p cell, references⟩ stack' pool' held' where
  stackDistinct := stackDistinct
  poolDistinct := poolDistinct
  alive q member := by
    have permitted := alive q member
    by_cases same : q = p
    · subst same
      rw [ite_cond_eq_true _ _ (eq_self q)] at permitted
      obtain ⟨after, rfl⟩ := permitted
      exact ⟨after, Heap.get?_set_self _ found⟩
    · rw [ite_cond_eq_false _ _ (eq_false same)] at permitted
      obtain ⟨that, present⟩ := owned.alive q permitted
      exact ⟨that, by rw [Heap.get?_set_of_ne _ same]; exact present⟩
  fits q that present := by
    rcases Heap.get?_set_some found present with ⟨rfl, after⟩ | ⟨different, before⟩
    · exact self that after
    · exact others q that different before (owned.fits q that before)
  refOwned q r that other ref presentQ presentR refQ refR := by
    rcases Heap.get?_set_some found presentQ with ⟨rfl, afterQ⟩ | ⟨differentQ, beforeQ⟩
    · rcases Heap.get?_set_some found presentR with ⟨rfl, -⟩ | ⟨differentR, beforeR⟩
      · rfl
      · exact absurd refR (unshared that r other ref afterQ differentR beforeR refQ)
    · rcases Heap.get?_set_some found presentR with ⟨rfl, afterR⟩ | ⟨-, beforeR⟩
      · exact absurd refQ (unshared other q that ref afterR differentQ beforeQ refR)
      · exact owned.refOwned q r that other ref beforeQ beforeR refQ refR

/-! ## The operations on one object -/

section

variable {store : Store} {p : Nat} {this : NodeApiRefCountedPointerValue}

theorem read_alive (found : store.objects.get? p = some this) : store.read p = .ok this := by
  simp only [Store.read, Heap.read_of_get? found, mapError_ok]

theorem read_deleted (gone : store.objects.get? p = none) :
    store.read p = .error (.object (.useAfterDelete p)) := by
  simp only [Store.read, Heap.read, gone, mapError_error]

theorem write_alive (after : NodeApiRefCountedPointerValue)
    (found : store.objects.get? p = some this) :
    store.write p after = .ok ⟨store.objects.set p (some after), store.references⟩ := by
  simp only [Store.write, Heap.write_of_get? found, mapError_ok, ok_bind, pure_ok]

theorem delete_alive (found : store.objects.get? p = some this) :
    store.delete p = .ok ⟨store.objects.set p none, store.references⟩ := by
  simp only [Store.delete, Heap.delete_of_get? found, mapError_ok, ok_bind, pure_ok]

theorem createNodeApiRef_alive (found : store.objects.get? p = some this)
    (value : this.value = true) (absent : this.ref = none) :
    ∃ strength, store.createNodeApiRef p = .ok
      ⟨store.objects.set p (some { this with ref := some store.references.next }),
        store.references.alloc strength⟩ := by
  refine ⟨if this.pointerKind = .weakObject then 0 else 1, ?_⟩
  simp only [Store.createNodeApiRef, read_alive found, ok_bind, value, absent, Bool.not_true,
    Bool.false_eq_true, ↓reduceIte, ne_eq, not_true_eq_false]
  exact write_alive _ found

/-- The references after a pop has made sure of one for a value still in use. -/
inductive Referenced (references : Heap Nat) (ref : Option Nat) :
    Heap Nat → Option Nat → Prop
  | unchanged : Referenced references ref references ref
  | created (strength : Nat) (absent : ref = none) :
      Referenced references ref (references.alloc strength) (some references.next)

/-- A value in use without a reference gets one. -/
theorem clearStackValue_created (found : store.objects.get? p = some this)
    (value : this.value = true) (used : this.refCount ≠ 0) (absent : this.ref = none) :
    ∃ strength, store.clearStackValue p = .ok
      ⟨store.objects.set p (some { this with value := false, ref := some store.references.next }),
        store.references.alloc strength⟩ := by
  obtain ⟨strength, created⟩ := createNodeApiRef_alive found value absent
  have present := Heap.get?_set_self (some { this with ref := some store.references.next }) found
  refine ⟨strength, ?_⟩
  simp only [Store.clearStackValue, read_alive found, ok_bind]
  rw [ite_cond_eq_true _ _ (eq_true ⟨used, absent⟩), created, ok_bind, read_alive present, ok_bind,
    write_alive _ present, Heap.set_set]

theorem clearStackValue_unchanged (found : store.objects.get? p = some this)
    (unneeded : ¬ (this.refCount ≠ 0 ∧ this.ref = none)) :
    store.clearStackValue p = .ok
      ⟨store.objects.set p (some { this with value := false }), store.references⟩ := by
  simp only [Store.clearStackValue, read_alive found, ok_bind]
  rw [ite_cond_eq_false _ _ (eq_false unneeded), pure_ok, ok_bind, read_alive found, ok_bind,
    write_alive _ found]

theorem clearStackValue_alive (found : store.objects.get? p = some this)
    (value : this.value = true) :
    ∃ references ref, Referenced store.references this.ref references ref ∧
      store.clearStackValue p = .ok
        ⟨store.objects.set p (some { this with value := false, ref := ref }), references⟩ := by
  by_cases needed : this.refCount ≠ 0 ∧ this.ref = none
  · obtain ⟨strength, created⟩ := clearStackValue_created found value needed.1 needed.2
    exact ⟨_, _, .created strength needed.2, created⟩
  · exact ⟨_, _, .unchanged, clearStackValue_unchanged found needed⟩

theorem deleteStackValue_unflagged (found : store.objects.get? p = some this)
    (value : this.value = true) (unflagged : this.canBeDeletedFromStack = false) :
    store.deleteStackValue p = store.clearStackValue p := by
  simp only [Store.deleteStackValue, read_alive found, ok_bind, value, unflagged, Bool.not_true,
    Bool.false_eq_true, ↓reduceIte, pure_ok]

/-- The read after `delete this`. -/
theorem deleteStackValue_flagged (found : store.objects.get? p = some this)
    (value : this.value = true) (flagged : this.canBeDeletedFromStack = true) :
    store.deleteStackValue p = .error (.object (.useAfterDelete p)) := by
  have gone := Heap.get?_set_self none found
  simp only [Store.deleteStackValue, read_alive found, ok_bind, value, flagged, Bool.not_true,
    Bool.false_eq_true, ↓reduceIte, delete_alive found, Store.clearStackValue]
  rw [read_deleted gone]
  rfl

/-- What the pending deletions leave of an object. -/
def remains (this : NodeApiRefCountedPointerValue) : Option NodeApiRefCountedPointerValue :=
  if this.value then some { this with ref := none, canBeDeletedFromStack := true } else none

theorem deleteUnlessOnStack_alive (found : store.objects.get? p = some this)
    (absent : this.ref = none) :
    store.deleteUnlessOnStack p = .ok
      ⟨store.objects.set p (remains this), store.references⟩ := by
  simp only [Store.deleteUnlessOnStack, read_alive found, ok_bind, remains]
  by_cases value : this.value = true
  · simp only [value, ↓reduceIte, write_alive _ found, ← absent]
  · simp only [value, Bool.false_eq_true, ↓reduceIte, delete_alive found]

/-- What is left of the references when one of them, if any, is deleted. -/
structure Dereferenced (before after : Heap Nat) (ref : Option Nat) : Prop where
  next : after.next = before.next
  deleted : ∀ address, ref = some address → after.get? address = none
  others : ∀ address, ref ≠ some address → after.get? address = before.get? address

theorem deleteNodeApiRef_alive (found : store.objects.get? p = some this)
    (alive : ∀ ref, this.ref = some ref → ∃ strength, store.references.get? ref = some strength) :
    ∃ references, store.deleteNodeApiRef p = .ok
        ⟨store.objects.set p (remains this), references⟩ ∧
      Dereferenced store.references references this.ref := by
  simp only [Store.deleteNodeApiRef, read_alive found, ok_bind]
  cases owns : this.ref with
  | none =>
    exact ⟨store.references, deleteUnlessOnStack_alive found owns, rfl, nofun, fun _ _ => rfl⟩
  | some ref =>
    obtain ⟨strength, live⟩ := alive ref owns
    refine ⟨store.references.set ref none, ?_, Heap.next_set none, ?_, ?_⟩
    · let unreferenced : Store := ⟨store.objects, store.references.set ref none⟩
      have before : unreferenced.objects.get? p = some this := found
      let cleared : Store :=
        ⟨store.objects.set p (some { this with ref := none }), store.references.set ref none⟩
      have after : cleared.objects.get? p = some { this with ref := none } :=
        Heap.get?_set_self _ found
      have finished := deleteUnlessOnStack_alive after rfl
      rw [Heap.set_set] at finished
      simp only [Store.napiDeleteReference, Heap.delete_of_get? live, mapError_ok, ok_bind, pure_ok]
      change unreferenced.write p { this with ref := none } >>= _ = _
      rw [write_alive _ before, ok_bind]
      exact finished
    · rintro address ⟨⟩
      exact Heap.get?_set_self none live
    · intro other different
      exact Heap.get?_set_of_ne none fun same => different (by rw [same])

/-! ## The lists as a whole -/

variable {stack pool held : List Nat}

theorem Fits.mono {references after : Heap Nat} {stack' pool' held' : List Nat}
    (fits : Fits references stack pool held p this)
    (count : held'.count p = held.count p) (onStack : p ∈ stack' → p ∈ stack)
    (pooled : p ∈ pool' → p ∈ pool)
    (refAlive : ∀ ref strength, this.ref = some ref → references.get? ref = some strength →
      after.get? ref = some strength) :
    Fits after stack' pool' held' p this where
  counted := fits.counted.trans count.symm
  onStack member := fits.onStack (onStack member)
  pooled member := fits.pooled (pooled member)
  flagged := fits.flagged
  refAlive ref owns := by
    obtain ⟨strength, live⟩ := fits.refAlive ref owns
    exact ⟨strength, refAlive ref strength owns live⟩

/-- The other values of the stack stay when one is popped. -/
theorem mem_popped {kept rest : List Nat} {q : Nat} (different : q ≠ p)
    (inside : q ∈ kept ++ p :: rest) : q ∈ kept ++ rest := by
  rcases List.mem_append.mp inside with below | above
  · exact List.mem_append_left _ below
  · apply List.mem_append_right
    exact (List.mem_cons.mp above).resolve_left different

/-- What an object says of itself holds of whatever is found at its place. -/
theorem unflagged_of_found (found : store.objects.get? p = some this)
    (unflagged : this.canBeDeletedFromStack = false) :
    ∀ that, store.objects.get? p = some that → that.canBeDeletedFromStack = false := by
  intro that present
  obtain rfl := Option.some.inj (found.symm.trans present)
  exact unflagged

/-- Popping one value that is not flagged. -/
theorem deleteStackValue_owned {kept rest : List Nat}
    (owned : Owned store (kept ++ p :: rest) pool held)
    (unflagged : ∀ this, store.objects.get? p = some this → this.canBeDeletedFromStack = false) :
    ∃ after, store.deleteStackValue p = .ok after ∧ Owned after (kept ++ rest) pool held ∧
      ∀ q, q ≠ p → after.objects.get? q = store.objects.get? q := by
  have member : p ∈ kept ++ p :: rest := by simp
  obtain ⟨this, found⟩ := owned.alive p (.inl member)
  have fits := owned.fits p this found
  have value := fits.onStack member
  obtain ⟨references, ref, referenced, cleared⟩ := clearStackValue_alive found value
  have removed : p ∉ kept ++ rest := (List.nodup_middle.mp owned.stackDistinct).notMem
  have subset : ∀ q, q ∈ kept ++ rest → q ∈ kept ++ p :: rest := by
    intro q inside
    simp only [List.mem_append, List.mem_cons] at inside ⊢
    tauto
  have keeps : ∀ other strength, store.references.get? other = some strength →
      references.get? other = some strength := by
    cases referenced with
    | unchanged => exact fun _ _ live => live
    | created => exact fun _ _ live => Heap.get?_alloc_of_some live
  refine ⟨_, (deleteStackValue_unflagged found value (unflagged this found)).trans cleared, ?_,
    fun q different => Heap.get?_set_of_ne _ different⟩
  refine owned.set found (List.nodup_middle.mp owned.stackDistinct).of_cons owned.poolDistinct
    ?_ ?_ ?_ ?_
  · intro q lists
    split
    · exact ⟨_, rfl⟩
    · rcases lists with inside | inside | inside
      · exact .inl (subset q inside)
      · exact .inr (.inl inside)
      · exact .inr (.inr inside)
  · intro q that _ _ fits
    exact fits.mono rfl (subset q) id fun other strength _ live => keeps other strength live
  · rintro after ⟨⟩
    refine ⟨fits.counted, fun inside => absurd inside removed, fits.pooled, fits.flagged, ?_⟩
    intro other owns
    cases referenced with
    | unchanged => exact fits.refAlive other owns
    | created strength absent =>
      obtain rfl := Option.some.inj owns
      exact ⟨strength, Heap.get?_alloc_self⟩
  · rintro after q that other ⟨⟩ different present owns shared
    cases referenced with
    | unchanged => exact different (owned.refOwned q p that this other present found shared owns)
    | created strength absent =>
      obtain rfl := Option.some.inj owns
      obtain ⟨strength, live⟩ := (owned.fits q that present).refAlive _ shared
      rw [Heap.get?_next] at live
      cases live

/-- Deleting one value of the pool. -/
theorem deleteNodeApiRef_owned {rest : List Nat} (owned : Owned store stack (p :: rest) held) :
    ∃ after, store.deleteNodeApiRef p = .ok after ∧ Owned after stack rest held ∧
      ∀ q, q ≠ p → after.objects.get? q = store.objects.get? q := by
  obtain ⟨this, found⟩ := owned.alive p (.inr (.inl List.mem_cons_self))
  have fits := owned.fits p this found
  obtain ⟨unused, -⟩ := fits.pooled List.mem_cons_self
  have notHeld : p ∉ held := by
    rw [← List.count_eq_zero, ← fits.counted, unused]
  have removed : p ∉ rest := (List.nodup_cons.mp owned.poolDistinct).1
  obtain ⟨references, deleted, dereferenced⟩ := deleteNodeApiRef_alive found fits.refAlive
  refine ⟨_, deleted, ?_, fun q different => Heap.get?_set_of_ne _ different⟩
  apply owned.set found owned.stackDistinct (List.nodup_cons.mp owned.poolDistinct).2
  · intro q lists
    split
    · rename_i same
      subst same
      -- Of the three lists only the stack can still hold the object.
      have onStack : q ∈ stack := by
        rcases lists with inside | inside | inside
        · exact inside
        · exact absurd inside removed
        · exact absurd inside notHeld
      simp [remains, fits.onStack onStack]
    · rcases lists with inside | inside | inside
      · exact .inl inside
      · exact .inr (.inl (List.mem_cons_of_mem p inside))
      · exact .inr (.inr inside)
  · intro q that different present fitsOther
    apply fitsOther.mono rfl id (List.mem_cons_of_mem p)
    intro ref strength owns live
    rw [dereferenced.others ref fun shared =>
      different (owned.refOwned q p that this ref present found owns shared)]
    exact live
  · intro after left
    unfold remains at left
    split at left
    · obtain rfl := Option.some.inj left
      exact ⟨fits.counted, fits.onStack, fun inside => absurd inside removed, fun _ => unused,
        fun ref owns => by cases owns⟩
    · cases left
  · intro after q that ref left _ _ owns
    unfold remains at left
    split at left
    · obtain rfl := Option.some.inj left
      cases owns
    · cases left

/-- Popping a scope none of whose values is flagged. -/
theorem deleteStackValues_owned (values : List Nat) : ∀ (store : Store) (kept : List Nat),
    Owned store (kept ++ values) pool held →
    (∀ p ∈ values, ∀ this, store.objects.get? p = some this → this.canBeDeletedFromStack = false) →
    ∃ after, values.foldlM Store.deleteStackValue store = .ok after ∧
      Owned after kept pool held := by
  induction values with
  | nil =>
    intro store kept owned _
    exact ⟨store, rfl, by rwa [List.append_nil] at owned⟩
  | cons p rest ih =>
    intro store kept owned unflagged
    obtain ⟨middle, deleted, owned', same⟩ :=
      deleteStackValue_owned owned (unflagged p List.mem_cons_self)
    have distinct := (List.nodup_append.mp owned.stackDistinct).2.1
    obtain ⟨after, finished, ownedAfter⟩ := ih middle kept owned' (by
      intro q inside this present
      have different : q ≠ p := by
        rintro rfl
        exact (List.nodup_cons.mp distinct).1 inside
      rw [same q different] at present
      exact unflagged q (List.mem_cons_of_mem p inside) this present)
    exact ⟨after, by rw [List.foldlM_cons, deleted]; exact finished, ownedAfter⟩

/-- A flagged value in the popped scope is used after it is deleted. -/
theorem deleteStackValues_flagged (values : List Nat) : ∀ (store : Store) (kept : List Nat),
    Owned store (kept ++ values) pool held →
    (∃ p ∈ values, ∃ this, store.objects.get? p = some this ∧ this.canBeDeletedFromStack = true) →
    ∃ p, values.foldlM Store.deleteStackValue store =
      .error (.object (.useAfterDelete p)) := by
  induction values with
  | nil =>
    rintro store kept owned ⟨p, inside, -⟩
    cases inside
  | cons p rest ih =>
    rintro store kept owned ⟨q, inside, that, present, flagged⟩
    have member : p ∈ kept ++ p :: rest := by simp
    obtain ⟨this, found⟩ := owned.alive p (.inl member)
    have value := (owned.fits p this found).onStack member
    rw [List.foldlM_cons]
    by_cases here : this.canBeDeletedFromStack = true
    · exact ⟨p, by rw [deleteStackValue_flagged found value here]; rfl⟩
    · obtain ⟨middle, deleted, owned', same⟩ := deleteStackValue_owned owned
        (unflagged_of_found found (Bool.eq_false_iff.mpr here))
      have different : q ≠ p := by
        rintro rfl
        obtain rfl := Option.some.inj (found.symm.trans present)
        exact here flagged
      have later : q ∈ rest := (List.mem_cons.mp inside).resolve_left different
      rw [deleted]
      exact ih middle kept owned' ⟨q, later, that, (same q different).trans present, flagged⟩

theorem deleteNodeApiRefs_owned (values : List Nat) : ∀ store : Store,
    Owned store stack values held →
    ∃ after, values.foldlM Store.deleteNodeApiRef store = .ok after ∧
      Owned after stack [] held ∧
      ∀ q, q ∉ values → after.objects.get? q = store.objects.get? q := by
  induction values with
  | nil => exact fun store owned => ⟨store, rfl, owned, fun _ _ => rfl⟩
  | cons p rest ih =>
    intro store owned
    obtain ⟨middle, deleted, owned', same⟩ := deleteNodeApiRef_owned owned
    obtain ⟨after, finished, ownedAfter, others⟩ := ih middle owned'
    refine ⟨after, by rw [List.foldlM_cons, deleted]; exact finished, ownedAfter, ?_⟩
    intro q outside
    rw [List.mem_cons, not_or] at outside
    rw [others q outside.2, same q outside.1]

end

/-! ## The runtime -/

/-- Between operations the pool that is not selected is empty, and the open
scopes are nested in the stack. -/
structure Invariant (runtime : NodeApiJsiRuntime) : Prop where
  owned : Owned runtime.store runtime.stackValues runtime.pendingDeletions.selected runtime.held
  emptied : runtime.pendingDeletions.pool (!runtime.pendingDeletions.poolSelector) = []
  nested : runtime.stackScopes.Pairwise (· ≥ ·)
  within : ∀ size ∈ runtime.stackScopes, size ≤ runtime.stackValues.length

def NodeApiJsiRuntime.flagged (runtime : NodeApiJsiRuntime) (p : Nat) : Bool :=
  (runtime.store.objects.get? p).any (·.canBeDeletedFromStack)

/-- No value of the scope that is popped has been left to the stack to delete. -/
def Unflagged (runtime : NodeApiJsiRuntime) : Action → Prop
  | .popPointerValueScope =>
      ∀ p ∈ runtime.stackValues.drop (runtime.stackScopes.headD 0), runtime.flagged p = false
  | .pushPointerValueScope | .make _ _ | .clone _ | .getValue _ _ | .invalidate _
  | .deletePointerValues => True

instance (runtime : NodeApiJsiRuntime) : ∀ action, Decidable (Unflagged runtime action)
  | .popPointerValueScope => inferInstanceAs (Decidable (∀ p ∈ _, _))
  | .pushPointerValueScope | .make _ _ | .clone _ | .getValue _ _ | .invalidate _
  | .deletePointerValues => isTrue trivial

/-- No object and no reference is touched after its deletion or deleted again. -/
def LifetimeSafe : Except Failure NodeApiJsiRuntime → Prop
  | .ok _ => True
  | .error failure => failure = .checkFailed

/-- The operation ends in order, or a check fails. -/
def Kept (outcome : Except Failure NodeApiJsiRuntime) : Prop :=
  outcome = .error .checkFailed ∨ ∃ next, outcome = .ok next ∧ Invariant next

theorem Kept.safe {outcome : Except Failure NodeApiJsiRuntime} (kept : Kept outcome) :
    LifetimeSafe outcome ∧ ∀ next, outcome = .ok next → Invariant next := by
  rcases kept with rfl | ⟨next, rfl, invariant⟩
  · exact ⟨rfl, fun _ impossible => by cases impossible⟩
  · refine ⟨trivial, ?_⟩
    rintro _ ⟨⟩
    exact invariant

section

variable {runtime : NodeApiJsiRuntime}

theorem pushPointerValueScope_invariant (invariant : Invariant runtime) :
    Invariant runtime.pushPointerValueScope where
  owned := invariant.owned
  emptied := invariant.emptied
  nested := List.pairwise_cons.mpr ⟨invariant.within, invariant.nested⟩
  within size inside := by
    rcases List.mem_cons.mp inside with rfl | inside
    · exact Nat.le_refl _
    · exact invariant.within size inside

theorem make_owned {store : Store} {stack pool held : List Nat}
    (pointerKind : NodeApiPointerValueKind) (initialRefCount : Nat)
    (owned : Owned store stack pool held) :
    Owned
      ⟨store.objects.alloc { value := true, refCount := initialRefCount, pointerKind },
        store.references⟩
      (stack ++ [store.objects.next]) pool
      (List.replicate initialRefCount store.objects.next ++ held) := by
  have fresh : ∀ {list : List Nat}, (∀ p ∈ list, ∃ this, store.objects.get? p = some this) →
      store.objects.next ∉ list := by
    intro list alive inside
    obtain ⟨this, present⟩ := alive _ inside
    rw [Heap.get?_next] at present
    cases present
  have notOnStack := fresh fun p inside => owned.alive p (.inl inside)
  have notPooled := fresh fun p inside => owned.alive p (.inr (.inl inside))
  have notHeld := fresh fun p inside => owned.alive p (.inr (.inr inside))
  have counts : ∀ p, p ≠ store.objects.next →
      (List.replicate initialRefCount store.objects.next ++ held).count p = held.count p := by
    intro p different
    rw [List.count_append, List.count_replicate]
    simp [Ne.symm different]
  refine ⟨?_, owned.poolDistinct, ?_, ?_, ?_⟩
  · rw [List.nodup_append]
    refine ⟨owned.stackDistinct, List.nodup_singleton _, ?_⟩
    rintro p inside q last rfl
    rw [List.mem_singleton.mp last] at inside
    exact notOnStack inside
  · intro p lists
    by_cases same : p = store.objects.next
    · subst same
      exact ⟨_, Heap.get?_alloc_self⟩
    · have before : p ∈ stack ∨ p ∈ pool ∨ p ∈ held := by
        simpa [same, List.mem_replicate] using lists
      obtain ⟨this, present⟩ := owned.alive p before
      exact ⟨this, Heap.get?_alloc_of_some present⟩
  · intro p this present
    rcases Heap.get?_alloc_some present with ⟨rfl, rfl⟩ | before
    · refine ⟨?_, fun _ => rfl, fun inside => absurd inside notPooled, nofun, nofun⟩
      rw [List.count_append, List.count_replicate_self, List.count_eq_zero.mpr notHeld]
      rfl
    · have different : p ≠ store.objects.next := Nat.ne_of_lt (Heap.address_lt before)
      refine (owned.fits p this before).mono (counts p different) ?_ id fun _ _ _ live => live
      intro inside
      simpa [different] using inside
  · intro p q this that ref presentP presentQ refP refQ
    rcases Heap.get?_alloc_some presentP with ⟨rfl, rfl⟩ | beforeP
    · cases refP
    · rcases Heap.get?_alloc_some presentQ with ⟨rfl, rfl⟩ | beforeQ
      · cases refQ
      · exact owned.refOwned p q this that ref beforeP beforeQ refP refQ

theorem within_append (invariant : Invariant runtime) (p : Nat) :
    ∀ size ∈ runtime.stackScopes, size ≤ (runtime.stackValues ++ [p]).length := by
  intro size inside
  have bound := invariant.within size inside
  rw [List.length_append]
  omega

theorem make_invariant (invariant : Invariant runtime) (pointerKind : NodeApiPointerValueKind)
    (initialRefCount : Nat) : Invariant (runtime.make pointerKind initialRefCount) where
  owned := make_owned pointerKind initialRefCount invariant.owned
  emptied := invariant.emptied
  nested := invariant.nested
  within := within_append invariant _

/-- Changes of one object that keep its reference. -/
theorem Owned.write {store : Store} {stack pool held stack' pool' held' : List Nat} {p : Nat}
    {this after : NodeApiRefCountedPointerValue} (owned : Owned store stack pool held)
    (found : store.objects.get? p = some this) (ref : after.ref = this.ref)
    (stackDistinct : stack'.Nodup) (poolDistinct : pool'.Nodup)
    (alive : ∀ q, q ≠ p → q ∈ stack' ∨ q ∈ pool' ∨ q ∈ held' → q ∈ stack ∨ q ∈ pool ∨ q ∈ held)
    (others : ∀ q, q ≠ p →
      held'.count q = held.count q ∧ (q ∈ stack' → q ∈ stack) ∧ (q ∈ pool' → q ∈ pool))
    (self : Fits store.references stack pool held p this →
      Fits store.references stack' pool' held' p after) :
    Owned ⟨store.objects.set p (some after), store.references⟩ stack' pool' held' := by
  apply owned.set found stackDistinct poolDistinct
  · intro q lists
    split
    · exact ⟨after, rfl⟩
    · exact alive q (by assumption) lists
  · intro q that different _ fits
    obtain ⟨count, onStack, pooled⟩ := others q different
    exact fits.mono count onStack pooled fun _ _ _ live => live
  · rintro _ ⟨⟩
    exact self (owned.fits p this found)
  · rintro _ q that shared ⟨⟩ different present owns other
    rw [ref] at owns
    exact different (owned.refOwned q p that this shared present found other owns)

theorem used_of_held {store : Store} {stack pool held : List Nat} {p : Nat}
    {this : NodeApiRefCountedPointerValue} (owned : Owned store stack pool held)
    (member : p ∈ held) (found : store.objects.get? p = some this) : this.refCount ≠ 0 := by
  rw [(owned.fits p this found).counted, Ne, List.count_eq_zero]
  exact fun absent => absent member

/-- A clone is one more holder, unless the count leaves its range. -/
theorem clone_cases {p : Nat} {this : NodeApiRefCountedPointerValue}
    (found : runtime.store.objects.get? p = some this) :
    runtime.clone p = .error .checkFailed ∨
      runtime.clone p = .ok { runtime with
        store := ⟨runtime.store.objects.set p (some { this with refCount := this.refCount + 1 }),
          runtime.store.references⟩
        held := p :: runtime.held } := by
  simp only [NodeApiJsiRuntime.clone, read_alive found, ok_bind]
  split
  · exact .inl rfl
  · split
    · exact .inl rfl
    · rw [write_alive _ found]
      exact .inr rfl

theorem clone_inv {next : NodeApiJsiRuntime} {p : Nat} {this : NodeApiRefCountedPointerValue}
    (found : runtime.store.objects.get? p = some this)
    (cloned : runtime.clone p = .ok next) :
    { runtime with
      store := ⟨runtime.store.objects.set p (some { this with refCount := this.refCount + 1 }),
        runtime.store.references⟩
      held := p :: runtime.held } = next := by
  rcases clone_cases found with failed | done
  · cases failed.symm.trans cloned
  · exact Except.ok.inj (done.symm.trans cloned)

theorem clone_kept {p : Nat} (invariant : Invariant runtime) (member : p ∈ runtime.held) :
    Kept (runtime.clone p) := by
  obtain ⟨this, found⟩ := invariant.owned.alive p (.inr (.inr member))
  rcases clone_cases found with failed | cloned
  · exact .inl failed
  · refine .inr ⟨_, cloned, ?_, invariant.emptied, invariant.nested, invariant.within⟩
    refine invariant.owned.write found rfl invariant.owned.stackDistinct
      invariant.owned.poolDistinct ?_ ?_ ?_
    · intro q different lists
      simpa [different] using lists
    · intro q different
      exact ⟨by rw [List.count_cons_of_ne (Ne.symm different)], id, id⟩
    · intro fits
      have used := used_of_held invariant.owned member found
      refine ⟨?_, fits.onStack, fun inside => absurd (fits.pooled inside).1 used,
        fun flagged => absurd (fits.flagged flagged) used, fits.refAlive⟩
      rw [List.count_cons_self, ← fits.counted]

theorem getValue_kept {p : Nat} (collected : Bool) (invariant : Invariant runtime)
    (member : p ∈ runtime.held) : Kept (runtime.getValue p collected) := by
  obtain ⟨this, found⟩ := invariant.owned.alive p (.inr (.inr member))
  simp only [NodeApiJsiRuntime.getValue, read_alive found, ok_bind]
  by_cases value : this.value = true
  · rw [ite_cond_eq_true _ _ (eq_true value)]
    exact .inr ⟨runtime, rfl, invariant⟩
  · rw [ite_cond_eq_false _ _ (eq_false value)]
    split
    · exact .inr ⟨runtime, rfl, invariant⟩
    · split
      · exact .inr ⟨runtime, rfl, invariant⟩
      · rw [write_alive _ found]
        have absent : p ∉ runtime.stackValues :=
          fun inside => value ((invariant.owned.fits p this found).onStack inside)
        suffices owned : Owned
            ⟨runtime.store.objects.set p (some { this with value := true }),
              runtime.store.references⟩ (runtime.stackValues ++ [p])
            runtime.pendingDeletions.selected runtime.held from
          .inr ⟨_, rfl, owned, invariant.emptied, invariant.nested, within_append invariant p⟩
        refine invariant.owned.write found rfl ?_ invariant.owned.poolDistinct ?_ ?_ ?_
        · refine List.nodup_append.mpr ⟨invariant.owned.stackDistinct, List.nodup_singleton p, ?_⟩
          rintro q inside r last rfl
          rw [List.mem_singleton.mp last] at inside
          exact absent inside
        · intro q different lists
          simpa [different] using lists
        · intro q different
          exact ⟨rfl, fun inside => by simpa [different] using inside, id⟩
        · exact fun fits => ⟨fits.counted, fun _ => rfl, fits.pooled, fits.flagged, fits.refAlive⟩

theorem selected_add (deletions : NodeApiPendingDeletions) (p : Nat) :
    (deletions.addPointerValueToDelete p).selected = deletions.selected ++ [p] ∧
      (deletions.addPointerValueToDelete p).poolSelector = deletions.poolSelector ∧
      (deletions.addPointerValueToDelete p).pool (!deletions.poolSelector) =
        deletions.pool (!deletions.poolSelector) := by
  obtain ⟨pool0, pool1, poolSelector⟩ := deletions
  cases poolSelector <;> exact ⟨rfl, rfl, rfl⟩

theorem count_erase_pred {held : List Nat} {p : Nat} {n : Nat} (counted : n = held.count p) :
    n - 1 = (held.erase p).count p := by
  rw [List.count_erase_self, counted]

/-- A release takes the object from its holder to the pool, if it was the last. -/
theorem Owned.release {store : Store} {stack pool held : List Nat} {p : Nat}
    {this : NodeApiRefCountedPointerValue} (owned : Owned store stack pool held)
    (member : p ∈ held) (found : store.objects.get? p = some this) :
    Owned ⟨store.objects.set p (some { this with refCount := this.refCount - 1 }),
      store.references⟩ stack (if this.refCount - 1 = 0 then pool ++ [p] else pool)
      (held.erase p) := by
  have fits := owned.fits p this found
  have used := used_of_held owned member found
  have unpooled : p ∉ pool := fun inside => used (fits.pooled inside).1
  have unflagged : this.canBeDeletedFromStack = false := by
    rw [← Bool.not_eq_true]
    exact fun flagged => used (fits.flagged flagged)
  have others : ∀ q, q ≠ p → (held.erase p).count q = held.count q :=
    fun q different => List.count_erase_of_ne different
  by_cases last : this.refCount - 1 = 0
  · rw [ite_cond_eq_true _ _ (eq_true last)]
    refine owned.write found rfl owned.stackDistinct ?_ ?_ ?_ ?_
    · refine List.nodup_append.mpr ⟨owned.poolDistinct, List.nodup_singleton p, ?_⟩
      rintro q inside r end_ rfl
      rw [List.mem_singleton.mp end_] at inside
      exact unpooled inside
    · intro q different lists
      rw [List.mem_append, List.mem_singleton, List.mem_erase_of_ne different] at lists
      tauto
    · intro q different
      refine ⟨others q different, id, fun inside => ?_⟩
      simpa [different] using inside
    · intro fits
      exact ⟨count_erase_pred fits.counted, fits.onStack, fun _ => ⟨last, unflagged⟩,
        fun flagged => absurd (fits.flagged flagged) used, fits.refAlive⟩
  · rw [ite_cond_eq_false _ _ (eq_false last)]
    refine owned.write found rfl owned.stackDistinct owned.poolDistinct ?_ ?_ ?_
    · intro q different lists
      rwa [List.mem_erase_of_ne different] at lists
    · exact fun q different => ⟨others q different, id, id⟩
    · intro fits
      exact ⟨count_erase_pred fits.counted, fits.onStack, fun inside => absurd inside unpooled,
        fun flagged => absurd (fits.flagged flagged) used, fits.refAlive⟩

/-- The runtime after a release. -/
def released (runtime : NodeApiJsiRuntime) (p : Nat) (this : NodeApiRefCountedPointerValue) :
    NodeApiJsiRuntime :=
  { runtime with
    store := ⟨runtime.store.objects.set p (some { this with refCount := this.refCount - 1 }),
      runtime.store.references⟩
    held := runtime.held.erase p
    pendingDeletions :=
      if this.refCount - 1 = 0 then runtime.pendingDeletions.addPointerValueToDelete p
      else runtime.pendingDeletions }

theorem invalidate_alive {p : Nat} {this : NodeApiRefCountedPointerValue}
    (found : runtime.store.objects.get? p = some this) (used : this.refCount ≠ 0) :
    runtime.invalidate p = .ok (released runtime p this) := by
  simp only [NodeApiJsiRuntime.invalidate, read_alive found, ok_bind, used, ↓reduceIte,
    write_alive _ found, released]
  split
  · rfl
  · rfl

theorem released_selected (runtime : NodeApiJsiRuntime) (p : Nat) (this : NodeApiRefCountedPointerValue) :
    (released runtime p this).pendingDeletions.selected =
        (if this.refCount - 1 = 0 then runtime.pendingDeletions.selected ++ [p]
          else runtime.pendingDeletions.selected) ∧
      (released runtime p this).pendingDeletions.poolSelector =
        runtime.pendingDeletions.poolSelector ∧
      (released runtime p this).pendingDeletions.pool (!runtime.pendingDeletions.poolSelector) =
        runtime.pendingDeletions.pool (!runtime.pendingDeletions.poolSelector) := by
  by_cases last : this.refCount - 1 = 0
  · simp only [released, last, ↓reduceIte]
    exact selected_add runtime.pendingDeletions p
  · simp only [released, last, ↓reduceIte, and_self]

theorem invalidate_kept {p : Nat} (invariant : Invariant runtime) (member : p ∈ runtime.held) :
    Kept (runtime.invalidate p) := by
  obtain ⟨this, found⟩ := invariant.owned.alive p (.inr (.inr member))
  obtain ⟨selected, selector, other⟩ := released_selected runtime p this
  refine .inr ⟨_, invalidate_alive found (used_of_held invariant.owned member found), ?_, ?_,
    invariant.nested, invariant.within⟩
  · rw [selected]
    exact invariant.owned.release member found
  · rw [selector, other]
    exact invariant.emptied

theorem deletePointerValues_kept (invariant : Invariant runtime) :
    ∃ next, runtime.deletePointerValues = .ok next ∧ Invariant next := by
  obtain ⟨store, stackScopes, stackValues, ⟨pool0, pool1, poolSelector⟩, held⟩ := runtime
  obtain ⟨owned, emptied, nested, within⟩ := invariant
  by_cases empty :
      (NodeApiPendingDeletions.selected ⟨pool0, pool1, poolSelector⟩).isEmpty = true
  · refine ⟨_, ?_, ⟨owned, emptied, nested, within⟩⟩
    simp only [NodeApiJsiRuntime.deletePointerValues, NodeApiPendingDeletions.deletePointerValues,
      empty, ↓reduceIte, ok_bind, pure_ok]
  · obtain ⟨after, deleted, ownedAfter, -⟩ := deleteNodeApiRefs_owned _ store owned
    cases poolSelector with
    | false =>
      obtain rfl : pool1 = [] := emptied
      refine ⟨⟨after, stackScopes, stackValues, ⟨[], [], true⟩, held⟩, ?_,
        ⟨ownedAfter, rfl, nested, within⟩⟩
      simp only [NodeApiJsiRuntime.deletePointerValues,
        NodeApiPendingDeletions.deletePointerValues, empty, Bool.false_eq_true, ↓reduceIte]
      change (pool0.foldlM Store.deleteNodeApiRef store >>= _) >>= _ = _
      rw [show pool0.foldlM Store.deleteNodeApiRef store = .ok after from deleted]
      rfl
    | true =>
      obtain rfl : pool0 = [] := emptied
      refine ⟨⟨after, stackScopes, stackValues, ⟨[], [], false⟩, held⟩, ?_,
        ⟨ownedAfter, rfl, nested, within⟩⟩
      simp only [NodeApiJsiRuntime.deletePointerValues,
        NodeApiPendingDeletions.deletePointerValues, empty, Bool.false_eq_true, ↓reduceIte]
      change (pool1.foldlM Store.deleteNodeApiRef store >>= _) >>= _ = _
      rw [show pool1.foldlM Store.deleteNodeApiRef store = .ok after from deleted]
      rfl

theorem unflagged_alive {p : Nat} {this : NodeApiRefCountedPointerValue}
    (found : runtime.store.objects.get? p = some this) :
    runtime.flagged p = this.canBeDeletedFromStack := by
  simp [NodeApiJsiRuntime.flagged, found]

theorem Invariant.within_innermost {newStackSize : Nat} {outer : List Nat}
    (invariant : Invariant runtime) (scopes : runtime.stackScopes = newStackSize :: outer) :
    newStackSize ≤ runtime.stackValues.length := by
  apply invariant.within
  rw [scopes]
  exact List.mem_cons_self

/-- The innermost scope is gone, with its values. -/
theorem Invariant.popped {newStackSize : Nat} {outer : List Nat} {store : Store}
    (invariant : Invariant runtime) (scopes : runtime.stackScopes = newStackSize :: outer)
    (owned : Owned store (runtime.stackValues.take newStackSize)
      runtime.pendingDeletions.selected runtime.held) :
    Invariant { runtime with
      store
      stackScopes := outer
      stackValues := runtime.stackValues.take newStackSize } := by
  have nested := invariant.nested
  rw [scopes, List.pairwise_cons] at nested
  refine ⟨owned, invariant.emptied, nested.2, fun size inside => ?_⟩
  rw [List.length_take, Nat.min_eq_left (invariant.within_innermost scopes)]
  exact nested.1 size inside

theorem popPointerValueScope_kept (invariant : Invariant runtime)
    (unflagged : Unflagged runtime .popPointerValueScope) : Kept runtime.popPointerValueScope := by
  unfold NodeApiJsiRuntime.popPointerValueScope
  split
  · exact .inl rfl
  · rename_i newStackSize outer scopes
    have within := invariant.within_innermost scopes
    have owned := invariant.owned
    rw [← List.take_append_drop newStackSize runtime.stackValues] at owned
    obtain ⟨after, popped, ownedAfter⟩ := deleteStackValues_owned _ runtime.store _ owned (by
      intro p inside this found
      rw [← unflagged_alive found]
      apply unflagged p
      rw [scopes]
      exact inside)
    rw [ite_cond_eq_false _ _ (eq_false (Nat.not_lt.mpr within)), popped, ok_bind]
    exact .inr (deletePointerValues_kept (invariant.popped scopes ownedAfter))

theorem popPointerValueScope_flagged (invariant : Invariant runtime)
    (open_ : runtime.stackScopes ≠ [])
    (flagged : ¬ Unflagged runtime .popPointerValueScope) :
    ∃ p, runtime.popPointerValueScope = .error (.object (.useAfterDelete p)) := by
  unfold NodeApiJsiRuntime.popPointerValueScope
  split
  · rename_i closed
    exact absurd closed open_
  · rename_i newStackSize outer scopes
    have within := invariant.within_innermost scopes
    have owned := invariant.owned
    rw [← List.take_append_drop newStackSize runtime.stackValues] at owned
    have found : ∃ p ∈ runtime.stackValues.drop newStackSize, ∃ this,
        runtime.store.objects.get? p = some this ∧ this.canBeDeletedFromStack = true := by
      simp only [Unflagged, scopes, List.headD_cons, not_forall, Bool.not_eq_false] at flagged
      obtain ⟨p, inside, marked⟩ := flagged
      obtain ⟨this, found⟩ := owned.alive p (.inl (List.mem_append_right _ inside))
      exact ⟨p, inside, this, found, by rwa [unflagged_alive found] at marked⟩
    obtain ⟨p, faulted⟩ := deleteStackValues_flagged _ runtime.store _ owned found
    refine ⟨p, ?_⟩
    rw [ite_cond_eq_false _ _ (eq_false (Nat.not_lt.mpr within)), faulted]
    rfl

theorem call_kept {action : Action} {outcome : Except Failure NodeApiJsiRuntime}
    (invariant : Invariant runtime) (unflagged : Unflagged runtime action)
    (called : call runtime action = some outcome) : Kept outcome := by
  cases action with
  | pushPointerValueScope =>
    obtain rfl := Option.some.inj called
    exact .inr ⟨_, rfl, pushPointerValueScope_invariant invariant⟩
  | popPointerValueScope =>
    obtain ⟨-, popped⟩ := Option.ite_none_right_eq_some.mp called
    obtain rfl := Option.some.inj popped
    exact popPointerValueScope_kept invariant unflagged
  | make pointerKind initialRefCount =>
    obtain ⟨-, made⟩ := Option.ite_none_right_eq_some.mp called
    obtain rfl := Option.some.inj made
    exact .inr ⟨_, rfl, make_invariant invariant pointerKind initialRefCount⟩
  | clone p =>
    obtain ⟨member, cloned⟩ := Option.ite_none_right_eq_some.mp called
    obtain rfl := Option.some.inj cloned
    exact clone_kept invariant member
  | getValue p collected =>
    obtain ⟨member, read⟩ := Option.ite_none_right_eq_some.mp called
    obtain rfl := Option.some.inj read
    exact getValue_kept collected invariant member
  | invalidate p =>
    obtain ⟨member, released⟩ := Option.ite_none_right_eq_some.mp called
    obtain rfl := Option.some.inj released
    exact invalidate_kept invariant member
  | deletePointerValues =>
    obtain rfl := Option.some.inj called
    exact .inr (deletePointerValues_kept invariant)

end

theorem start_invariant : Invariant {} where
  owned := by
    refine ⟨List.nodup_nil, List.nodup_nil, ?_, ?_, ?_⟩
    · rintro p (inside | inside | inside) <;> cases inside
    · intro p this found
      cases found
    · intro p q this that ref found
      cases found
  emptied := rfl
  nested := List.Pairwise.nil
  within := nofun

/-- Objects and references are used within their lifetime along a whole run
exactly when every scope is popped before one of its values has been left to the
stack to delete. -/
theorem lifetimeSafe_iff_unflagged (trace : List Action)
    (outcome : Except Failure NodeApiJsiRuntime)
    (ran : nodeApiJsiRuntime.run trace = some outcome) :
    nodeApiJsiRuntime.SafeAlong LifetimeSafe nodeApiJsiRuntime.start trace ↔
      nodeApiJsiRuntime.Meets Unflagged nodeApiJsiRuntime.start trace := by
  refine Program.safeAlong_iff_meets Invariant (fun _ _ => trivial) ?_ ?_ trace _ outcome
    start_invariant ran
  · intro runtime action reached invariant unflagged called
    exact (call_kept invariant unflagged called).safe
  · intro runtime action reached invariant flagged called
    cases action with
    | popPointerValueScope =>
      obtain ⟨scopes, popped⟩ := Option.ite_none_right_eq_some.mp called
      obtain rfl := Option.some.inj popped
      obtain ⟨p, faulted⟩ := popPointerValueScope_flagged invariant scopes flagged
      rw [faulted]
      exact fun safe => by cases safe
    | pushPointerValueScope | make _ _ | clone _ | getValue _ _ | invalidate _
    | deletePointerValues => exact absurd trivial flagged

/-- A value that outlives its scope, is looked up again, and is released after
the scope of that look-up. -/
theorem lifetimeSafe_value_outlives_scope :
    nodeApiJsiRuntime.SafeAlong LifetimeSafe nodeApiJsiRuntime.start
      [.pushPointerValueScope, .make .object 1, .popPointerValueScope, .pushPointerValueScope,
        .getValue 0 false, .clone 0, .popPointerValueScope, .invalidate 0, .invalidate 0,
        .deletePointerValues] :=
  (lifetimeSafe_iff_unflagged _ _ rfl).mpr (by decide)

/-- A value of the outer scope is released, an inner scope is popped, and then the
outer one. -/
theorem outer_value_used_after_delete :
    ¬ nodeApiJsiRuntime.SafeAlong LifetimeSafe nodeApiJsiRuntime.start
      [.pushPointerValueScope, .make .object 1, .invalidate 0, .pushPointerValueScope,
        .popPointerValueScope, .popPointerValueScope] := by
  intro along
  have faulted : nodeApiJsiRuntime.run
      [.pushPointerValueScope, .make .object 1, .invalidate 0, .pushPointerValueScope,
        .popPointerValueScope, .popPointerValueScope] =
      some (.error (.object (.useAfterDelete 0))) := rfl
  cases along _ [] _ (List.append_nil _).symm faulted

end V8Jsi.PointerValue
