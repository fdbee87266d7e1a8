import V8Jsi.PointerLifetime

set_option autoImplicit false

/- The reclamation of pointer values: scopes popped value by value while other
threads release their pointers, and the destruction of the runtime. -/
namespace V8Jsi.PointerReclaim

open Runs Heaps Outcome PointerValue

/-- What the JS thread is doing: the loop of `popPointerValueScope` over the values
of the scope, the switch of the pools under the lock, and the loop over the pool
that is emptied. -/
inductive Phase
  | idle
  | clearing (values : List Nat)
  | switching
  | deleting (values : List Nat)
  | destroyed
  deriving DecidableEq, Repr

/-- `holders` are the references that the fields of the runtime own. `doomed` records
the objects without references, with their `napi_ref`s, when the last pop of an
outermost scope began. -/
structure Lifecycle where
  runtime : NodeApiJsiRuntime
  phase : Phase := .idle
  holders : List Nat
  doomed : List (Nat × Option Nat) := []
  deriving DecidableEq, Repr

/-- The values that the constructor makes: `propertyId_`, then `Global` and `Error`. -/
def constructorKinds : List NodeApiPointerValueKind :=
  List.replicate 10 .string ++ List.replicate 2 .symbol ++ List.replicate 10 .string ++
    List.replicate 2 .object

def constructorActions : List PointerValue.Action :=
  [.pushPointerValueScope] ++ constructorKinds.map (.make · 1) ++ [.popPointerValueScope]

/-- The runtime after its constructor. -/
def constructed : NodeApiJsiRuntime :=
  match nodeApiJsiRuntime.run constructorActions with
  | some (.ok runtime) => runtime
  | some (.error _) | none => {}

namespace Lifecycle

/-- The live objects that nothing refers to, with their references. -/
def unused (state : Lifecycle) : List (Nat × Option Nat) :=
  (List.range state.runtime.store.objects.next).filterMap fun p =>
    (state.runtime.store.objects.get? p).bind fun this =>
      if this.refCount = 0 then some (p, this.ref) else none

/-- The beginning of `popPointerValueScope`. -/
def beginPop (state : Lifecycle) : Except Failure Lifecycle :=
  match state.runtime.stackScopes with
  | [] => throw .checkFailed
  | newStackSize :: stackScopes =>
      if newStackSize > state.runtime.stackValues.length then throw .stackRange
      else
        return { state with
          runtime := { state.runtime with
            stackScopes
            stackValues := state.runtime.stackValues.take newStackSize }
          phase := .clearing (state.runtime.stackValues.drop newStackSize)
          doomed := if stackScopes = [] then state.unused else state.doomed }

/-- The next step of the JS thread in `popPointerValueScope`. -/
def continuePop (state : Lifecycle) : Option (Except Failure Lifecycle) :=
  match state.phase with
  | .idle | .destroyed => none
  | .clearing [] => some (.ok { state with phase := .switching })
  | .clearing (p :: values) => some do
      let store ← state.runtime.store.deleteStackValue p
      return { state with runtime := { state.runtime with store }, phase := .clearing values }
  | .switching =>
      let deletions := state.runtime.pendingDeletions
      if deletions.selected.isEmpty then some (.ok { state with phase := .idle })
      else
        let switched := { deletions with poolSelector := !deletions.poolSelector }
        some (.ok { state with
          runtime := { state.runtime with pendingDeletions := switched }
          phase := .deleting (switched.pool !switched.poolSelector) })
  | .deleting [] =>
      let deletions := state.runtime.pendingDeletions
      some (.ok { state with
        runtime := { state.runtime with
          pendingDeletions := deletions.setPool [] !deletions.poolSelector }
        phase := .idle })
  | .deleting (p :: values) => some do
      let store ← state.runtime.store.deleteNodeApiRef p
      return { state with runtime := { state.runtime with store }, phase := .deleting values }

def lift (state : Lifecycle) (outcome : Except Failure NodeApiJsiRuntime) :
    Except Failure Lifecycle := do
  let runtime ← outcome
  return { state with runtime }

/-- `~NodeApiJsiRuntime` deletes nothing; the fields then release what they hold. The
objects keep the `NodeApiPendingDeletions` alive. -/
def destroy (state : Lifecycle) : Except Failure Lifecycle := do
  let runtime ← state.holders.foldlM NodeApiJsiRuntime.invalidate state.runtime
  return { state with runtime, holders := [], phase := .destroyed }

/-- The `refCount_` of `NodeApiPendingDeletions`: one for the runtime, and one for the
field `pendingDeletions_` of each object. It is deleted at zero. -/
def pendingDeletionsRefCount (state : Lifecycle) : Nat :=
  state.runtime.store.objects.cells.countP Option.isSome +
    if state.phase = .destroyed then 0 else 1

end Lifecycle

inductive Action
  | pushPointerValueScope
  | popPointerValueScope
  | continuePop
  | make (pointerKind : NodeApiPointerValueKind) (initialRefCount : Nat)
  | clone (p : Nat)
  | getValue (p : Nat) (collected : Bool)
  | hold (p : Nat)
  | invalidate (p : Nat)
  | destroy
  deriving DecidableEq, Repr

/-- Pointers are released at any time and from any thread. Everything else happens on
the JS thread, and values are made and looked up in a scope. With `hold` a field of
the runtime takes over a reference. -/
def call (state : Lifecycle) : Action → Option (Except Failure Lifecycle)
  | .pushPointerValueScope =>
      if state.phase = .idle then
        some (.ok { state with runtime := state.runtime.pushPointerValueScope })
      else none
  | .popPointerValueScope =>
      if state.phase = .idle ∧ state.runtime.stackScopes ≠ [] then some state.beginPop else none
  | .continuePop => state.continuePop
  | .make pointerKind initialRefCount =>
      if state.phase = .idle ∧ state.runtime.stackScopes ≠ [] ∧ 1 ≤ initialRefCount then
        some (.ok { state with runtime := state.runtime.make pointerKind initialRefCount })
      else none
  | .clone p =>
      if state.phase = .idle ∧ p ∈ state.runtime.held then
        some (state.lift (state.runtime.clone p))
      else none
  | .getValue p collected =>
      if state.phase = .idle ∧ state.runtime.stackScopes ≠ [] ∧ p ∈ state.runtime.held then
        some (state.lift (state.runtime.getValue p collected))
      else none
  | .hold p =>
      if state.phase = .idle ∧ state.holders.count p < state.runtime.held.count p then
        some (.ok { state with holders := p :: state.holders })
      else none
  | .invalidate p =>
      if state.holders.count p < state.runtime.held.count p then
        some (state.lift (state.runtime.invalidate p))
      else none
  | .destroy =>
      if state.phase = .idle ∧ state.runtime.stackScopes = [] then some state.destroy else none

def lifecycleProgram : Program Lifecycle Action Failure where
  start := { runtime := constructed, holders := constructed.held }
  call := call

/-! ## No leak -/

/-- The object has been deleted, and its reference with it. -/
structure Gone (store : Store) (p : Nat) (ref : Option Nat) : Prop where
  allocated : p < store.objects.next
  deleted : store.objects.get? p = none
  refDeleted : ∀ address, ref = some address →
    address < store.references.next ∧ store.references.get? address = none

/-- What had no references when the last pop of an outermost scope began is deleted
when it has ended; and nothing is left once the runtime is destroyed and every pointer
released. -/
structure Reclaimed (state : Lifecycle) : Prop where
  popped : state.phase = .idle → ∀ p ref, (p, ref) ∈ state.doomed →
    Gone state.runtime.store p ref
  destroyed : state.phase = .destroyed → state.runtime.held = [] →
    (∀ p, state.runtime.store.objects.get? p = none) ∧ state.pendingDeletionsRefCount = 0

def NothingLeaks : Except Failure Lifecycle → Prop
  | .ok state => Reclaimed state
  | .error failure => failure = .checkFailed

/-- No value that is popped has been left to the stack to delete, and the last pointer
is not released after the destruction of the runtime. -/
def Reclaims (state : Lifecycle) : Action → Prop
  | .continuePop =>
      match state.phase with
      | .clearing (p :: _) => state.runtime.flagged p = false
      | .idle | .clearing [] | .switching | .deleting _ | .destroyed => True
  | .invalidate p => state.phase = .destroyed → state.runtime.held ≠ [p]
  | .destroy => state.runtime.held.diff state.holders ≠ []
  | .pushPointerValueScope | .popPointerValueScope | .make _ _ | .clone _ | .getValue _ _
  | .hold _ => True

/-! ## Where unused objects are -/

/-- An object with a value is on the stack; one without references is in a pool, or
left to the stack to delete. -/
structure Accounts (stack pool : List Nat) (p : Nat) (this : NodeApiRefCountedPointerValue) :
    Prop where
  onStack : this.value = true → p ∈ stack
  pooled : this.refCount = 0 → p ∈ pool ∨ this.canBeDeletedFromStack = true
  flagged : this.canBeDeletedFromStack = true → this.value = true

def Accounted (store : Store) (stack pool : List Nat) : Prop :=
  ∀ p this, store.objects.get? p = some this → Accounts stack pool p this

theorem Accounted.set {store : Store} {references : Heap Nat} {stack pool stack' pool' : List Nat}
    {p : Nat} {this : NodeApiRefCountedPointerValue} {cell : Option NodeApiRefCountedPointerValue}
    (accounted : Accounted store stack pool) (found : store.objects.get? p = some this)
    (keepsStack : ∀ q, q ≠ p → q ∈ stack → q ∈ stack')
    (keepsPool : ∀ q, q ≠ p → q ∈ pool → q ∈ pool')
    (self : ∀ after, cell = some after → Accounts stack pool p this →
      Accounts stack' pool' p after) :
    Accounted ⟨store.objects.set p cell, references⟩ stack' pool' := by
  intro q that present
  rcases Heap.get?_set_some found present with ⟨rfl, stored⟩ | ⟨different, before⟩
  · exact self that stored (accounted q this found)
  · have accounts := accounted q that before
    refine ⟨fun value => keepsStack q different (accounts.onStack value), ?_, accounts.flagged⟩
    intro unused
    rcases accounts.pooled unused with pooled | flagged
    · exact .inl (keepsPool q different pooled)
    · exact .inr flagged

/-- What is deleted stays deleted. -/
structure Later (before after : Store) : Prop where
  objects : before.objects.next ≤ after.objects.next
  deleted : ∀ p, p < before.objects.next → before.objects.get? p = none →
    after.objects.get? p = none
  references : before.references.next ≤ after.references.next
  refDeleted : ∀ ref, ref < before.references.next → before.references.get? ref = none →
    after.references.get? ref = none

theorem Later.refl (store : Store) : Later store store :=
  ⟨Nat.le_refl _, fun _ _ gone => gone, Nat.le_refl _, fun _ _ gone => gone⟩

theorem Gone.later {before after : Store} {p : Nat} {ref : Option Nat} (gone : Gone before p ref)
    (later : Later before after) : Gone after p ref where
  allocated := gone.allocated.trans_le later.objects
  deleted := later.deleted p gone.allocated gone.deleted
  refDeleted address owns := by
    obtain ⟨inside, deleted⟩ := gone.refDeleted address owns
    exact ⟨inside.trans_le later.references, later.refDeleted address inside deleted⟩

/-- Changes of one live object. -/
theorem Later.set {store : Store} {references : Heap Nat} {p : Nat}
    {this : NodeApiRefCountedPointerValue} (cell : Option NodeApiRefCountedPointerValue)
    (found : store.objects.get? p = some this)
    (next : store.references.next ≤ references.next)
    (refDeleted : ∀ ref, ref < store.references.next → store.references.get? ref = none →
      references.get? ref = none) :
    Later store ⟨store.objects.set p cell, references⟩ where
  objects := (Heap.next_set cell).ge
  deleted q inside gone := by
    have different : q ≠ p := by
      rintro rfl
      rw [found] at gone
      cases gone
    exact (Heap.get?_set_of_ne cell different).trans gone
  references := next
  refDeleted := refDeleted

theorem Later.write {store : Store} {p : Nat} {this : NodeApiRefCountedPointerValue}
    (cell : Option NodeApiRefCountedPointerValue) (found : store.objects.get? p = some this) :
    Later store ⟨store.objects.set p cell, store.references⟩ :=
  Later.set cell found (Nat.le_refl _) fun _ _ gone => gone

/-! ## The steps on the store -/

section

variable {store : Store} {p : Nat} {this : NodeApiRefCountedPointerValue}
  {kept rest stack pool held : List Nat}

/-- What the pop of one value makes of the object. -/
theorem deleteStackValue_accounted (owned : Owned store (kept ++ p :: rest) pool held)
    (accounted : Accounted store (kept ++ p :: rest) pool)
    (unflagged : ∀ this, store.objects.get? p = some this → this.canBeDeletedFromStack = false) :
    ∃ after, store.deleteStackValue p = .ok after ∧ Owned after (kept ++ rest) pool held ∧
      Accounted after (kept ++ rest) pool ∧ Later store after ∧
      ∀ q that, store.objects.get? q = some that → that.refCount = 0 →
        ∃ later, after.objects.get? q = some later ∧ later.refCount = 0 ∧ later.ref = that.ref := by
  have member : p ∈ kept ++ p :: rest := by simp
  obtain ⟨this, found⟩ := owned.alive p (.inl member)
  have value := (owned.fits p this found).onStack member
  have clears := deleteStackValue_unflagged found value (unflagged this found)
  obtain ⟨after, deleted, ownedAfter, others⟩ := deleteStackValue_owned owned unflagged
  have self : ∀ ref, Accounts (kept ++ p :: rest) pool p this →
      Accounts (kept ++ rest) pool p { this with value := false, ref := ref } := by
    intro ref before
    refine ⟨nofun, before.pooled, fun flagged => ?_⟩
    rw [unflagged this found] at flagged
    cases flagged
  refine ⟨after, deleted, ownedAfter, ?_⟩
  by_cases needed : this.refCount ≠ 0 ∧ this.ref = none
  · obtain ⟨strength, created⟩ := clearStackValue_created found value needed.1 needed.2
    obtain rfl := Except.ok.inj (deleted.symm.trans (clears.trans created))
    refine ⟨?_, ?_, ?_⟩
    · apply accounted.set found (fun q different inside => mem_popped different inside)
        fun _ _ inside => inside
      rintro _ ⟨⟩
      exact self _
    · apply Later.set _ found
      · rw [Heap.next_alloc]
        exact Nat.le_succ _
      · exact fun ref inside gone => (Heap.get?_alloc_of_lt inside).trans gone
    · intro q that present unused
      have different : q ≠ p := by
        rintro rfl
        obtain rfl := Option.some.inj (found.symm.trans present)
        exact needed.1 unused
      exact ⟨that, (others q different).trans present, unused, rfl⟩
  · obtain rfl := Except.ok.inj
      (deleted.symm.trans (clears.trans (clearStackValue_unchanged found needed)))
    refine ⟨?_, Later.write _ found, ?_⟩
    · apply accounted.set found (fun q different inside => mem_popped different inside)
        fun _ _ inside => inside
      rintro _ ⟨⟩
      exact self this.ref
    · intro q that present unused
      by_cases same : q = p
      · subst same
        obtain rfl := Option.some.inj (found.symm.trans present)
        exact ⟨_, Heap.get?_set_self _ found, unused, rfl⟩
      · exact ⟨that, (others q same).trans present, unused, rfl⟩

/-- An object of the pool is deleted, unless it is on the stack. -/
theorem deleteNodeApiRef_accounted (owned : Owned store stack (p :: rest) held)
    (accounted : Accounted store stack (p :: rest)) :
    ∃ after, store.deleteNodeApiRef p = .ok after ∧ Owned after stack rest held ∧
      Accounted after stack rest ∧ Later store after ∧
      (∀ q, q ≠ p → after.objects.get? q = store.objects.get? q) ∧
      (p ∉ stack → ∀ this, store.objects.get? p = some this → Gone after p this.ref) := by
  obtain ⟨this, found⟩ := owned.alive p (.inr (.inl List.mem_cons_self))
  have fits := owned.fits p this found
  obtain ⟨references, deleted, dereferenced⟩ := deleteNodeApiRef_alive found fits.refAlive
  obtain ⟨after, deletedOwned, ownedAfter, others⟩ := deleteNodeApiRef_owned owned
  obtain rfl := Except.ok.inj (deleted.symm.trans deletedOwned)
  refine ⟨_, deleted, ownedAfter, ?_, ?_, others, ?_⟩
  · apply accounted.set found (fun _ _ inside => inside)
    · intro q different inside
      exact (List.mem_cons.mp inside).resolve_left different
    · intro left stored before
      unfold remains at stored
      split at stored
      · rename_i value
        obtain rfl := Option.some.inj stored
        exact ⟨before.onStack, fun _ => .inr rfl, fun _ => value⟩
      · cases stored
  · apply Later.set _ found dereferenced.next.ge
    intro ref _ gone
    by_cases same : this.ref = some ref
    · exact dereferenced.deleted ref same
    · exact (dereferenced.others ref same).trans gone
  · intro offStack that present
    obtain rfl := Option.some.inj (found.symm.trans present)
    have cleared : this.value ≠ true := fun value => offStack ((accounted p this found).onStack value)
    refine ⟨?_, ?_, ?_⟩
    · rw [Heap.next_set]
      exact Heap.address_lt found
    · exact (Heap.get?_set_self _ found).trans (by simp [remains, cleared])
    · intro address owns
      obtain ⟨strength, live⟩ := fits.refAlive address owns
      rw [dereferenced.next]
      exact ⟨Heap.address_lt live, dereferenced.deleted address owns⟩

theorem Accounted.release (accounted : Accounted store stack pool)
    (found : store.objects.get? p = some this) :
    Accounted ⟨store.objects.set p (some { this with refCount := this.refCount - 1 }),
      store.references⟩ stack (if this.refCount - 1 = 0 then pool ++ [p] else pool) := by
  apply accounted.set found (fun _ _ inside => inside)
  · intro q _ inside
    split
    · exact List.mem_append_left _ inside
    · exact inside
  · rintro _ ⟨⟩ before
    refine ⟨before.onStack, fun unused => ?_, before.flagged⟩
    change this.refCount - 1 = 0 at unused
    rw [ite_cond_eq_true _ _ (eq_true unused)]
    exact .inl (List.mem_append_right _ (List.mem_singleton_self p))

end

/-! ## The phases -/

def Phase.clearingValues : Phase → List Nat
  | .clearing values => values
  | .idle | .switching | .deleting _ | .destroyed => []

def Phase.deletingValues : Phase → List Nat
  | .deleting values => values
  | .idle | .clearing _ | .switching | .destroyed => []

/-- The values on the stack, with those that the JS thread is popping. -/
def Lifecycle.stack (state : Lifecycle) : List Nat :=
  state.runtime.stackValues ++ state.phase.clearingValues

/-- The values to delete, those that the JS thread is deleting first. -/
def Lifecycle.pool (state : Lifecycle) : List Nat :=
  state.phase.deletingValues ++ state.runtime.pendingDeletions.selected

/-- While an outermost scope is popped, what it found unused is still to be deleted. -/
def InProgress (phase : Phase) (p : Nat) : Prop :=
  match phase with
  | .clearing _ | .switching => True
  | .deleting values => p ∈ values
  | .idle | .destroyed => False

def Waits (state : Lifecycle) (p : Nat) (ref : Option Nat) : Prop :=
  state.runtime.stackValues = [] ∧ InProgress state.phase p ∧
    ∃ this, state.runtime.store.objects.get? p = some this ∧ this.refCount = 0 ∧ this.ref = ref

structure Tracked (state : Lifecycle) : Prop where
  owned : Owned state.runtime.store state.stack state.pool state.runtime.held
  accounted : Accounted state.runtime.store state.stack state.pool
  emptied : (∀ values, state.phase ≠ .deleting values) →
    state.runtime.pendingDeletions.pool (!state.runtime.pendingDeletions.poolSelector) = []
  nested : state.runtime.stackScopes.Pairwise (· ≥ ·)
  within : ∀ size ∈ state.runtime.stackScopes, size ≤ state.runtime.stackValues.length
  outermost : ∀ size, state.runtime.stackScopes.getLast? = some size → size = 0
  bare : state.runtime.stackScopes = [] → state.runtime.stackValues = []
  holdersHeld : ∀ p, state.holders.count p ≤ state.runtime.held.count p
  cached : state.phase ≠ .destroyed → 0 ∈ state.holders
  kept : state.phase = .destroyed → ∃ this, state.runtime.store.objects.get? 0 = some this
  doomed : ∀ p ref, (p, ref) ∈ state.doomed →
    Gone state.runtime.store p ref ∨ Waits state p ref

section

variable {state : Lifecycle}

theorem Tracked.zero_alive (tracked : Tracked state) :
    ∃ this, state.runtime.store.objects.get? 0 = some this := by
  by_cases destroyed : state.phase = .destroyed
  · exact tracked.kept destroyed
  · have counted := List.count_pos_iff.mpr (tracked.cached destroyed)
    have held := List.count_pos_iff.mp (counted.trans_le (tracked.holdersHeld 0))
    exact tracked.owned.alive 0 (.inr (.inr held))

theorem Tracked.reclaimed (tracked : Tracked state)
    (kept : state.phase = .destroyed → state.runtime.held ≠ []) : Reclaimed state where
  popped idle p ref inside := by
    apply (tracked.doomed p ref inside).resolve_right
    intro waits
    have progress := waits.2.1
    rw [idle] at progress
    exact progress
  destroyed gone released := absurd released (kept gone)

/-- Between two pops nothing is waiting. -/
theorem Tracked.idle_gone (tracked : Tracked state) (idle : state.phase = .idle) {p : Nat}
    {ref : Option Nat} (inside : (p, ref) ∈ state.doomed) : Gone state.runtime.store p ref := by
  apply (tracked.doomed p ref inside).resolve_right
  intro waits
  have progress := waits.2.1
  rw [idle] at progress
  exact progress

theorem Tracked.idle_invariant (tracked : Tracked state) (idle : state.phase = .idle) :
    Invariant state.runtime where
  owned := by
    have owned := tracked.owned
    simp only [Lifecycle.stack, Lifecycle.pool, idle, Phase.clearingValues, Phase.deletingValues,
      List.append_nil, List.nil_append] at owned
    exact owned
  emptied := tracked.emptied (by rw [idle]; exact nofun)
  nested := tracked.nested
  within := tracked.within

theorem Tracked.idle_accounted (tracked : Tracked state) (idle : state.phase = .idle) :
    Accounted state.runtime.store state.runtime.stackValues
      state.runtime.pendingDeletions.selected := by
  have accounted := tracked.accounted
  simp only [Lifecycle.stack, Lifecycle.pool, idle, Phase.clearingValues, Phase.deletingValues,
    List.append_nil, List.nil_append] at accounted
  exact accounted

/-- A step of the JS thread between two pops. -/
theorem Tracked.idle_step {runtime : NodeApiJsiRuntime} (tracked : Tracked state)
    (idle : state.phase = .idle) (invariant : Invariant runtime)
    (accounted : Accounted runtime.store runtime.stackValues runtime.pendingDeletions.selected)
    (later : Later state.runtime.store runtime.store)
    (outermost : ∀ size, runtime.stackScopes.getLast? = some size → size = 0)
    (bare : runtime.stackScopes = [] → runtime.stackValues = [])
    (held : ∀ p, state.runtime.held.count p ≤ runtime.held.count p) :
    Tracked { state with runtime } where
  owned := by
    simp only [Lifecycle.stack, Lifecycle.pool, idle, Phase.clearingValues, Phase.deletingValues,
      List.append_nil, List.nil_append]
    exact invariant.owned
  accounted := by
    simp only [Lifecycle.stack, Lifecycle.pool, idle, Phase.clearingValues, Phase.deletingValues,
      List.append_nil, List.nil_append]
    exact accounted
  emptied _ := invariant.emptied
  nested := invariant.nested
  within := invariant.within
  outermost := outermost
  bare := bare
  holdersHeld p := (tracked.holdersHeld p).trans (held p)
  cached := tracked.cached
  kept gone := absurd gone (by simp [idle])
  doomed p ref inside := .inl ((tracked.idle_gone idle inside).later later)

theorem push_tracked (tracked : Tracked state) (idle : state.phase = .idle) :
    Tracked { state with runtime := state.runtime.pushPointerValueScope } := by
  apply tracked.idle_step idle
  · exact pushPointerValueScope_invariant (tracked.idle_invariant idle)
  · exact tracked.idle_accounted idle
  · exact Later.refl _
  · intro size last
    change (state.runtime.stackValues.length :: state.runtime.stackScopes).getLast? = some size
      at last
    rw [List.getLast?_cons] at last
    cases outer : state.runtime.stackScopes.getLast? with
    | none =>
      rw [outer, Option.getD_none] at last
      obtain rfl := Option.some.inj last
      rw [tracked.bare (List.getLast?_eq_none_iff.mp outer), List.length_nil]
    | some start =>
      rw [outer, Option.getD_some] at last
      obtain rfl := Option.some.inj last
      exact tracked.outermost start outer
  · exact fun none => absurd none (List.cons_ne_nil _ _)
  · exact fun _ => Nat.le_refl _

theorem make_tracked (tracked : Tracked state) (idle : state.phase = .idle)
    (open_ : state.runtime.stackScopes ≠ []) (pointerKind : NodeApiPointerValueKind)
    {initialRefCount : Nat} (used : 1 ≤ initialRefCount) :
    Tracked { state with runtime := state.runtime.make pointerKind initialRefCount } := by
  apply tracked.idle_step idle
  · exact make_invariant (tracked.idle_invariant idle) pointerKind initialRefCount
  · intro q that present
    rcases Heap.get?_alloc_some present with ⟨rfl, rfl⟩ | before
    · refine ⟨fun _ => List.mem_append_right _ (List.mem_singleton_self _), ?_, nofun⟩
      intro unused
      change initialRefCount = 0 at unused
      omega
    · have accounts := tracked.idle_accounted idle q that before
      exact ⟨fun value => List.mem_append_left _ (accounts.onStack value), accounts.pooled,
        accounts.flagged⟩
  · refine ⟨?_, ?_, Nat.le_refl _, fun _ _ gone => gone⟩
    · change _ ≤ (Heap.alloc _ _).next
      rw [Heap.next_alloc]
      exact Nat.le_succ _
    · exact fun p inside gone => (Heap.get?_alloc_of_lt inside).trans gone
  · exact tracked.outermost
  · exact fun none => absurd none open_
  · intro p
    change _ ≤ (List.replicate initialRefCount _ ++ state.runtime.held).count p
    rw [List.count_append]
    omega

/-- The operation ends in order, or one of its checks fails. -/
def Proceeds (outcome : Except Failure Lifecycle) : Prop :=
  outcome = .error .checkFailed ∨ ∃ next, outcome = .ok next ∧ Tracked next

theorem clone_proceeds {p : Nat} (tracked : Tracked state) (idle : state.phase = .idle)
    (member : p ∈ state.runtime.held) : Proceeds (state.lift (state.runtime.clone p)) := by
  have invariant := tracked.idle_invariant idle
  obtain ⟨this, found⟩ := invariant.owned.alive p (.inr (.inr member))
  rcases clone_kept invariant member with failed | ⟨next, cloned, kept⟩
  · exact .inl (by simp only [Lifecycle.lift, failed, error_bind])
  · refine .inr ⟨{ state with runtime := next }, ?_, ?_⟩
    · simp only [Lifecycle.lift, cloned, ok_bind, pure_ok]
    · obtain rfl := clone_inv found cloned
      apply tracked.idle_step idle kept
      · apply (tracked.idle_accounted idle).set found (fun _ _ inside => inside)
          (fun _ _ inside => inside)
        rintro _ ⟨⟩ before
        refine ⟨before.onStack, ?_, before.flagged⟩
        intro unused
        change this.refCount + 1 = 0 at unused
        omega
      · exact Later.write _ found
      · exact tracked.outermost
      · exact tracked.bare
      · intro q
        change _ ≤ (p :: state.runtime.held).count q
        rw [List.count_cons]
        omega

theorem getValue_proceeds {p : Nat} (collected : Bool) (tracked : Tracked state)
    (idle : state.phase = .idle) (open_ : state.runtime.stackScopes ≠ [])
    (member : p ∈ state.runtime.held) :
    Proceeds (state.lift (state.runtime.getValue p collected)) := by
  have invariant := tracked.idle_invariant idle
  obtain ⟨this, found⟩ := invariant.owned.alive p (.inr (.inr member))
  rcases getValue_kept collected invariant member with failed | ⟨next, looked, kept⟩
  · exact .inl (by simp only [Lifecycle.lift, failed, error_bind])
  · refine .inr ⟨{ state with runtime := next }, ?_, ?_⟩
    · simp only [Lifecycle.lift, looked, ok_bind, pure_ok]
    · have unchanged : state.runtime = next → Tracked { state with runtime := next } := by
        rintro rfl
        exact tracked
      simp only [NodeApiJsiRuntime.getValue, read_alive found, ok_bind, write_alive _ found,
        pure_ok] at looked
      split at looked
      · exact unchanged (Except.ok.inj looked)
      · split at looked
        · exact unchanged (Except.ok.inj looked)
        · split at looked
          · exact unchanged (Except.ok.inj looked)
          · obtain rfl := Except.ok.inj looked
            apply tracked.idle_step idle kept
            · apply (tracked.idle_accounted idle).set found
              · exact fun _ _ inside => List.mem_append_left _ inside
              · exact fun _ _ inside => inside
              · rintro _ ⟨⟩ before
                exact ⟨fun _ => List.mem_append_right _ (List.mem_singleton_self p),
                  before.pooled, fun _ => rfl⟩
            · exact Later.write _ found
            · exact tracked.outermost
            · exact fun none => absurd none open_
            · exact fun _ => Nat.le_refl _

theorem hold_tracked {p : Nat} (tracked : Tracked state)
    (free : state.holders.count p < state.runtime.held.count p) :
    Tracked { state with holders := p :: state.holders } where
  owned := tracked.owned
  accounted := tracked.accounted
  emptied := tracked.emptied
  nested := tracked.nested
  within := tracked.within
  outermost := tracked.outermost
  bare := tracked.bare
  holdersHeld q := by
    change (p :: state.holders).count q ≤ _
    by_cases same : q = p
    · subst same
      rw [List.count_cons_self]
      exact free
    · rw [List.count_cons_of_ne (Ne.symm same)]
      exact tracked.holdersHeld q
  cached alive := List.mem_cons_of_mem p (tracked.cached alive)
  kept := tracked.kept
  doomed := tracked.doomed

/-- Releases happen in every phase. -/
theorem released_tracked {p : Nat} {this : NodeApiRefCountedPointerValue} (tracked : Tracked state)
    (member : p ∈ state.runtime.held) (found : state.runtime.store.objects.get? p = some this)
    {holders : List Nat} (cached : state.phase ≠ .destroyed → 0 ∈ holders)
    (holdersHeld : ∀ q, holders.count q ≤ (state.runtime.held.erase p).count q) :
    Tracked { state with runtime := released state.runtime p this, holders } := by
  obtain ⟨selected, selector, other⟩ := released_selected state.runtime p this
  have used := used_of_held tracked.owned member found
  have pool : Lifecycle.pool { state with runtime := released state.runtime p this, holders } =
      if this.refCount - 1 = 0 then state.pool ++ [p] else state.pool := by
    simp only [Lifecycle.pool, selected]
    split
    · rw [List.append_assoc]
    · rfl
  have later : Later state.runtime.store (released state.runtime p this).store :=
    Later.write _ found
  refine ⟨?_, ?_, ?_, tracked.nested, tracked.within, tracked.outermost, tracked.bare, holdersHeld,
    cached, ?_, ?_⟩
  · rw [pool]
    exact tracked.owned.release member found
  · rw [pool]
    exact tracked.accounted.release found
  · intro resting
    rw [selector, other]
    exact tracked.emptied resting
  · intro gone
    obtain ⟨that, present⟩ := tracked.kept gone
    exact (Heap.exists_get?_set found).mpr ⟨that, present⟩
  · intro q ref inside
    rcases tracked.doomed q ref inside with gone | ⟨bottom, progress, that, present, unused, owns⟩
    · exact .inl (gone.later later)
    · refine .inr ⟨bottom, progress, that, ?_, unused, owns⟩
      have different : q ≠ p := by
        rintro rfl
        obtain rfl := Option.some.inj (found.symm.trans present)
        exact used unused
      exact (Heap.get?_set_of_ne _ different).trans present

theorem invalidate_proceeds {p : Nat} (tracked : Tracked state)
    (free : state.holders.count p < state.runtime.held.count p) :
    ∃ next, state.lift (state.runtime.invalidate p) = .ok next ∧ Tracked next ∧
      next.phase = state.phase ∧ next.runtime.held = state.runtime.held.erase p := by
  have member : p ∈ state.runtime.held := List.count_pos_iff.mp (by omega)
  obtain ⟨this, found⟩ := tracked.owned.alive p (.inr (.inr member))
  have alive := invalidate_alive found (used_of_held tracked.owned member found)
  refine ⟨{ state with runtime := released state.runtime p this }, ?_, ?_, rfl, rfl⟩
  · simp only [Lifecycle.lift, alive, ok_bind, pure_ok]
  · apply released_tracked tracked member found tracked.cached
    intro q
    by_cases same : q = p
    · subst same
      rw [List.count_erase_self]
      omega
    · rw [List.count_erase_of_ne same]
      exact tracked.holdersHeld q

/-- The fields of the runtime release what they hold. -/
theorem holders_tracked (holders : List Nat) : ∀ state : Lifecycle, Tracked state →
    state.phase = .destroyed → state.holders = holders →
    ∃ runtime, holders.foldlM NodeApiJsiRuntime.invalidate state.runtime = .ok runtime ∧
      Tracked { state with runtime, holders := [] } ∧
      runtime.held = state.runtime.held.diff holders := by
  induction holders with
  | nil =>
    intro state tracked gone none
    refine ⟨state.runtime, rfl, ?_, (List.diff_nil _).symm⟩
    rw [← none]
    exact tracked
  | cons p rest ih =>
    intro state tracked gone holders
    have counted := tracked.holdersHeld
    rw [holders] at counted
    have member : p ∈ state.runtime.held := by
      apply List.count_pos_iff.mp
      have := counted p
      rw [List.count_cons_self] at this
      omega
    obtain ⟨this, found⟩ := tracked.owned.alive p (.inr (.inr member))
    have alive := invalidate_alive found (used_of_held tracked.owned member found)
    have next : Tracked { state with runtime := released state.runtime p this, holders := rest } := by
      apply released_tracked tracked member found (fun alive => absurd gone alive)
      intro q
      have := counted q
      by_cases same : q = p
      · subst same
        rw [List.count_cons_self] at this
        rw [List.count_erase_self]
        omega
      · rw [List.count_cons_of_ne (Ne.symm same)] at this
        rwa [List.count_erase_of_ne same]
    obtain ⟨runtime, folded, finished, held⟩ := ih _ next gone rfl
    refine ⟨runtime, ?_, finished, ?_⟩
    · rw [List.foldlM_cons, alive]
      exact folded
    · rw [held, List.diff_cons]
      rfl

theorem destroy_proceeds (tracked : Tracked state) (idle : state.phase = .idle) :
    ∃ next, state.destroy = .ok next ∧ Tracked next ∧ next.phase = .destroyed ∧
      next.runtime.held = state.runtime.held.diff state.holders := by
  have destroyed : Tracked { state with phase := .destroyed } := by
    refine ⟨?_, ?_, ?_, tracked.nested, tracked.within, tracked.outermost, tracked.bare,
      tracked.holdersHeld, fun alive => absurd rfl alive, fun _ => tracked.zero_alive, ?_⟩
    · have owned := tracked.owned
      simp only [Lifecycle.stack, Lifecycle.pool, idle] at owned
      exact owned
    · have accounted := tracked.accounted
      simp only [Lifecycle.stack, Lifecycle.pool, idle] at accounted
      exact accounted
    · exact fun _ => (tracked.idle_invariant idle).emptied
    · exact fun p ref inside => .inl (tracked.idle_gone idle inside)
  obtain ⟨runtime, folded, finished, held⟩ := holders_tracked _ _ destroyed rfl rfl
  refine ⟨{ state with runtime, holders := [], phase := .destroyed }, ?_, finished, rfl, held⟩
  change (state.holders.foldlM NodeApiJsiRuntime.invalidate state.runtime >>= _) = _
  rw [show state.holders.foldlM NodeApiJsiRuntime.invalidate state.runtime = .ok runtime from folded]
  rfl

theorem mem_unused {p : Nat} {ref : Option Nat} (inside : (p, ref) ∈ state.unused) :
    ∃ this, state.runtime.store.objects.get? p = some this ∧ this.refCount = 0 ∧
      this.ref = ref := by
  obtain ⟨q, -, entry⟩ := List.mem_filterMap.mp inside
  obtain ⟨this, found, selected⟩ := Option.bind_eq_some_iff.mp entry
  obtain ⟨unused, same⟩ := Option.ite_none_right_eq_some.mp selected
  obtain ⟨rfl, rfl⟩ := Prod.mk.inj (Option.some.inj same)
  exact ⟨this, found, unused, rfl⟩

theorem beginPop_proceeds (tracked : Tracked state) (idle : state.phase = .idle)
    (open_ : state.runtime.stackScopes ≠ []) :
    ∃ next, state.beginPop = .ok next ∧ Tracked next ∧ next.phase ≠ .destroyed := by
  cases scopes : state.runtime.stackScopes with
  | nil => exact absurd scopes open_
  | cons newStackSize outer =>
    have invariant := tracked.idle_invariant idle
    have within := invariant.within_innermost scopes
    have nested := invariant.nested
    rw [scopes, List.pairwise_cons] at nested
    have last := tracked.outermost
    rw [scopes] at last
    have bottom : outer = [] → state.runtime.stackValues.take newStackSize = [] := by
      rintro rfl
      rw [last newStackSize rfl, List.take_zero]
    refine ⟨{ state with
      runtime := { state.runtime with
        stackScopes := outer
        stackValues := state.runtime.stackValues.take newStackSize }
      phase := .clearing (state.runtime.stackValues.drop newStackSize)
      doomed := if outer = [] then state.unused else state.doomed }, ?_, ?_, nofun⟩
    · simp only [Lifecycle.beginPop, scopes, gt_iff_lt, Nat.not_lt.mpr within, ↓reduceIte]
      rfl
    · refine ⟨?_, ?_, fun _ => invariant.emptied, nested.2, ?_, ?_, bottom, tracked.holdersHeld,
        fun _ => tracked.cached (by simp [idle]), nofun, ?_⟩
      · simp only [Lifecycle.stack, Lifecycle.pool, Phase.clearingValues, Phase.deletingValues,
          List.take_append_drop, List.nil_append]
        exact invariant.owned
      · simp only [Lifecycle.stack, Lifecycle.pool, Phase.clearingValues, Phase.deletingValues,
          List.take_append_drop, List.nil_append]
        exact tracked.idle_accounted idle
      · intro size inside
        rw [List.length_take, Nat.min_eq_left within]
        exact nested.1 size inside
      · intro size outermost
        apply last size
        rw [List.getLast?_cons, outermost, Option.getD_some]
      · intro p ref inside
        by_cases alone : outer = []
        · simp only [alone, ↓reduceIte] at inside
          exact .inr ⟨bottom alone, trivial, mem_unused inside⟩
        · simp only [alone, ↓reduceIte] at inside
          exact .inl (tracked.idle_gone idle inside)

/-- Objects that wait are unused and, with nothing left on the stack, in the pool. -/
theorem waits_pooled {p : Nat} {ref : Option Nat} (tracked : Tracked state)
    (waits : Waits state p ref) (popped : state.phase.clearingValues = []) : p ∈ state.pool := by
  obtain ⟨bottom, -, this, found, unused, -⟩ := waits
  have accounts := tracked.accounted p this found
  apply (accounts.pooled unused).resolve_right
  intro flagged
  have onStack := accounts.onStack (accounts.flagged flagged)
  simp only [Lifecycle.stack, bottom, popped, List.append_nil, List.not_mem_nil] at onStack

/-- The next value of the scope is popped. -/
theorem clearing_proceeds {p : Nat} {values : List Nat} (tracked : Tracked state)
    (phase : state.phase = .clearing (p :: values)) (unflagged : state.runtime.flagged p = false) :
    ∃ store, state.runtime.store.deleteStackValue p = .ok store ∧
      Tracked { state with runtime := { state.runtime with store }, phase := .clearing values } := by
  have owned := tracked.owned
  have accounted := tracked.accounted
  simp only [Lifecycle.stack, Lifecycle.pool, phase, Phase.clearingValues, Phase.deletingValues,
    List.nil_append] at owned accounted
  obtain ⟨store, deleted, ownedAfter, accountedAfter, later, unused⟩ :=
    deleteStackValue_accounted owned accounted (by
      intro this found
      rwa [unflagged_alive found] at unflagged)
  refine ⟨store, deleted, ownedAfter, accountedAfter, ?_, tracked.nested, tracked.within,
    tracked.outermost, tracked.bare, tracked.holdersHeld, ?_, nofun, ?_⟩
  · exact fun _ => tracked.emptied (by rw [phase]; exact nofun)
  · exact fun _ => tracked.cached (by rw [phase]; exact nofun)
  · intro q ref inside
    rcases tracked.doomed q ref inside with gone | ⟨bottom, -, this, found, none, owns⟩
    · exact .inl (gone.later later)
    · obtain ⟨left, present, still, same⟩ := unused q this found none
      exact .inr ⟨bottom, trivial, left, present, still, same.trans owns⟩

theorem clearing_flagged {p : Nat} {values : List Nat} (tracked : Tracked state)
    (phase : state.phase = .clearing (p :: values)) (flagged : state.runtime.flagged p ≠ false) :
    state.runtime.store.deleteStackValue p = .error (.object (.useAfterDelete p)) := by
  have onStack : p ∈ state.stack := by
    simp [Lifecycle.stack, phase, Phase.clearingValues]
  obtain ⟨this, found⟩ := tracked.owned.alive p (.inl onStack)
  rw [unflagged_alive found, Ne, Bool.not_eq_false] at flagged
  exact deleteStackValue_flagged found ((tracked.owned.fits p this found).onStack onStack) flagged

/-- The next value of the pool is deleted. -/
theorem deleting_proceeds {p : Nat} {values : List Nat} (tracked : Tracked state)
    (phase : state.phase = .deleting (p :: values)) :
    ∃ store, state.runtime.store.deleteNodeApiRef p = .ok store ∧
      Tracked { state with runtime := { state.runtime with store }, phase := .deleting values } := by
  have owned := tracked.owned
  have accounted := tracked.accounted
  simp only [Lifecycle.stack, Lifecycle.pool, phase, Phase.clearingValues, Phase.deletingValues,
    List.cons_append] at owned accounted
  obtain ⟨store, deleted, ownedAfter, accountedAfter, later, others, gone⟩ :=
    deleteNodeApiRef_accounted owned accounted
  refine ⟨store, deleted, ownedAfter, accountedAfter, ?_, tracked.nested, tracked.within,
    tracked.outermost, tracked.bare, tracked.holdersHeld, ?_, nofun, ?_⟩
  · exact fun resting => absurd rfl (resting values)
  · exact fun _ => tracked.cached (by rw [phase]; exact nofun)
  · intro q ref inside
    rcases tracked.doomed q ref inside with before | ⟨bottom, progress, this, found, unused, owns⟩
    · exact .inl (before.later later)
    · by_cases same : q = p
      · subst same
        rw [← owns]
        refine .inl (gone ?_ this found)
        rw [bottom]
        exact List.not_mem_nil
      · rw [phase] at progress
        refine .inr ⟨bottom, (List.mem_cons.mp progress).resolve_left same, this, ?_, unused, owns⟩
        exact (others q same).trans found

/-- The pools are switched, and the values released so far are to be deleted. -/
theorem switching_proceeds (tracked : Tracked state) (phase : state.phase = .switching) :
    ∃ next, state.continuePop = some (.ok next) ∧ Tracked next ∧ next.phase ≠ .destroyed := by
  have owned := tracked.owned
  have accounted := tracked.accounted
  have emptied := tracked.emptied (by rw [phase]; exact nofun)
  have pooled : ∀ p ref, Waits state p ref → p ∈ state.runtime.pendingDeletions.selected := by
    intro p ref waits
    have inside := waits_pooled tracked waits (by rw [phase]; rfl)
    simpa only [Lifecycle.pool, phase, Phase.deletingValues, List.nil_append] using inside
  have alive : state.phase ≠ .destroyed := by
    rw [phase]
    exact nofun
  simp only [Lifecycle.stack, Lifecycle.pool, phase, Phase.clearingValues, Phase.deletingValues,
    List.append_nil, List.nil_append] at owned accounted
  simp only [Lifecycle.continuePop, phase]
  by_cases empty : state.runtime.pendingDeletions.selected.isEmpty = true
  · refine ⟨{ state with phase := .idle }, by simp only [empty, ↓reduceIte], ?_, nofun⟩
    refine ⟨?_, ?_, fun _ => emptied, tracked.nested, tracked.within, tracked.outermost,
      tracked.bare, tracked.holdersHeld, fun _ => tracked.cached alive, nofun, ?_⟩
    · simpa only [Lifecycle.stack, Lifecycle.pool, Phase.clearingValues, Phase.deletingValues,
        List.append_nil, List.nil_append] using owned
    · simpa only [Lifecycle.stack, Lifecycle.pool, Phase.clearingValues, Phase.deletingValues,
        List.append_nil, List.nil_append] using accounted
    · intro p ref inside
      refine .inl ((tracked.doomed p ref inside).resolve_right fun waits => ?_)
      have member := pooled p ref waits
      rw [List.isEmpty_iff.mp empty] at member
      exact List.not_mem_nil member
  · obtain ⟨runtime, phase', holders, doomed⟩ := state
    obtain ⟨store, stackScopes, stackValues, ⟨pool0, pool1, poolSelector⟩, held⟩ := runtime
    simp only [empty, Bool.false_eq_true, ↓reduceIte, Bool.not_not]
    refine ⟨_, rfl, ?_, nofun⟩
    have unselected : NodeApiPendingDeletions.selected ⟨pool0, pool1, !poolSelector⟩ = [] := emptied
    refine ⟨?_, ?_, fun resting => absurd rfl (resting _), tracked.nested, tracked.within,
      tracked.outermost, tracked.bare, tracked.holdersHeld, fun _ => tracked.cached alive, nofun, ?_⟩
    · simp only [Lifecycle.stack, Lifecycle.pool, Phase.clearingValues, Phase.deletingValues,
        List.append_nil, unselected]
      cases poolSelector <;> exact owned
    · simp only [Lifecycle.stack, Lifecycle.pool, Phase.clearingValues, Phase.deletingValues,
        List.append_nil, unselected]
      cases poolSelector <;> exact accounted
    · intro p ref inside
      rcases tracked.doomed p ref inside with gone | waits
      · exact .inl gone
      · refine .inr ⟨waits.1, ?_, waits.2.2⟩
        have member := pooled p ref waits
        cases poolSelector <;> exact member

/-- The emptied pool is reset. -/
theorem deleted_proceeds (tracked : Tracked state) (phase : state.phase = .deleting []) :
    ∃ next, state.continuePop = some (.ok next) ∧ Tracked next ∧ next.phase ≠ .destroyed := by
  have owned := tracked.owned
  have accounted := tracked.accounted
  simp only [Lifecycle.stack, Lifecycle.pool, phase, Phase.clearingValues, Phase.deletingValues,
    List.append_nil, List.nil_append] at owned accounted
  have alive : state.phase ≠ .destroyed := by
    rw [phase]
    exact nofun
  have selected : ∀ deletions : NodeApiPendingDeletions,
      (deletions.setPool [] !deletions.poolSelector).selected = deletions.selected ∧
      (deletions.setPool [] !deletions.poolSelector).pool
        (!(deletions.setPool [] !deletions.poolSelector).poolSelector) = [] := by
    rintro ⟨pool0, pool1, poolSelector⟩
    cases poolSelector <;> exact ⟨rfl, rfl⟩
  obtain ⟨same, reset⟩ := selected state.runtime.pendingDeletions
  simp only [Lifecycle.continuePop, phase]
  refine ⟨_, rfl, ?_, nofun⟩
  refine ⟨?_, ?_, fun _ => reset, tracked.nested, tracked.within, tracked.outermost, tracked.bare,
    tracked.holdersHeld, fun _ => tracked.cached alive, nofun, ?_⟩
  · simpa only [Lifecycle.stack, Lifecycle.pool, Phase.clearingValues, Phase.deletingValues,
      List.append_nil, List.nil_append, same] using owned
  · simpa only [Lifecycle.stack, Lifecycle.pool, Phase.clearingValues, Phase.deletingValues,
      List.append_nil, List.nil_append, same] using accounted
  · intro p ref inside
    refine .inl ((tracked.doomed p ref inside).resolve_right fun waits => ?_)
    have progress := waits.2.1
    rw [phase] at progress
    exact List.not_mem_nil progress

theorem Tracked.safe {next : Lifecycle} (tracked : Tracked next)
    (kept : next.phase = .destroyed → next.runtime.held ≠ []) :
    NothingLeaks (.ok next) ∧
      ∀ later, (.ok next : Except Failure Lifecycle) = .ok later → Tracked later := by
  constructor
  · exact tracked.reclaimed kept
  · intro later same
    cases same
    exact tracked

/-- Outside the destruction of the runtime nothing but the count of pointers matters. -/
theorem Tracked.running {next : Lifecycle} (tracked : Tracked next)
    (alive : next.phase ≠ .destroyed) :
    NothingLeaks (.ok next) ∧
      ∀ later, (.ok next : Except Failure Lifecycle) = .ok later → Tracked later :=
  tracked.safe fun gone => absurd gone alive

theorem Proceeds.running {outcome : Except Failure Lifecycle} (proceeds : Proceeds outcome)
    (alive : ∀ next, outcome = .ok next → next.phase ≠ .destroyed) :
    NothingLeaks outcome ∧ ∀ next, outcome = .ok next → Tracked next := by
  rcases proceeds with rfl | ⟨next, rfl, tracked⟩
  · exact ⟨rfl, nofun⟩
  · exact tracked.running (alive next rfl)

theorem lift_phase {outcome : Except Failure NodeApiJsiRuntime} (idle : state.phase = .idle) :
    ∀ next, state.lift outcome = .ok next → next.phase ≠ .destroyed := by
  intro next lifted
  obtain ⟨runtime, -, same⟩ := bind_ok_inv lifted
  obtain rfl := Except.ok.inj same
  change state.phase ≠ .destroyed
  rw [idle]
  exact nofun

/-- With the last value popped the pools are next. -/
theorem cleared_proceeds (tracked : Tracked state) (phase : state.phase = .clearing []) :
    ∃ next, state.continuePop = some (.ok next) ∧ Tracked next ∧ next.phase ≠ .destroyed := by
  refine ⟨{ state with phase := .switching }, ?_, ?_, nofun⟩
  · simp only [Lifecycle.continuePop, phase]
  · have owned := tracked.owned
    have accounted := tracked.accounted
    simp only [Lifecycle.stack, Lifecycle.pool, phase] at owned accounted
    refine ⟨owned, accounted, ?_, tracked.nested, tracked.within, tracked.outermost,
      tracked.bare, tracked.holdersHeld, ?_, nofun, ?_⟩
    · exact fun _ => tracked.emptied (by rw [phase]; exact nofun)
    · exact fun _ => tracked.cached (by rw [phase]; exact nofun)
    · intro p ref inside
      rcases tracked.doomed p ref inside with gone | waits
      · exact .inl gone
      · exact .inr ⟨waits.1, trivial, waits.2.2⟩

/-- One case for each phase. -/
theorem continuePop_proceeds {outcome : Except Failure Lifecycle} (tracked : Tracked state)
    (reclaims : Reclaims state .continuePop) (continued : state.continuePop = some outcome) :
    ∃ next, state.continuePop = some (.ok next) ∧ Tracked next ∧ next.phase ≠ .destroyed := by
  cases phase : state.phase with
  | idle | destroyed =>
    simp only [Lifecycle.continuePop, phase] at continued
    cases continued
  | clearing values =>
    cases values with
    | nil => exact cleared_proceeds tracked phase
    | cons p rest =>
      simp only [Reclaims, phase] at reclaims
      obtain ⟨store, deleted, next⟩ := clearing_proceeds tracked phase reclaims
      refine ⟨_, ?_, next, nofun⟩
      simp only [Lifecycle.continuePop, phase, deleted, ok_bind, pure_ok]
  | switching => exact switching_proceeds tracked phase
  | deleting values =>
    cases values with
    | nil => exact deleted_proceeds tracked phase
    | cons p rest =>
      obtain ⟨store, deleted, next⟩ := deleting_proceeds tracked phase
      refine ⟨_, ?_, next, nofun⟩
      simp only [Lifecycle.continuePop, phase, deleted, ok_bind, pure_ok]

theorem call_safe {action : Action} {outcome : Except Failure Lifecycle} (tracked : Tracked state)
    (reclaims : Reclaims state action) (called : call state action = some outcome) :
    NothingLeaks outcome ∧ ∀ next, outcome = .ok next → Tracked next := by
  cases action with
  | pushPointerValueScope =>
    obtain ⟨idle, pushed⟩ := Option.ite_none_right_eq_some.mp called
    obtain rfl := Option.some.inj pushed
    apply (push_tracked tracked idle).running
    simp [idle]
  | popPointerValueScope =>
    obtain ⟨⟨idle, open_⟩, popped⟩ := Option.ite_none_right_eq_some.mp called
    obtain ⟨next, begun, trackedNext, alive⟩ := beginPop_proceeds tracked idle open_
    obtain rfl := Option.some.inj popped
    rw [begun]
    exact trackedNext.running alive
  | continuePop =>
    obtain ⟨next, continued, trackedNext, alive⟩ := continuePop_proceeds tracked reclaims called
    obtain rfl := Option.some.inj (called.symm.trans continued)
    exact trackedNext.running alive
  | make pointerKind initialRefCount =>
    obtain ⟨⟨idle, open_, used⟩, made⟩ := Option.ite_none_right_eq_some.mp called
    obtain rfl := Option.some.inj made
    apply (make_tracked tracked idle open_ pointerKind used).running
    simp [idle]
  | clone p =>
    obtain ⟨⟨idle, member⟩, cloned⟩ := Option.ite_none_right_eq_some.mp called
    obtain rfl := Option.some.inj cloned
    exact (clone_proceeds tracked idle member).running (lift_phase idle)
  | getValue p collected =>
    obtain ⟨⟨idle, open_, member⟩, looked⟩ := Option.ite_none_right_eq_some.mp called
    obtain rfl := Option.some.inj looked
    exact (getValue_proceeds collected tracked idle open_ member).running (lift_phase idle)
  | hold p =>
    obtain ⟨⟨idle, free⟩, held⟩ := Option.ite_none_right_eq_some.mp called
    obtain rfl := Option.some.inj held
    apply (hold_tracked tracked free).running
    simp [idle]
  | invalidate p =>
    obtain ⟨free, released⟩ := Option.ite_none_right_eq_some.mp called
    obtain ⟨next, invalidated, trackedNext, phase, held⟩ := invalidate_proceeds tracked free
    obtain rfl := Option.some.inj released
    rw [invalidated]
    apply trackedNext.safe
    intro gone none
    rw [phase] at gone
    rw [held] at none
    have member : p ∈ state.runtime.held := List.count_pos_iff.mp (by omega)
    rcases List.erase_eq_nil_iff.mp none with empty | last
    · rw [empty] at member
      cases member
    · exact reclaims gone last
  | destroy =>
    obtain ⟨⟨idle, -⟩, destroyed⟩ := Option.ite_none_right_eq_some.mp called
    obtain ⟨next, finished, trackedNext, -, held⟩ := destroy_proceeds tracked idle
    obtain rfl := Option.some.inj destroyed
    rw [finished]
    apply trackedNext.safe
    intro _ none
    rw [held] at none
    exact reclaims none

/-- The values of the constructor outlive the runtime. -/
theorem destroyed_leaks (tracked : Tracked state) (gone : state.phase = .destroyed)
    (none : state.runtime.held = []) : ¬ Reclaimed state := by
  intro reclaimed
  obtain ⟨this, found⟩ := tracked.zero_alive
  rw [(reclaimed.destroyed gone none).1 0] at found
  cases found

theorem call_refused {action : Action} {outcome : Except Failure Lifecycle}
    (tracked : Tracked state) (refused : ¬ Reclaims state action)
    (called : call state action = some outcome) : ¬ NothingLeaks outcome := by
  cases action with
  | continuePop =>
    simp only [call] at called
    cases phase : state.phase with
    | clearing values =>
      cases values with
      | nil => simp [Reclaims, phase] at refused
      | cons p rest =>
        simp only [Reclaims, phase] at refused
        have faulted := clearing_flagged tracked phase refused
        simp only [Lifecycle.continuePop, phase, faulted, error_bind, Option.some.injEq] at called
        rw [← called]
        exact fun safe => by cases safe
    | idle | switching | deleting _ | destroyed => simp [Reclaims, phase] at refused
  | invalidate p =>
    obtain ⟨free, released⟩ := Option.ite_none_right_eq_some.mp called
    obtain rfl := Option.some.inj released
    obtain ⟨next, invalidated, trackedNext, phase, held⟩ := invalidate_proceeds tracked free
    simp only [Reclaims, not_forall, ne_eq, Decidable.not_not] at refused
    obtain ⟨gone, last⟩ := refused
    rw [invalidated]
    apply destroyed_leaks trackedNext (phase.trans gone)
    rw [held, last, List.erase_cons_head]
  | destroy =>
    obtain ⟨⟨idle, -⟩, destroyed⟩ := Option.ite_none_right_eq_some.mp called
    obtain rfl := Option.some.inj destroyed
    obtain ⟨next, finished, trackedNext, gone, held⟩ := destroy_proceeds tracked idle
    rw [finished]
    apply destroyed_leaks trackedNext gone
    rw [held]
    simpa [Reclaims] using refused
  | pushPointerValueScope | popPointerValueScope | make _ _ | clone _ | getValue _ _ | hold _ =>
    exact absurd trivial refused

end

theorem constructed_run : nodeApiJsiRuntime.run constructorActions = some (.ok constructed) := by
  decide +kernel

/-- The constructor leaves its values with their holders. -/
theorem constructed_cells : ∀ cell ∈ constructed.store.objects.cells, ∀ this ∈ cell,
    this.value = false ∧ this.refCount ≠ 0 ∧ this.canBeDeletedFromStack = false := by
  decide +kernel

theorem constructed_empty : constructed.stackScopes = [] ∧ constructed.stackValues = [] ∧
    constructed.pendingDeletions = {} ∧ 0 ∈ constructed.held := by
  decide +kernel

theorem constructed_invariant : Invariant constructed := by
  have meets : nodeApiJsiRuntime.Meets Unflagged nodeApiJsiRuntime.start constructorActions := by
    decide +kernel
  refine (Program.run_invariant Invariant LifetimeSafe start_invariant (fun _ _ => trivial) ?_ meets
    constructed_run).2 constructed rfl
  intro runtime action outcome invariant unflagged called
  exact (call_kept invariant unflagged called).safe

theorem start_tracked : Tracked lifecycleProgram.start := by
  have invariant := constructed_invariant
  obtain ⟨scopes, values, deletions, member⟩ := constructed_empty
  refine ⟨?_, ?_, fun _ => invariant.emptied, invariant.nested, invariant.within, ?_, fun _ => values,
    fun _ => Nat.le_refl _, fun _ => member, nofun, nofun⟩
  · simp only [Lifecycle.stack, Lifecycle.pool, lifecycleProgram, Phase.clearingValues,
      Phase.deletingValues, List.append_nil, List.nil_append]
    exact invariant.owned
  · intro p this found
    have cell : some this ∈ constructed.store.objects.cells := by
      apply List.mem_of_getElem?
      exact Option.join_eq_some_iff.mp found
    obtain ⟨cleared, used, unflagged⟩ := constructed_cells _ cell this rfl
    refine ⟨?_, fun unused => absurd unused used, ?_⟩
    · rw [cleared]
      exact nofun
    · rw [unflagged]
      exact nofun
  · intro size last
    change constructed.stackScopes.getLast? = some size at last
    rw [scopes] at last
    cases last

/-- Unused values are deleted by the next pop of an outermost scope, and nothing is
left after the end of the runtime, exactly as long as no value that is popped has been
left to the stack to delete, and the runtime is not both destroyed and released from
its last pointer. -/
theorem nothing_leaks_iff (trace : List Action) (outcome : Except Failure Lifecycle)
    (ran : lifecycleProgram.run trace = some outcome) :
    lifecycleProgram.SafeAlong NothingLeaks lifecycleProgram.start trace ↔
      lifecycleProgram.Meets Reclaims lifecycleProgram.start trace := by
  have start : Tracked lifecycleProgram.start ∧ Reclaimed lifecycleProgram.start :=
    ⟨start_tracked, start_tracked.reclaimed nofun⟩
  refine Program.safeAlong_iff_meets (fun state => Tracked state ∧ Reclaimed state)
    (fun _ holds => holds.2) ?_ ?_ trace _ outcome start ran
  · intro state action reached holds reclaims called
    obtain ⟨safe, next⟩ := call_safe holds.1 reclaims called
    refine ⟨safe, ?_⟩
    rintro after rfl
    exact ⟨next after rfl, safe⟩
  · intro state action reached holds refused called
    exact call_refused holds.1 refused called

instance (state : Lifecycle) : ∀ action, Decidable (Reclaims state action)
  | .continuePop =>
      match phase : state.phase with
      | .clearing (p :: _) =>
          decidable_of_iff (state.runtime.flagged p = false) (by simp only [Reclaims, phase])
      | .idle | .clearing [] | .switching | .deleting _ | .destroyed =>
          isTrue (by simp only [Reclaims, phase])
  | .invalidate _ => inferInstanceAs (Decidable (_ → _))
  | .destroy => inferInstanceAs (Decidable (_ ≠ _))
  | .pushPointerValueScope | .popPointerValueScope | .make _ _ | .clone _ | .getValue _ _
  | .hold _ => isTrue trivial

/-- A value is released in its scope, another one by a different thread while the scope
is popped, and the second one is deleted by the next pop. -/
theorem nothing_leaks_release_during_pop :
    lifecycleProgram.SafeAlong NothingLeaks lifecycleProgram.start
      [.pushPointerValueScope, .make .object 1, .make .string 1, .invalidate 24,
        .popPointerValueScope, .continuePop, .continuePop, .continuePop, .continuePop,
        .invalidate 25, .continuePop, .continuePop, .pushPointerValueScope,
        .popPointerValueScope, .continuePop, .continuePop, .continuePop, .continuePop] :=
  (nothing_leaks_iff _ _ rfl).mpr (by decide +kernel)

/-- A runtime is constructed and destroyed. The values of its constructor are released
into the pool that no one empties any more. -/
theorem constructor_values_leak :
    ¬ lifecycleProgram.SafeAlong NothingLeaks lifecycleProgram.start [.destroy] := by
  intro along
  obtain ⟨next, destroyed, tracked, gone, held⟩ := destroy_proceeds start_tracked rfl
  have safe := along [.destroy] [] (.ok next) rfl (by
    change some _ = _
    rw [destroyed])
  have none : next.runtime.held = [] := by
    rw [held]
    decide +kernel
  exact destroyed_leaks tracked gone none safe

end V8Jsi.PointerReclaim
