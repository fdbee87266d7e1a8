import V8Jsi.NapiReference

set_option autoImplicit false

/- What the state of the references says about one address, and how a step changes it. -/
namespace V8Jsi.NapiReference

open Heaps Outcome

section

variable {V : Type}

/-! ## One address -/

/-- All that a state says about one address. -/
@[ext] structure View (V : Type) where
  cell : Option (Reference V)
  target : Option V
  listed : Prop
  pending : Prop
  framed : Prop
  handle : Prop
  withCallback : Prop
  called : Prop
  cancelled : Prop
  wrapped : V → Prop

def Env.view (env : Env V) (address : Nat) : View V :=
  { cell := env.references.get? address
    target := env.targets[address]?
    listed := address ∈ env.reflist ∨ address ∈ env.finalizingReflist
    pending := address ∈ env.pendingFinalizers
    framed := (address, true) ∈ env.frames
    handle := address ∈ env.handles
    withCallback := address ∈ env.withCallback
    called := address ∈ env.called
    cancelled := address ∈ env.cancelled
    wrapped := fun value => env.wrapper value = some address }

/-- The handle agrees with the count: it is weak or empty only at zero, holds its value while
that is there, and is emptied when it is gone. A wrapped count may be zero in a strong one. -/
structure HandleOk (kindOf : V → ValueKind) (collected dying : V → Prop) (target : V)
    (reference : Reference V) : Prop where
  weakable : reference.canBeWeak = canBeHeldWeakly kindOf target
  strong : ∀ value, reference.persistent = .strong value → value = target ∧ ¬ collected target
  weak : ∀ value, reference.persistent = .weak value → value = target ∧
    reference.canBeWeak ∧ reference.refcount = 0 ∧ (collected target → dying target)
  empty : reference.persistent = .empty →
    reference.refcount = 0 ∧ (canBeHeldWeakly kindOf target → collected target)

/-- What holds of every address; `dying` are the values whose weak callbacks are not all made. -/
structure View.Ok (kindOf : V → ValueKind) (collected dying : V → Prop) (view : View V) :
    Prop where
  alive : ∀ reference, view.cell = some reference → ∃ target, view.target = some target ∧
    HandleOk kindOf collected dying target reference
  managed : ∀ reference, view.cell = some reference →
    reference.ownership = .kRuntime ∨ reference.finalizer ≠ none →
    ∀ target, view.target = some target → canBeHeldWeakly kindOf target
  listed : view.listed → ∃ reference, view.cell = some reference
  pending : view.pending → ∃ reference, view.cell = some reference ∧
    reference.persistent = .empty ∧ reference.finalizer ≠ none
  framed : view.framed → ¬ view.pending ∧ ∃ reference, view.cell = some reference ∧
    reference.persistent = .empty ∧ reference.ownership = .kRuntime
  handle : view.handle → ∃ reference, view.cell = some reference ∧
    reference.ownership = .kUserland
  wrapped : ∀ value, view.wrapped value → view.target = some value ∧ kindOf value = .object ∧
    ¬ collected value ∧ ∃ reference, view.cell = some reference
  queued : ∀ reference, view.cell = some reference → reference.persistent = .empty →
    reference.finalizer = some true → view.pending
  owned : ∀ reference, view.cell = some reference → reference.persistent = .empty →
    reference.ownership = .kRuntime → view.pending ∨ view.framed
  waiting : ∀ reference, view.cell = some reference → reference.finalizer = some true →
    view.withCallback ∧ ¬ view.called ∧ ¬ view.cancelled
  fate : view.withCallback → view.called ∨ view.cancelled ∨
    ∃ reference, view.cell = some reference ∧ reference.finalizer = some true
  called : view.called → ¬ view.cancelled ∧ ∃ target, view.target = some target ∧
    collected target
  known : view.withCallback ∨ view.called ∨ view.cancelled → view.target ≠ none

structure Sound (kindOf : V → ValueKind) (dying : V → Nat → Prop) (env : Env V) : Prop where
  ok : ∀ address, (env.view address).Ok kindOf (· ∈ env.collected) (dying · address)
  targets : env.targets.length = env.references.next
  calledOnce : env.called.Nodup
  framesApart : ((env.frames.filter (·.2)).map Prod.fst).Nodup

/-- No weak callback is outstanding. -/
def quiet (_ : V) (_ : Nat) : Prop := False

section Views

variable {env : Env V} {address : Nat} {reference other : Reference V}

theorem view_put (alive : env.references.get? address = some other) :
    (env.put address reference).view =
      Function.update env.view address { env.view address with cell := some reference } := by
  funext place
  by_cases same : place = address
  · subst same
    rw [Function.update_self]
    unfold Env.view Env.put
    rw [Heap.get?_set_self _ alive]
  · rw [Function.update_of_ne same]
    unfold Env.view Env.put
    rw [Heap.get?_set_of_ne _ same]

theorem view_unlink (env : Env V) (address : Nat) :
    (env.unlink address).view =
      Function.update env.view address { env.view address with listed := False } := by
  funext place
  by_cases same : place = address
  · subst same
    rw [Function.update_self]
    simp [Env.view, Env.unlink]
  · rw [Function.update_of_ne same]
    simp [Env.view, Env.unlink, same]

theorem view_dequeue (env : Env V) (address : Nat) :
    (env.dequeueFinalizer address).view =
      Function.update env.view address { env.view address with pending := False } := by
  funext place
  by_cases same : place = address
  · subst same
    rw [Function.update_self]
    simp [Env.view, Env.dequeueFinalizer]
  · rw [Function.update_of_ne same]
    simp [Env.view, Env.dequeueFinalizer, same]

/-- What `delete` leaves. -/
def Env.destroyed (env : Env V) (address : Nat) (this : Reference V) : Env V :=
  { (env.dequeueFinalizer address).unlink address with
    references := env.references.set address none
    cancelled := if this.finalizer = some true then address :: env.cancelled else env.cancelled }

theorem destroy_eq (alive : env.references.get? address = some reference) :
    env.destroy address = .ok (env.destroyed address reference) := by
  have living : ((env.dequeueFinalizer address).unlink address).references.get? address =
      some reference := alive
  rw [Env.destroy, Heap.read_of_get? alive, ok_bind]
  dsimp only
  rw [Heap.delete_of_get? living]
  rfl

theorem view_destroyed (alive : env.references.get? address = some reference) :
    (env.destroyed address reference).view =
      Function.update env.view address
        { env.view address with
          cell := none
          listed := False
          pending := False
          cancelled := (env.view address).cancelled ∨ reference.finalizer = some true } := by
  funext place
  by_cases same : place = address
  · subst same
    rw [Function.update_self]
    unfold Env.destroyed Env.view
    simp only [Heap.get?_set_self none alive]
    by_cases waiting : reference.finalizer = some true
    · simp [Env.unlink, Env.dequeueFinalizer, waiting]
    · simp [Env.unlink, Env.dequeueFinalizer, waiting]
  · rw [Function.update_of_ne same]
    unfold Env.destroyed Env.view
    simp only [Heap.get?_set_of_ne none same]
    by_cases waiting : reference.finalizer = some true
    · simp [Env.unlink, Env.dequeueFinalizer, waiting, same]
    · simp [Env.unlink, Env.dequeueFinalizer, waiting, same]

theorem view_called (env : Env V) (address : Nat) :
    { env with called := address :: env.called }.view =
      Function.update env.view address { env.view address with called := True } := by
  funext place
  by_cases same : place = address
  · subst same
    rw [Function.update_self]
    simp [Env.view]
  · rw [Function.update_of_ne same]
    simp [Env.view, same]

theorem view_enqueue (env : Env V) (address : Nat) :
    { env with pendingFinalizers := address :: env.pendingFinalizers }.view =
      Function.update env.view address { env.view address with pending := True } := by
  funext place
  by_cases same : place = address
  · subst same
    rw [Function.update_self]
    simp [Env.view]
  · rw [Function.update_of_ne same]
    simp [Env.view, same]

theorem view_frame (env : Env V) (address : Nat) (deleteMe : Bool) :
    { env with frames := (address, deleteMe) :: env.frames }.view =
      Function.update env.view address
        { env.view address with framed := deleteMe ∨ (env.view address).framed } := by
  funext place
  by_cases same : place = address
  · subst same
    rw [Function.update_self]
    simp [Env.view, eq_comm]
  · rw [Function.update_of_ne same]
    simp [Env.view, same]

theorem view_handles (env : Env V) (address : Nat) :
    { env with handles := env.handles.filter (· ≠ address) }.view =
      Function.update env.view address { env.view address with handle := False } := by
  funext place
  by_cases same : place = address
  · subst same
    rw [Function.update_self]
    simp [Env.view]
  · rw [Function.update_of_ne same]
    simp [Env.view, same]

end Views

/-! ## Handles -/

section Handles

variable {kindOf : V → ValueKind} {collected dying : V → Prop} {target : V}
  {reference : Reference V}

theorem HandleOk.ref (ok : HandleOk kindOf collected (fun _ => False) target reference) :
    HandleOk kindOf collected (fun _ => False) target reference.ref.1 := by
  obtain ⟨persistent, refcount, ownership, canBeWeak, finalizer⟩ := reference
  cases persistent with
  | empty => exact ok
  | strong value =>
    have strong := ok.strong value rfl
    refine ⟨?_, ?_, ?_, ?_⟩ <;> simp only [Reference.ref, Persistent.isEmpty, Reference.clearWeak,
      Bool.false_eq_true, ↓reduceIte, ite_self]
    · exact ok.weakable
    · rintro other ⟨⟩
      exact strong
    · rintro other ⟨⟩
    · rintro ⟨⟩
  | weak value =>
    obtain ⟨same, weakable, zero, alive⟩ := ok.weak value rfl
    simp only at weakable zero
    subst zero weakable
    refine ⟨ok.weakable, ?_, ?_, ?_⟩
    · rintro other ⟨⟩
      exact ⟨same, alive⟩
    · rintro other ⟨⟩
    · rintro ⟨⟩

theorem HandleOk.unref (ok : HandleOk kindOf collected (fun _ => False) target reference) :
    HandleOk kindOf collected (fun _ => False) target reference.unref.1 := by
  obtain ⟨persistent, refcount, ownership, canBeWeak, finalizer⟩ := reference
  by_cases none' : refcount = 0
  · rw [Reference.unref, if_pos (.inr none')]
    exact ok
  · cases persistent with
    | empty => exact ok
    | weak value => exact absurd (ok.weak value rfl).2.2.1 none'
    | strong value =>
      have strong := ok.strong value rfl
      have weakable := ok.weakable
      by_cases last : refcount - 1 = 0
      · cases canBeWeak with
        | true =>
          refine ⟨?_, ?_, ?_, ?_⟩ <;> simp only [Reference.unref, Persistent.isEmpty,
            Reference.setWeak, none', last, Bool.false_eq_true, or_self, ↓reduceIte]
          · exact weakable
          · rintro other ⟨⟩
          · rintro other ⟨⟩
            exact ⟨strong.1, trivial, trivial, fun gone => strong.2 gone⟩
          · rintro ⟨⟩
        | false =>
          refine ⟨?_, ?_, ?_, ?_⟩ <;> simp only [Reference.unref, Persistent.isEmpty,
            Reference.setWeak, none', last, Bool.false_eq_true, or_self, ↓reduceIte]
          · exact weakable
          · rintro other ⟨⟩
          · rintro other ⟨⟩
          · intro _
            refine ⟨trivial, fun held => ?_⟩
            rw [← weakable] at held
            cases held
      · refine ⟨?_, ?_, ?_, ?_⟩ <;> simp only [Reference.unref, Persistent.isEmpty, none', last,
          Bool.false_eq_true, or_self, ↓reduceIte]
        · exact weakable
        · rintro other ⟨⟩
          exact strong
        · rintro other ⟨⟩
        · rintro ⟨⟩

end Handles

/-! ## What happens at an address -/

section Changes

variable {kindOf : V → ValueKind} {collected dying : V → Prop} {target : V} {view : View V}
  {reference next : Reference V}

/-- A call that changes the count or drops the callback. -/
theorem View.Ok.change (ok : view.Ok kindOf collected dying)
    (found : view.cell = some reference) (cancels : Prop)
    (handle : ∀ target, HandleOk kindOf collected dying target reference →
      HandleOk kindOf collected dying target next)
    (owner : next.ownership = reference.ownership)
    (class' : next.finalizer = none ↔ reference.finalizer = none)
    (keeps : reference.persistent = .empty → next.persistent = .empty)
    (empties : next.persistent = .empty → reference.persistent = .empty ∨
      next.finalizer ≠ some true ∧ next.ownership ≠ .kRuntime)
    (waits : next.finalizer = some true → reference.finalizer = some true ∧ ¬ cancels)
    (drops : reference.finalizer = some true → next.finalizer = some true ∨ cancels)
    (reason : cancels → reference.finalizer = some true) :
    View.Ok kindOf collected dying
      { view with cell := some next, cancelled := view.cancelled ∨ cancels } := by
  obtain ⟨target, at', handleOk⟩ := ok.alive reference found
  refine ⟨?_, ?_, ?_, ?_, ?_, ?_, ?_, ?_, ?_, ?_, ?_, ?_, ?_⟩
  · rintro _ ⟨⟩
    exact ⟨target, at', handle target handleOk⟩
  · rintro _ ⟨⟩ kind
    rw [owner, ne_eq, class'] at kind
    exact ok.managed reference found kind
  · exact fun _ => ⟨next, rfl⟩
  · intro pending
    obtain ⟨_, same, empty, finalizer⟩ := ok.pending pending
    obtain rfl := Option.some.inj (found.symm.trans same)
    exact ⟨next, rfl, keeps empty, fun none' => finalizer (class'.mp none')⟩
  · intro framed
    obtain ⟨apart, _, same, empty, runtime⟩ := ok.framed framed
    obtain rfl := Option.some.inj (found.symm.trans same)
    exact ⟨apart, next, rfl, keeps empty, owner.trans runtime⟩
  · intro handle'
    obtain ⟨_, same, userland⟩ := ok.handle handle'
    obtain rfl := Option.some.inj (found.symm.trans same)
    exact ⟨next, rfl, owner.trans userland⟩
  · intro value wrapped
    obtain ⟨same, object, living, -⟩ := ok.wrapped value wrapped
    exact ⟨same, object, living, next, rfl⟩
  · rintro _ ⟨⟩ empty callback
    obtain before | ⟨none', -⟩ := empties empty
    · exact ok.queued reference found before (waits callback).1
    · exact absurd callback none'
  · rintro _ ⟨⟩ empty runtime
    obtain before | ⟨-, userland⟩ := empties empty
    · exact ok.owned reference found before (owner.symm.trans runtime)
    · exact absurd runtime userland
  · rintro _ ⟨⟩ callback
    obtain ⟨before, kept⟩ := waits callback
    obtain ⟨with', called, cancelled⟩ := ok.waiting reference found before
    exact ⟨with', called, by rintro (gone | gone) <;> contradiction⟩
  · intro with'
    obtain called | cancelled | ⟨_, same, callback⟩ := ok.fate with'
    · exact .inl called
    · exact .inr (.inl (.inl cancelled))
    · obtain rfl := Option.some.inj (found.symm.trans same)
      obtain kept | gone := drops callback
      · exact .inr (.inr ⟨next, rfl, kept⟩)
      · exact .inr (.inl (.inr gone))
  · intro called
    obtain ⟨kept, gone⟩ := ok.called called
    refine ⟨?_, gone⟩
    rintro (before | now)
    · exact kept before
    · exact (ok.waiting reference found (reason now)).2.1 called
  · rintro (with' | called | before | now)
    · exact ok.known (.inl with')
    · exact ok.known (.inr (.inl called))
    · exact ok.known (.inr (.inr before))
    · exact ok.known (.inl (ok.waiting reference found (reason now)).1)

/-- `delete`, of a reference that nobody else points to. -/
theorem View.Ok.gone (ok : view.Ok kindOf collected dying)
    (found : view.cell = some reference) (unwrapped : ∀ value, ¬ view.wrapped value)
    (calls cancels : Prop) (one : calls → ¬ cancels)
    (first : calls ∨ cancels → reference.finalizer = some true)
    (settled : reference.finalizer = some true → calls ∨ cancels)
    (taken : calls → ∀ target, view.target = some target → collected target) :
    View.Ok kindOf collected dying
      { view with
        cell := none
        listed := False
        pending := False
        framed := False
        handle := False
        called := calls ∨ view.called
        cancelled := view.cancelled ∨ cancels } := by
  obtain ⟨target, at', -⟩ := ok.alive reference found
  refine ⟨?_, ?_, False.elim, False.elim, False.elim, False.elim, ?_, ?_, ?_, ?_, ?_, ?_, ?_⟩
  · rintro _ ⟨⟩
  · rintro _ ⟨⟩
  · exact fun value wrapped => absurd wrapped (unwrapped value)
  · rintro _ ⟨⟩
  · rintro _ ⟨⟩
  · rintro _ ⟨⟩
  · intro with'
    obtain called | cancelled | ⟨_, same, callback⟩ := ok.fate with'
    · exact .inl (.inr called)
    · exact .inr (.inl (.inl cancelled))
    · obtain rfl := Option.some.inj (found.symm.trans same)
      obtain now | now := settled callback
      · exact .inl (.inl now)
      · exact .inr (.inl (.inr now))
  · rintro (now | called)
    · refine ⟨?_, target, at', taken now target at'⟩
      rintro (before | too)
      · exact (ok.waiting reference found (first (.inl now))).2.2 before
      · exact one now too
    · obtain ⟨kept, gone⟩ := ok.called called
      refine ⟨?_, gone⟩
      rintro (before | now)
      · exact kept before
      · exact (ok.waiting reference found (first (.inr now))).2.1 called
  · intro _
    show view.target ≠ none
    rw [at']
    exact Option.some_ne_none target

/-- A `Finalize` up to its callback, or to its return when that does not delete. -/
theorem View.Ok.finalize (ok : view.Ok kindOf collected dying)
    (found : view.cell = some reference) (unwrapped : ∀ value, ¬ view.wrapped value)
    (calls frames : Prop) (callback : calls ↔ reference.finalizer = some true)
    (zero : reference.refcount = 0)
    (taken : ∀ target, view.target = some target → canBeHeldWeakly kindOf target →
      collected target)
    (owned : reference.ownership = .kRuntime ↔ frames) :
    View.Ok kindOf collected dying
      { view with
        cell := some
          { reference with
            persistent := .empty
            finalizer := if reference.finalizer = some true then some false
              else reference.finalizer }
        listed := False
        pending := False
        framed := frames
        called := calls ∨ view.called } := by
  obtain ⟨target, at', handleOk⟩ := ok.alive reference found
  have left : (if reference.finalizer = some true then some false else reference.finalizer) ≠
      some true := by
    split
    · simp
    · assumption
  have managed : reference.finalizer = some true → collected target := by
    intro waiting
    refine taken target at' (ok.managed reference found (.inr ?_) target at')
    rw [waiting]
    exact Option.some_ne_none true
  refine ⟨?_, ?_, False.elim, False.elim, ?_, ?_, ?_, ?_, ?_, ?_, ?_, ?_, ?_⟩
  · rintro _ ⟨⟩
    refine ⟨target, at', handleOk.weakable, ?_, ?_, fun _ => ⟨zero, taken target at'⟩⟩
    · rintro value ⟨⟩
    · rintro value ⟨⟩
  · rintro _ ⟨⟩ kind
    refine ok.managed reference found ?_
    obtain runtime | class'' := kind
    · exact .inl runtime
    · refine .inr fun none' => class'' ?_
      rw [none']
      rfl
  · intro framed
    exact ⟨id, _, rfl, rfl, owned.mpr framed⟩
  · intro handle
    obtain ⟨_, same, userland⟩ := ok.handle handle
    obtain rfl := Option.some.inj (found.symm.trans same)
    exact ⟨_, rfl, userland⟩
  · exact fun value wrapped => absurd wrapped (unwrapped value)
  · rintro _ ⟨⟩ _ waiting
    exact absurd waiting left
  · rintro _ ⟨⟩ _ runtime
    exact .inr (owned.mp runtime)
  · rintro _ ⟨⟩ waiting
    exact absurd waiting left
  · intro with'
    obtain called | cancelled | ⟨_, same, waiting⟩ := ok.fate with'
    · exact .inl (.inr called)
    · exact .inr (.inl cancelled)
    · obtain rfl := Option.some.inj (found.symm.trans same)
      exact .inl (.inl (callback.mpr waiting))
  · rintro (now | called)
    · have waiting := callback.mp now
      exact ⟨(ok.waiting reference found waiting).2.2, target, at', managed waiting⟩
    · exact ok.called called
  · intro _
    show view.target ≠ none
    rw [at']
    exact Option.some_ne_none target

/-- A weak callback that leaves the callback of the user to the queue. -/
theorem View.Ok.enqueue (ok : view.Ok kindOf collected dying)
    (found : view.cell = some reference) (unframed : ¬ view.framed)
    (class' : reference.finalizer ≠ none) (zero : reference.refcount = 0)
    (taken : ∀ target, view.target = some target → collected target) :
    View.Ok kindOf collected dying
      { view with cell := some { reference with persistent := .empty }, pending := True } := by
  obtain ⟨target, at', handleOk⟩ := ok.alive reference found
  refine ⟨?_, ?_, fun _ => ⟨_, rfl⟩, fun _ => ⟨_, rfl, rfl, class'⟩,
    fun framed => absurd framed unframed, ?_, ?_, ?_, ?_, ?_, ?_, ok.called, ok.known⟩
  · rintro _ ⟨⟩
    refine ⟨target, at', handleOk.weakable, ?_, ?_, fun _ => ⟨zero, fun _ => taken target at'⟩⟩
    · rintro value ⟨⟩
    · rintro value ⟨⟩
  · rintro _ ⟨⟩ kind
    exact ok.managed reference found kind
  · intro handle
    obtain ⟨_, same, userland⟩ := ok.handle handle
    obtain rfl := Option.some.inj (found.symm.trans same)
    exact ⟨_, rfl, userland⟩
  · intro value wrapped
    obtain ⟨same, object, living, -⟩ := ok.wrapped value wrapped
    exact ⟨same, object, living, _, rfl⟩
  · intro _ _ _ _
    trivial
  · intro _ _ _ _
    exact .inl trivial
  · rintro _ ⟨⟩ waiting
    exact ok.waiting reference found waiting
  · intro with'
    obtain called | cancelled | ⟨_, same, waiting⟩ := ok.fate with'
    · exact .inl called
    · exact .inr (.inl cancelled)
    · obtain rfl := Option.some.inj (found.symm.trans same)
      exact .inr (.inr ⟨_, rfl, waiting⟩)

/-- Nothing is known of an address that has not been given out. -/
theorem View.Ok.blank (ok : view.Ok kindOf collected dying) (empty : view.cell = none)
    (unknown : view.target = none) :
    view = ⟨none, none, False, False, False, False, False, False, False, fun _ => False⟩ := by
  have dead : ¬ ∃ reference, view.cell = some reference := by
    rintro ⟨_, found⟩
    rw [empty] at found
    cases found
  apply View.ext
  · exact empty
  · exact unknown
  · exact eq_false fun listed => dead (ok.listed listed)
  · exact eq_false fun pending => dead ((ok.pending pending).imp fun _ found => found.1)
  · exact eq_false fun framed => dead ((ok.framed framed).2.imp fun _ found => found.1)
  · exact eq_false fun handle => dead ((ok.handle handle).imp fun _ found => found.1)
  · exact eq_false fun with' => ok.known (.inl with') unknown
  · exact eq_false fun called => ok.known (.inr (.inl called)) unknown
  · exact eq_false fun cancelled => ok.known (.inr (.inr cancelled)) unknown
  · funext value
    exact eq_false fun wrapped => dead (ok.wrapped value wrapped).2.2.2

/-- A new reference, which may be the wrapper of its value. -/
theorem View.Ok.create {wrapped : V → Prop} (listed : Prop)
    (made : HandleOk kindOf collected dying target reference) (living : ¬ collected target)
    (managed : reference.ownership = .kRuntime ∨ reference.finalizer ≠ none →
      canBeHeldWeakly kindOf target)
    (object : ∀ value, wrapped value → value = target ∧ kindOf target = .object) :
    View.Ok kindOf collected dying
      { cell := some reference
        target := some target
        listed
        pending := False
        framed := False
        handle := reference.ownership = .kUserland
        withCallback := reference.finalizer = some true
        called := False
        cancelled := False
        wrapped } := by
  have full (empty : reference.persistent = .empty) :
      ¬ (reference.ownership = .kRuntime ∨ reference.finalizer ≠ none) :=
    fun kind => living ((made.empty empty).2 (managed kind))
  refine ⟨?_, ?_, fun _ => ⟨reference, rfl⟩, False.elim, False.elim, ?_, ?_, ?_, ?_, ?_, ?_,
    False.elim, ?_⟩
  · rintro _ ⟨⟩
    exact ⟨target, rfl, made⟩
  · rintro _ ⟨⟩ kind _ ⟨⟩
    exact managed kind
  · exact fun userland => ⟨reference, rfl, userland⟩
  · intro value wrapped
    obtain ⟨rfl, object'⟩ := object value wrapped
    exact ⟨rfl, object', living, reference, rfl⟩
  · rintro _ ⟨⟩ empty waiting
    refine absurd (.inr ?_) (full empty)
    rw [waiting]
    exact Option.some_ne_none true
  · rintro _ ⟨⟩ empty runtime
    exact absurd (.inl runtime) (full empty)
  · rintro _ ⟨⟩ waiting
    exact ⟨waiting, id, id⟩
  · exact fun waiting => .inr (.inr ⟨reference, rfl, waiting⟩)
  · exact fun _ => Option.some_ne_none target

end Changes

end

end V8Jsi.NapiReference
