import V8Jsi.NapiReferenceView

set_option autoImplicit false

namespace V8Jsi.NapiReference

open Runs Heaps Outcome

section

variable {V : Type}

/-! ## Steps -/

section Steps

variable {kindOf : V → ValueKind} {dying : V → Nat → Prop} {env after : Env V} {address : Nat}
  {reference : Reference V} {view : View V}

/-- A step that touches one address. -/
theorem Sound.step (sound : Sound kindOf dying env)
    (views : after.view = Function.update env.view address view)
    (ok : view.Ok kindOf (· ∈ env.collected) (dying · address))
    (collected : after.collected = env.collected)
    (targets : after.targets.length = after.references.next) (calledOnce : after.called.Nodup)
    (framesApart : ((after.frames.filter (·.2)).map Prod.fst).Nodup) :
    Sound kindOf dying after := by
  refine ⟨?_, targets, calledOnce, framesApart⟩
  intro place
  rw [views, collected]
  by_cases same : place = address
  · subst same
    rw [Function.update_self]
    exact ok
  · rw [Function.update_of_ne same]
    exact sound.ok place

theorem Sound.answered (sound : Sound kindOf dying env) (answer : Answer V) :
    ∃ next, env.answered answer = .ok next ∧ Sound kindOf dying next :=
  ⟨_, rfl, sound.ok, sound.targets, sound.calledOnce, sound.framesApart⟩

/-- The handle that the constructor makes. -/
theorem HandleOk.initial (kindOf : V → ValueKind) {collected : V → Prop} {value : V}
    (living : ¬ collected value) (initialRefcount : UInt32) (ownership : ReferenceOwnership)
    (finalizer : Option Bool) :
    let made : Reference V :=
      { persistent := .strong value
        refcount := initialRefcount
        ownership
        canBeWeak := canBeHeldWeakly kindOf value
        finalizer }
    HandleOk kindOf collected (fun _ => False) value
      (if initialRefcount = 0 then made.setWeak else made) := by
  dsimp only
  by_cases zero : initialRefcount = 0
  · rw [if_pos zero]
    cases held : canBeHeldWeakly kindOf value with
    | true =>
      refine ⟨held.symm, ?_, ?_, ?_⟩
      · rintro other ⟨⟩
      · rintro other ⟨⟩
        exact ⟨rfl, rfl, zero, living⟩
      · rintro ⟨⟩
    | false =>
      refine ⟨held.symm, ?_, ?_, ?_⟩
      · rintro other ⟨⟩
      · rintro other ⟨⟩
      · intro _
        refine ⟨zero, fun weakly => ?_⟩
        rw [held] at weakly
        cases weakly
  · rw [if_neg zero]
    refine ⟨rfl, ?_, ?_, ?_⟩
    · rintro other ⟨⟩
      exact ⟨rfl, living⟩
    · rintro other ⟨⟩
    · rintro ⟨⟩

theorem Sound.newReference (sound : Sound kindOf quiet env) {value : V}
    (living : value ∉ env.collected) (initialRefcount : UInt32) (ownership : ReferenceOwnership)
    (finalizer : Option Bool)
    (managed : ownership = .kRuntime ∨ finalizer ≠ none → canBeHeldWeakly kindOf value)
    (wrapper : V → Option Nat)
    (elsewhere : ∀ jsObject place, place ≠ env.references.next →
      (wrapper jsObject = some place ↔ env.wrapper jsObject = some place))
    (here : ∀ jsObject, wrapper jsObject = some env.references.next →
      jsObject = value ∧ kindOf value = .object) :
    Sound kindOf quiet
      { env.newReference kindOf value initialRefcount ownership finalizer with wrapper } := by
  have made := HandleOk.initial kindOf living initialRefcount ownership finalizer
  dsimp only at made
  unfold Env.newReference
  dsimp only
  generalize placed : (if initialRefcount = 0 then Reference.setWeak _ else _) = reference at made ⊢
  have kind : reference.ownership = ownership ∧ reference.finalizer = finalizer := by
    rw [← placed]
    unfold Reference.setWeak
    split <;> exact ⟨rfl, rfl⟩
  obtain ⟨rfl, rfl⟩ := kind
  have unknown : env.targets[env.references.next]? = none := by
    rw [← sound.targets]
    exact List.getElem?_eq_none (Nat.le_refl _)
  have blank := (sound.ok env.references.next).blank Heap.get?_next unknown
  have none' := congrArg View.listed blank
  have pending := congrArg View.pending blank
  have framed := congrArg View.framed blank
  have handle := congrArg View.handle blank
  have with' := congrArg View.withCallback blank
  have called := congrArg View.called blank
  have cancelled := congrArg View.cancelled blank
  simp only [Env.view, eq_iff_iff, iff_false, not_or] at none' pending framed handle
  simp only [Env.view, eq_iff_iff, iff_false] at with' called cancelled
  refine sound.step (show _ = Function.update env.view env.references.next _ from ?_)
    (View.Ok.create True made living managed here) rfl ?_ sound.calledOnce sound.framesApart
  · funext place
    by_cases same : place = env.references.next
    · subst same
      rw [Function.update_self]
      apply View.ext
      · exact Heap.get?_alloc_self
      · simp only [Env.view, ← sound.targets, List.getElem?_concat_length]
      · apply eq_true
        by_cases plain : reference.finalizer = none
        · exact .inl (by simp [plain])
        · exact .inr (by simp [plain])
      · exact eq_false pending
      · exact eq_false framed
      · apply propext
        show _ ∈ (if _ then _ else _) ↔ _
        split
        · simp [*]
        · simp [*]
      · apply propext
        show _ ∈ (if _ then _ else _) ↔ _
        split
        · simp [*]
        · simp [*]
      · exact eq_false called
      · exact eq_false cancelled
      · rfl
    · rw [Function.update_of_ne same]
      have cell : (env.references.alloc reference).get? place = env.references.get? place := by
        rcases Nat.lt_or_gt_of_ne same with older | beyond
        · exact Heap.get?_alloc_of_lt older
        · cases found : (env.references.alloc reference).get? place with
          | none =>
            cases before : env.references.get? place with
            | none => rfl
            | some other =>
              have := Heap.address_lt before
              omega
          | some other =>
            have := Heap.address_lt found
            rw [Heap.next_alloc] at this
            omega
      have target : (env.targets ++ [value])[place]? = env.targets[place]? := by
        rcases Nat.lt_or_gt_of_ne same with older | beyond
        · exact List.getElem?_append_left (by rw [sound.targets]; exact older)
        · rw [List.getElem?_eq_none (by simp [sound.targets]; omega),
            List.getElem?_eq_none (by simp [sound.targets]; omega)]
      apply View.ext
      · exact cell
      · exact target
      · apply propext
        show _ ∈ (if _ then _ else _) ∨ _ ∈ (if _ then _ else _) ↔ _
        by_cases plain : reference.finalizer = none
        · simp [plain, same, Env.view]
        · simp [plain, same, Env.view]
      · rfl
      · rfl
      · apply propext
        show _ ∈ (if _ then _ else _) ↔ _
        split
        · simp [same, Env.view]
        · rfl
      · apply propext
        show _ ∈ (if _ then _ else _) ↔ _
        split
        · simp [same, Env.view]
        · rfl
      · rfl
      · rfl
      · funext jsObject
        exact propext (elsewhere jsObject place same)
  · simp [sound.targets]

theorem View.Ok.unwrap {collected dying' : V → Prop} (ok : view.Ok kindOf collected dying')
    {wrapped : V → Prop} (fewer : ∀ value, wrapped value → view.wrapped value) :
    View.Ok kindOf collected dying' { view with wrapped } :=
  ⟨ok.alive, ok.managed, ok.listed, ok.pending, ok.framed, ok.handle,
    fun value wraps => ok.wrapped value (fewer value wraps), ok.queued, ok.owned, ok.waiting,
    ok.fate, ok.called, ok.known⟩

theorem wrapper_removed [DecidableEq V] {jsObject value : V} {place : Nat}
    (wraps : Function.update env.wrapper jsObject none value = some place) :
    value ≠ jsObject ∧ env.wrapper value = some place := by
  by_cases same : value = jsObject
  · subst same
    rw [Function.update_self] at wraps
    cases wraps
  · rw [Function.update_of_ne same] at wraps
    exact ⟨same, wraps⟩

theorem Sound.unwrap [DecidableEq V] (sound : Sound kindOf dying env) (jsObject : V) :
    Sound kindOf dying { env with wrapper := Function.update env.wrapper jsObject none } := by
  refine ⟨fun place => ?_, sound.targets, sound.calledOnce, sound.framesApart⟩
  exact (sound.ok place).unwrap fun value wraps => (wrapper_removed wraps).2

/-- No object but the target is wrapped with a reference. -/
theorem Sound.wrapped_target (sound : Sound kindOf dying env) {jsObject value : V}
    (one : env.wrapper jsObject = some address) (two : env.wrapper value = some address) :
    value = jsObject := by
  have first := ((sound.ok address).wrapped jsObject one).1
  have second := ((sound.ok address).wrapped value two).1
  exact Option.some.inj (second.symm.trans first)

/-- A wrapped reference is neither queued nor being finalized. -/
theorem Sound.wrapped_full (sound : Sound kindOf dying env) {jsObject : V}
    (wraps : env.wrapper jsObject = some address)
    (alive : env.references.get? address = some reference) : reference.persistent ≠ .empty := by
  intro empty
  obtain ⟨target, object, living, -⟩ := (sound.ok address).wrapped jsObject wraps
  obtain ⟨value, same, handle⟩ := (sound.ok address).alive reference alive
  obtain rfl := Option.some.inj (target.symm.trans same)
  refine living ((handle.empty empty).2 ?_)
  simp [canBeHeldWeakly, object]

/-- A call that changes the count. -/
theorem Sound.count (sound : Sound kindOf quiet env)
    (alive : env.references.get? address = some reference) {next : Reference V}
    (handle : ∀ target, HandleOk kindOf (· ∈ env.collected) (fun _ => False) target reference →
      HandleOk kindOf (· ∈ env.collected) (fun _ => False) target next)
    (owner : next.ownership = reference.ownership)
    (class' : next.finalizer = reference.finalizer)
    (keeps : reference.persistent = .empty → next.persistent = .empty) :
    Sound kindOf quiet (env.put address next) := by
  have ok := sound.ok address
  obtain ⟨target, at', handleOk⟩ := ok.alive reference alive
  have changed := View.Ok.change ok alive False handle owner (by rw [class']) keeps
    (by
      -- Emptied by a count of zero: no value that can be held weakly, so one of the user.
      intro empty
      by_cases kind : reference.ownership = .kRuntime ∨ reference.finalizer ≠ none
      · left
        have held := ok.managed reference alive kind target at'
        have gone := ((handle target handleOk).empty empty).2 held
        cases before : reference.persistent with
        | empty => rfl
        | strong value => exact absurd gone (handleOk.strong value before).2
        | weak value => exact absurd gone ((handleOk.weak value before).2.2.2)
      · right
        rw [owner, class']
        rw [not_or] at kind
        refine ⟨fun waiting => kind.2 ?_, kind.1⟩
        rw [waiting]
        exact Option.some_ne_none true)
    (fun waiting => ⟨class' ▸ waiting, id⟩) (fun waiting => .inl (class'.trans waiting)) False.elim
  refine sound.step (view_put alive) ?_ rfl ?_ sound.calledOnce sound.framesApart
  · rw [or_false] at changed
    exact changed
  · exact sound.targets.trans (Heap.next_set _).symm

/-- `ResetFinalizer` of a reference of the user. -/
theorem Sound.resetFinalizer (sound : Sound kindOf quiet env)
    (alive : env.references.get? address = some reference) :
    Sound kindOf quiet
      { env.put address { reference with finalizer := reference.finalizer.map fun _ => false } with
        cancelled := if reference.finalizer = some true then address :: env.cancelled
          else env.cancelled } := by
  have ok := sound.ok address
  have handle (target : V) (handle : HandleOk kindOf (· ∈ env.collected) (fun _ => False) target
      reference) : HandleOk kindOf (· ∈ env.collected) (fun _ => False) target
        { reference with finalizer := reference.finalizer.map fun _ => false } :=
    ⟨handle.weakable, handle.strong, handle.weak, handle.empty⟩
  have changed := View.Ok.change ok alive (reference.finalizer = some true) handle rfl
    (by simp) id (fun empty => .inl empty) (by simp) .inr id
  refine sound.step ?_ changed rfl ?_ sound.calledOnce sound.framesApart
  · funext place
    by_cases same : place = address
    · subst same
      rw [Function.update_self]
      apply View.ext
      · exact Heap.get?_set_self _ alive
      · rfl
      · rfl
      · rfl
      · rfl
      · rfl
      · rfl
      · rfl
      · show (_ ∈ if _ then _ else _) = _
        split
        · next waiting => simp [waiting]
        · next waiting => simp [waiting, Env.view]
      · rfl
    · rw [Function.update_of_ne same]
      apply View.ext
      · exact Heap.get?_set_of_ne _ same
      · rfl
      · rfl
      · rfl
      · rfl
      · rfl
      · rfl
      · rfl
      · show (_ ∈ if _ then _ else _) = _
        split
        · simp [same, Env.view]
        · rfl
      · rfl
  · exact sound.targets.trans (Heap.next_set _).symm

/-- A reference that nobody points to any more is deleted. -/
theorem Sound.gone (sound : Sound kindOf dying env)
    (alive : env.references.get? address = some reference)
    (unwrapped : ∀ jsObject, env.wrapper jsObject ≠ some address) (calls cancels : Prop)
    (one : calls → ¬ cancels) (first : calls ∨ cancels → reference.finalizer = some true)
    (settled : reference.finalizer = some true → calls ∨ cancels)
    (taken : calls → ∀ target, env.targets[address]? = some target → target ∈ env.collected)
    (views : after.view = Function.update env.view address
      { env.view address with
        cell := none
        listed := False
        pending := False
        framed := False
        handle := False
        called := calls ∨ (env.view address).called
        cancelled := (env.view address).cancelled ∨ cancels })
    (collected : after.collected = env.collected)
    (targets : after.targets.length = after.references.next) (calledOnce : after.called.Nodup)
    (framesApart : ((after.frames.filter (·.2)).map Prod.fst).Nodup) :
    Sound kindOf dying after :=
  sound.step views
    ((sound.ok address).gone alive unwrapped calls cancels one first settled taken) collected
    targets calledOnce framesApart

/-- `napi_delete_reference`. -/
theorem Sound.napiDeleteReference (sound : Sound kindOf quiet env) (handle : address ∈ env.handles)
    (unwrapped : ∀ jsObject, env.wrapper jsObject ≠ some address) :
    ∃ next, env.napiDeleteReference address = .ok next ∧ Sound kindOf quiet next := by
  obtain ⟨reference, alive, userland⟩ := (sound.ok address).handle handle
  have unframed : ¬ (env.view address).framed := by
    intro framed
    obtain ⟨-, _, same, -, runtime⟩ := (sound.ok address).framed framed
    obtain rfl := Option.some.inj (alive.symm.trans same)
    rw [userland] at runtime
    cases runtime
  refine ⟨_, by rw [Env.napiDeleteReference, destroy_eq alive, ok_bind]; rfl, ?_⟩
  refine sound.gone alive unwrapped False (reference.finalizer = some true) False.elim
    (by rintro (none' | waiting) <;> trivial) .inr False.elim ?_ rfl
    (sound.targets.trans (Heap.next_set _).symm) sound.calledOnce sound.framesApart
  have views : { env.destroyed address reference with
      handles := env.handles.filter (· ≠ address) }.view = _ :=
    view_handles (env.destroyed address reference) address
  refine views.trans ?_
  rw [view_destroyed alive, Function.update_idem, Function.update_self]
  refine congrArg _ (View.ext rfl rfl rfl rfl (eq_false unframed) rfl rfl ?_ rfl rfl)
  exact (false_or _).symm

/-- `RemoveWrap` of a reference of the runtime. -/
theorem Sound.destroyed (sound : Sound kindOf dying env)
    (alive : env.references.get? address = some reference)
    (unwrapped : ∀ jsObject, env.wrapper jsObject ≠ some address)
    (full : reference.persistent ≠ .empty) (runtime : reference.ownership = .kRuntime) :
    Sound kindOf dying (env.destroyed address reference) := by
  have unframed : ¬ (env.view address).framed := by
    intro framed
    obtain ⟨-, _, same, empty, -⟩ := (sound.ok address).framed framed
    obtain rfl := Option.some.inj (alive.symm.trans same)
    exact full empty
  have unhandled : ¬ (env.view address).handle := by
    intro handle
    obtain ⟨_, same, userland⟩ := (sound.ok address).handle handle
    obtain rfl := Option.some.inj (alive.symm.trans same)
    rw [runtime] at userland
    cases userland
  refine sound.gone alive unwrapped False (reference.finalizer = some true) False.elim
    (by rintro (none' | waiting) <;> trivial) .inr False.elim ?_ rfl
    (sound.targets.trans (Heap.next_set _).symm) sound.calledOnce sound.framesApart
  rw [view_destroyed alive]
  exact congrArg _ (View.ext rfl rfl rfl rfl (eq_false unframed) (eq_false unhandled) rfl
    (false_or _).symm rfl rfl)

/-- The callback that `CallFinalizer` leaves. -/
def afterCall (finalizer : Option Bool) : Option Bool :=
  if finalizer = some true then some false else finalizer

/-- What `Finalize` does before the callback runs, and `CallFinalizer` in it. -/
def Env.reset (env : Env V) (address : Nat) (this : Reference V) : Env V :=
  { (env.put address
      { this with persistent := .empty, finalizer := afterCall this.finalizer }).unlink address with
    called := if this.finalizer = some true then address :: env.called else env.called }

theorem finalize_eq (alive : env.references.get? address = some reference)
    (inGcFinalizer : Bool) :
    env.finalize address inGcFinalizer =
      if reference.finalizer = some true ∧ inGcFinalizer = false then
        .ok { env.reset address reference with
          frames := (address, decide (reference.ownership = .kRuntime)) :: env.frames }
      else (env.reset address reference).leave address (reference.ownership = .kRuntime) := by
  rw [Env.finalize, Heap.read_of_get? alive, ok_bind]
  dsimp only
  unfold Env.reset afterCall
  by_cases waiting : reference.finalizer = some true
  · cases inGcFinalizer <;> simp only [waiting, ↓reduceIte, and_self, and_false, Bool.false_eq_true,
      Bool.true_eq_false] <;> rfl
  · simp only [waiting, ↓reduceIte, false_and]
    rfl

theorem view_reset (alive : env.references.get? address = some reference) :
    (env.reset address reference).view = Function.update env.view address
      { env.view address with
        cell := some
          { reference with persistent := .empty, finalizer := afterCall reference.finalizer }
        listed := False
        called := reference.finalizer = some true ∨ (env.view address).called } := by
  have unlinked := view_unlink
    (env.put address
      { reference with persistent := .empty, finalizer := afterCall reference.finalizer })
    address
  rw [view_put alive, Function.update_idem, Function.update_self] at unlinked
  by_cases waiting : reference.finalizer = some true
  · unfold Env.reset
    rw [if_pos waiting]
    refine (view_called ((env.put address _).unlink address) address).trans ?_
    rw [unlinked, Function.update_idem, Function.update_self]
    exact congrArg _ (View.ext rfl rfl rfl rfl rfl rfl rfl (eq_true (.inl waiting)).symm rfl rfl)
  · unfold Env.reset
    rw [if_neg waiting]
    refine unlinked.trans (congrArg _ (View.ext rfl rfl rfl rfl rfl rfl rfl ?_ rfl rfl))
    rw [eq_false waiting, false_or]

theorem get?_reset (alive : env.references.get? address = some reference) :
    (env.reset address reference).references.get? address =
      some { reference with persistent := .empty, finalizer := afterCall reference.finalizer } :=
  Heap.get?_set_self _ alive

/-- The state before a `Finalize`, and the one from which it starts: the reference has been
emptied, and has left the queue. -/
structure Starts (kindOf : V → ValueKind) (env start : Env V) (address : Nat)
    (before : Reference V) : Prop where
  alive : env.references.get? address = some before
  found : start.references.get? address = some { before with persistent := .empty }
  views : start.view = Function.update env.view address
    { env.view address with cell := some { before with persistent := .empty }, pending := False }
  collected : start.collected = env.collected
  targets : start.targets = env.targets
  next : start.references.next = env.references.next
  called : start.called = env.called
  frames : start.frames = env.frames
  unframed : ¬ (env.view address).framed
  unwrapped : ∀ jsObject, env.wrapper jsObject ≠ some address
  zero : before.refcount = 0
  taken : ∀ target, env.targets[address]? = some target → canBeHeldWeakly kindOf target →
    target ∈ env.collected

section

variable {start : Env V} {before : Reference V}

theorem Starts.view_reset (starts : Starts kindOf env start address before) :
    (start.reset address { before with persistent := .empty }).view =
      Function.update env.view address
        { env.view address with
          cell := some { before with persistent := .empty, finalizer := afterCall before.finalizer }
          listed := False
          pending := False
          called := before.finalizer = some true ∨ (env.view address).called } := by
  rw [NapiReference.view_reset starts.found, starts.views, Function.update_idem,
    Function.update_self]

theorem Starts.calledOnce (starts : Starts kindOf env start address before)
    (sound : Sound kindOf dying env) :
    (start.reset address { before with persistent := .empty }).called.Nodup := by
  show List.Nodup (if before.finalizer = some true then address :: start.called else start.called)
  split
  · next waiting =>
    rw [starts.called]
    exact List.nodup_cons.mpr
      ⟨((sound.ok address).waiting before starts.alive waiting).2.1, sound.calledOnce⟩
  · rw [starts.called]
    exact sound.calledOnce

theorem Starts.sizes (starts : Starts kindOf env start address before)
    (sound : Sound kindOf dying env) :
    start.targets.length =
      (start.reset address { before with persistent := .empty }).references.next := by
  refine Eq.trans ?_ (Heap.next_set _).symm
  rw [starts.targets, starts.next, sound.targets]

/-- The reference, once its callback has been taken out. -/
theorem Starts.finalized (starts : Starts kindOf env start address before)
    (sound : Sound kindOf dying env) (framed : Prop)
    (owned : before.ownership = .kRuntime ↔ framed) :
    View.Ok kindOf (· ∈ env.collected) (dying · address)
      { env.view address with
        cell := some { before with persistent := .empty, finalizer := afterCall before.finalizer }
        listed := False
        pending := False
        framed
        called := before.finalizer = some true ∨ (env.view address).called } :=
  (sound.ok address).finalize starts.alive starts.unwrapped (before.finalizer = some true) framed
    Iff.rfl starts.zero starts.taken owned

/-- The callback runs. -/
theorem Starts.runs (starts : Starts kindOf env start address before)
    (sound : Sound kindOf dying env) :
    Sound kindOf dying
      { start.reset address { before with persistent := .empty } with
        frames := (address, decide (before.ownership = .kRuntime)) :: start.frames } := by
  refine sound.step ?_ (starts.finalized sound (before.ownership = .kRuntime) Iff.rfl)
    starts.collected (starts.sizes sound) (starts.calledOnce sound) ?_
  · have pushed := view_frame (start.reset address { before with persistent := .empty }) address
      (decide (before.ownership = .kRuntime))
    refine pushed.trans ?_
    rw [starts.view_reset, Function.update_idem, Function.update_self]
    refine congrArg _ (View.ext rfl rfl rfl rfl ?_ rfl rfl rfl rfl rfl)
    rw [eq_false starts.unframed, or_false, decide_eq_true_eq]
  · rw [starts.frames]
    by_cases runtime : before.ownership = .kRuntime
    · simp only [runtime, decide_true, List.filter_cons, ↓reduceIte, List.map_cons]
      refine List.nodup_cons.mpr ⟨?_, sound.framesApart⟩
      intro inside
      obtain ⟨⟨place, deleteMe⟩, entry, same⟩ := List.mem_map.mp inside
      obtain ⟨entry, framed⟩ := List.mem_filter.mp entry
      dsimp only at same framed
      subst same framed
      exact starts.unframed entry
    · simp only [runtime, decide_false, List.filter_cons, Bool.false_eq_true, ↓reduceIte]
      exact sound.framesApart

/-- The reference of the user stays. -/
theorem Starts.stays (starts : Starts kindOf env start address before)
    (sound : Sound kindOf dying env) (userland : before.ownership ≠ .kRuntime) :
    Sound kindOf dying (start.reset address { before with persistent := .empty }) := by
  refine sound.step ?_ (starts.finalized sound False ⟨userland, False.elim⟩) starts.collected
    (starts.sizes sound) (starts.calledOnce sound) (starts.frames ▸ sound.framesApart)
  rw [starts.view_reset]
  exact congrArg _ (View.ext rfl rfl rfl rfl (eq_false starts.unframed) rfl rfl rfl rfl rfl)

/-- The reference of the runtime is deleted. -/
theorem Starts.deleted (starts : Starts kindOf env start address before)
    (sound : Sound kindOf dying env) (runtime : before.ownership = .kRuntime) :
    Sound kindOf dying
      ((start.reset address { before with persistent := .empty }).destroyed address
        { before with persistent := .empty, finalizer := afterCall before.finalizer }) := by
  have ok := sound.ok address
  have living := get?_reset starts.found
  have unhandled : ¬ (env.view address).handle := by
    intro handle
    obtain ⟨_, same, userland⟩ := ok.handle handle
    obtain rfl := Option.some.inj (starts.alive.symm.trans same)
    rw [runtime] at userland
    cases userland
  have called : afterCall before.finalizer ≠ some true := by
    unfold afterCall
    split
    · simp
    · assumption
  refine sound.gone starts.alive starts.unwrapped (before.finalizer = some true) False
    (fun _ => id) (by rintro (waiting | none') <;> trivial) .inl ?_ ?_ starts.collected
    ((starts.sizes sound).trans (Heap.next_set _).symm) ?_ (starts.frames ▸ sound.framesApart)
  · intro waiting target at'
    refine starts.taken target at' (ok.managed before starts.alive (.inr ?_) target at')
    rw [waiting]
    exact Option.some_ne_none true
  · rw [view_destroyed living, starts.view_reset, Function.update_idem, Function.update_self]
    refine congrArg _ (View.ext rfl rfl rfl rfl (eq_false starts.unframed) (eq_false unhandled) rfl
      rfl ?_ rfl)
    show ((env.view address).cancelled ∨ afterCall before.finalizer = some true) =
      ((env.view address).cancelled ∨ False)
    rw [eq_false called]
  · exact starts.calledOnce sound

theorem Starts.finalize (starts : Starts kindOf env start address before)
    (sound : Sound kindOf dying env) (inGcFinalizer : Bool) :
    ∃ next, start.finalize address inGcFinalizer = .ok next ∧ Sound kindOf dying next ∧
      next.references.next = env.references.next ∧ next.collected = env.collected ∧
      ∀ left, next.references.get? address = some left → left.persistent = .empty := by
  have sizes : (start.reset address { before with persistent := .empty }).references.next =
      env.references.next := (Heap.next_set _).trans starts.next
  have found := get?_reset starts.found
  have emptied : ∀ left, (start.reset address
      { before with persistent := .empty }).references.get? address = some left →
      left.persistent = .empty := by
    intro left alive
    obtain rfl := Option.some.inj (found.symm.trans alive)
    rfl
  rw [finalize_eq starts.found]
  split
  · exact ⟨_, rfl, starts.runs sound, sizes, starts.collected, emptied⟩
  · by_cases runtime : before.ownership = .kRuntime
    · rw [Env.leave, if_pos (by simpa using runtime), destroy_eq found]
      refine ⟨_, rfl, starts.deleted sound runtime, (Heap.next_set _).trans sizes,
        starts.collected, ?_⟩
      intro left alive
      rw [Env.destroyed, Heap.get?_set_self none found] at alive
      cases alive
    · rw [Env.leave, if_neg (by simpa using runtime)]
      exact ⟨_, rfl, starts.stays sound runtime, sizes, starts.collected, emptied⟩

end

/-! ## The collector and the queue -/

/-- The next finalizer of the queue. -/
theorem Sound.drain (sound : Sound kindOf quiet env) (queued : address ∈ env.pendingFinalizers) :
    ∃ next, (env.dequeueFinalizer address).finalize address false = .ok next ∧
      Sound kindOf quiet next := by
  have ok := sound.ok address
  obtain ⟨before, alive, empty, class'⟩ := ok.pending queued
  obtain ⟨target, at', handle⟩ := ok.alive before alive
  have same : { before with persistent := .empty } = before := by rw [← empty]
  have starts : Starts kindOf env (env.dequeueFinalizer address) address before := by
    refine ⟨alive, ?_, ?_, rfl, rfl, rfl, rfl, rfl, ?_, ?_, (handle.empty empty).1, ?_⟩
    · rw [same]
      exact alive
    · rw [same, view_dequeue]
      exact congrArg _ (View.ext alive rfl rfl rfl rfl rfl rfl rfl rfl rfl)
    · exact fun framed => (ok.framed framed).1 queued
    · exact fun jsObject wraps => sound.wrapped_full wraps alive empty
    · intro value same' held
      obtain rfl := Option.some.inj (at'.symm.trans same')
      exact (handle.empty empty).2 held
  obtain ⟨next, ran, kept, -⟩ := starts.finalize sound false
  exact ⟨next, ran, kept⟩

/-- A weak callback of a value that has been taken. -/
theorem Sound.weakCallback (sound : Sound kindOf dying env) {value : V}
    (alive : env.references.get? address = some reference)
    (weak : reference.persistent = .weak value) (taken : value ∈ env.collected) :
    ∃ next, env.weakCallback address = .ok next ∧ Sound kindOf dying next ∧
      next.references.next = env.references.next ∧ next.collected = env.collected ∧
      ∀ left, next.references.get? address = some left → left.persistent = .empty := by
  have ok := sound.ok address
  obtain ⟨target, at', handle⟩ := ok.alive reference alive
  obtain ⟨rfl, -, zero, -⟩ := handle.weak value weak
  have full : reference.persistent ≠ .empty := by
    rw [weak]
    rintro ⟨⟩
  have unqueued : ¬ (env.view address).pending := by
    intro queued
    obtain ⟨_, same, empty, -⟩ := ok.pending queued
    obtain rfl := Option.some.inj (alive.symm.trans same)
    exact full empty
  have unframed : ¬ (env.view address).framed := by
    intro framed
    obtain ⟨-, _, same, empty, -⟩ := ok.framed framed
    obtain rfl := Option.some.inj (alive.symm.trans same)
    exact full empty
  have targets : ∀ other, env.targets[address]? = some other → other ∈ env.collected := by
    intro other same
    obtain rfl := Option.some.inj (at'.symm.trans same)
    exact taken
  have starts : Starts kindOf env (env.put address { reference with persistent := .empty }) address
      reference := by
    refine ⟨alive, Heap.get?_set_self _ alive, ?_, rfl, rfl, Heap.next_set _, rfl, rfl, unframed,
      ?_, zero, fun other same _ => targets other same⟩
    · rw [view_put alive]
      exact congrArg _ (View.ext rfl rfl rfl (eq_false unqueued) rfl rfl rfl rfl rfl rfl)
    · intro jsObject wraps
      obtain ⟨same, -, living, -⟩ := ok.wrapped jsObject wraps
      exact living (targets jsObject same)
  rw [Env.weakCallback, Heap.read_of_get? alive, ok_bind]
  dsimp only
  by_cases plain : reference.finalizer = none
  · rw [if_pos plain]
    exact starts.finalize sound false
  · rw [if_neg plain]
    split
    · exact starts.finalize sound true
    · refine ⟨_, rfl, ?_, Heap.next_set _, rfl, ?_⟩
      · refine sound.step ?_ (ok.enqueue alive unframed plain zero targets) rfl
          (sound.targets.trans (Heap.next_set _).symm) sound.calledOnce sound.framesApart
        refine (view_enqueue (env.put address _) address).trans ?_
        rw [view_put alive, Function.update_idem, Function.update_self]
      · intro left same
        obtain rfl := Option.some.inj ((Heap.get?_set_self _ alive).symm.trans same)
        rfl

/-- While the collector goes through the references: those from `index` on may still be weak
handles of the value. -/
def dyingFrom (value : V) (index : Nat) (other : V) (address : Nat) : Prop :=
  other = value ∧ index ≤ address

theorem HandleOk.mono {collected dying' dying'' : V → Prop} {target : V}
    (handle : HandleOk kindOf collected dying' target reference)
    (fewer : reference.persistent = .weak target → collected target → dying' target →
      dying'' target) : HandleOk kindOf collected dying'' target reference := by
  refine ⟨handle.weakable, handle.strong, ?_, handle.empty⟩
  intro value weak
  obtain ⟨rfl, weakable, zero, last⟩ := handle.weak value weak
  exact ⟨rfl, weakable, zero, fun gone => fewer weak gone (last gone)⟩

theorem View.Ok.mono {collected dying' dying'' : V → Prop} (ok : view.Ok kindOf collected dying')
    (fewer : ∀ reference target, view.cell = some reference → view.target = some target →
      reference.persistent = .weak target → collected target → dying' target → dying'' target) :
    view.Ok kindOf collected dying'' := by
  refine ⟨?_, ok.managed, ok.listed, ok.pending, ok.framed, ok.handle, ok.wrapped, ok.queued,
    ok.owned, ok.waiting, ok.fate, ok.called, ok.known⟩
  intro reference found
  obtain ⟨target, at', handle⟩ := ok.alive reference found
  exact ⟨target, at', handle.mono (fewer reference target found at')⟩

/-- The value is marked before the first callback. -/
theorem Sound.mark [DecidableEq V] (sound : Sound kindOf quiet env) (value : V)
    (free : ∀ address reference, env.references.get? address = some reference →
      reference.persistent ≠ .strong value) :
    Sound kindOf (dyingFrom value 0)
      { env with
        collected := value :: env.collected
        wrapper := Function.update env.wrapper value none } := by
  refine ⟨fun place => ?_, sound.targets, sound.calledOnce, sound.framesApart⟩
  have ok := sound.ok place
  refine ⟨?_, ok.managed, ok.listed, ok.pending, ok.framed, ok.handle, ?_, ok.queued, ok.owned,
    ok.waiting, ok.fate, ?_, ok.known⟩
  · intro reference found
    obtain ⟨target, at', handle⟩ := ok.alive reference found
    refine ⟨target, at', handle.weakable, ?_, ?_, ?_⟩
    · intro other strong
      obtain ⟨rfl, living⟩ := handle.strong other strong
      refine ⟨rfl, fun gone => ?_⟩
      obtain rfl | before := List.mem_cons.mp gone
      · exact free place reference found strong
      · exact living before
    · intro other weak
      obtain ⟨rfl, weakable, zero, last⟩ := handle.weak other weak
      refine ⟨rfl, weakable, zero, fun gone => ?_⟩
      obtain rfl | before := List.mem_cons.mp gone
      · exact ⟨rfl, Nat.zero_le _⟩
      · exact (last before).elim
    · intro empty
      obtain ⟨zero, gone⟩ := handle.empty empty
      exact ⟨zero, fun held => List.mem_cons_of_mem _ (gone held)⟩
  · intro jsObject wraps
    obtain ⟨other, before⟩ := wrapper_removed wraps
    obtain ⟨same, object, living, alive⟩ := ok.wrapped jsObject before
    refine ⟨same, object, fun gone => ?_, alive⟩
    obtain rfl | gone := List.mem_cons.mp gone
    · exact other rfl
    · exact living gone
  · intro called
    obtain ⟨kept, target, at', gone⟩ := ok.called called
    exact ⟨kept, target, at', List.mem_cons_of_mem _ gone⟩

theorem Env.holds_eq_false [DecidableEq V] {value : V} (free : env.holds value = false)
    (alive : env.references.get? address = some reference) :
    reference.persistent ≠ .strong value := by
  intro strong
  have cell : env.references.cells[address]? = some (some reference) := by
    simpa [Heap.get?, Option.join_eq_some_iff] using alive
  have inside := List.mem_of_getElem? cell
  rw [Env.holds, List.any_eq_false] at free
  refine free _ inside ?_
  simp [strong]

/-- No reference is left that the collector has not called back. -/
theorem Sound.collect [DecidableEq V] (sound : Sound kindOf quiet env) {value : V}
    (free : env.holds value = false) :
    ∃ next, env.collect value = .ok next ∧ Sound kindOf quiet next := by
  have marked := sound.mark value fun _ _ alive => Env.holds_eq_false free alive
  unfold Env.collect
  dsimp only
  generalize start : ({ env with
    collected := value :: env.collected
    wrapper := Function.update env.wrapper value none } : Env V) = first at marked
  have taken : value ∈ first.collected := by
    rw [← start]
    exact List.mem_cons_self
  have sizes : first.references.next = env.references.next := by rw [← start]
  have goes (index : Nat) : ∃ next,
      (List.range index).foldlM (Env.visit value) first = .ok next ∧
      Sound kindOf (dyingFrom value index) next ∧
      next.references.next = first.references.next ∧ next.collected = first.collected := by
    induction index with
    | zero => exact ⟨first, rfl, marked, rfl, rfl⟩
    | succ index ih =>
      obtain ⟨middle, ran, kept, size, collected⟩ := ih
      -- Past an address that is not a weak handle of the value, only the bound moves.
      have skip {after : Env V} (sound : Sound kindOf (dyingFrom value index) after)
          (passed : ∀ reference, after.references.get? index = some reference →
            reference.persistent ≠ .weak value) :
          Sound kindOf (dyingFrom value (index + 1)) after := by
        refine ⟨fun place => (sound.ok place).mono ?_, sound.targets, sound.calledOnce,
          sound.framesApart⟩
        rintro reference target found - weak - ⟨rfl, bound⟩
        refine ⟨rfl, Nat.lt_of_le_of_ne bound ?_⟩
        rintro rfl
        exact passed reference found weak
      rw [List.range_succ, List.foldlM_append, ran, ok_bind, List.foldlM_cons]
      simp only [List.foldlM_nil, bind_pure, Env.visit]
      cases found : middle.references.get? index with
      | none =>
        refine ⟨middle, rfl, skip kept ?_, size, collected⟩
        rintro reference alive
        rw [found] at alive
        cases alive
      | some reference =>
        dsimp only
        by_cases weak : reference.persistent = .weak value
        · obtain ⟨next, called, after, size', collected', emptied⟩ :=
            kept.weakCallback found weak (collected ▸ taken)
          rw [if_pos weak, called]
          refine ⟨next, rfl, skip after ?_, size'.trans size, collected'.trans collected⟩
          rintro left alive other
          rw [emptied left alive] at other
          cases other
        · rw [if_neg weak]
          refine ⟨middle, rfl, skip kept ?_, size, collected⟩
          rintro other alive
          obtain rfl := Option.some.inj (found.symm.trans alive)
          exact weak
  obtain ⟨next, ran, kept, size, -⟩ := goes env.references.next
  refine ⟨next, ran, fun place => (kept.ok place).mono ?_, kept.targets, kept.calledOnce,
    kept.framesApart⟩
  rintro reference target found - - - ⟨-, beyond⟩
  have inside : place < next.references.next := Heap.address_lt found
  omega

theorem view_pop {entry : Nat × Bool} {rest : List (Nat × Bool)}
    (frames : env.frames = entry :: rest)
    (framesApart : ((env.frames.filter (·.2)).map Prod.fst).Nodup) :
    { env with frames := rest }.view = Function.update env.view entry.1
      { env.view entry.1 with framed := (env.view entry.1).framed ∧ entry.2 = false } := by
  obtain ⟨address, deleteMe⟩ := entry
  rw [frames] at framesApart
  funext place
  by_cases same : place = address
  · subst same
    rw [Function.update_self]
    refine View.ext rfl rfl rfl rfl ?_ rfl rfl rfl rfl rfl
    cases deleteMe with
    | false => simp [Env.view, frames]
    | true =>
      simp only [List.filter_cons, ↓reduceIte, List.map_cons, List.nodup_cons, List.mem_map,
        List.mem_filter, not_exists, not_and] at framesApart
      refine propext ⟨fun inside => (framesApart.1 _ ⟨inside, rfl⟩ rfl).elim, ?_⟩
      rintro ⟨-, ⟨⟩⟩
  · rw [Function.update_of_ne same]
    refine View.ext rfl rfl rfl rfl ?_ rfl rfl rfl rfl rfl
    simp [Env.view, frames, same]

/-- The callback returns, and a reference of the runtime is deleted. -/
theorem Sound.finalizerReturns (sound : Sound kindOf quiet env) {deleteMe : Bool}
    {frames : List (Nat × Bool)} (top : env.frames = (address, deleteMe) :: frames) :
    ∃ next, ({ env with frames } : Env V).leave address deleteMe = .ok next ∧
      Sound kindOf quiet next := by
  have ok := sound.ok address
  have popped := view_pop top sound.framesApart
  have apart : ((frames.filter (·.2)).map Prod.fst).Nodup := by
    have all := sound.framesApart
    rw [top, List.filter_cons] at all
    split at all
    · rw [List.map_cons] at all
      exact (List.nodup_cons.mp all).2
    · exact all
  cases deleteMe with
  | false =>
    refine ⟨_, rfl, sound.step popped ?_ rfl sound.targets sound.calledOnce apart⟩
    have same : (env.view address).framed = ((env.view address).framed ∧ (false = false)) := by simp
    refine cast (congrArg _ ?_) ok
    exact View.ext rfl rfl rfl rfl same rfl rfl rfl rfl rfl
  | true =>
    have framed : (env.view address).framed := by
      show (address, true) ∈ env.frames
      rw [top]
      exact List.mem_cons_self
    obtain ⟨unqueued, reference, alive, empty, runtime⟩ := ok.framed framed
    have unhandled : ¬ (env.view address).handle := by
      intro handle
      obtain ⟨_, same, userland⟩ := ok.handle handle
      obtain rfl := Option.some.inj (alive.symm.trans same)
      rw [runtime] at userland
      cases userland
    have living : ({ env with frames } : Env V).references.get? address = some reference := alive
    rw [Env.leave, if_pos rfl, destroy_eq living]
    refine ⟨_, rfl, sound.gone alive (fun _ wraps => sound.wrapped_full wraps alive empty) False
      (reference.finalizer = some true) False.elim (by rintro (none' | waiting) <;> trivial) .inr
      False.elim ?_ rfl (sound.targets.trans (Heap.next_set _).symm) sound.calledOnce apart⟩
    rw [view_destroyed living, popped, Function.update_idem, Function.update_self]
    refine congrArg _ (View.ext rfl rfl rfl rfl ?_ (eq_false unhandled) rfl (false_or _).symm rfl
      rfl)
    simp

/-! ## Every call -/

theorem Sound.napiCreateReference (sound : Sound kindOf quiet env) {value : V}
    (living : value ∉ env.collected) (initialRefcount : UInt32) :
    ∃ next, env.napiCreateReference kindOf value initialRefcount = .ok next ∧
      Sound kindOf quiet next := by
  rw [Env.napiCreateReference]
  split
  · exact sound.answered _
  · have made := sound.newReference living initialRefcount .kUserland none (by simp) env.wrapper
      (fun _ _ _ => Iff.rfl) (fun jsObject wraps => by
        obtain ⟨-, -, -, reference, alive⟩ := (sound.ok env.references.next).wrapped jsObject wraps
        exact absurd (Heap.get?_next.symm.trans alive) nofun)
    exact made.answered _

theorem Sound.wrap [DecidableEq V] (sound : Sound kindOf quiet env) {jsObject : V}
    (living : jsObject ∉ env.collected) (result finalizeCb : Bool) :
    ∃ next, env.wrap kindOf jsObject result finalizeCb = .ok next ∧ Sound kindOf quiet next := by
  rw [Env.wrap]
  split
  · exact sound.answered _
  · next object =>
    split
    · exact sound.answered _
    · next unwrapped =>
      split
      · exact sound.answered _
      · have object : kindOf jsObject = .object := not_not.mp object
        have none' : env.wrapper jsObject = none := not_not.mp unwrapped
        have made := sound.newReference living 0 (if result then .kUserland else .kRuntime)
          (if finalizeCb then some true else none) (fun _ => by simp [canBeHeldWeakly, object])
          (Function.update env.wrapper jsObject (some env.references.next))
          (by
            intro other place elsewhere
            by_cases same : other = jsObject
            · subst same
              rw [Function.update_self, none', Option.some.injEq]
              exact ⟨fun equal => absurd equal.symm elsewhere, nofun⟩
            · rw [Function.update_of_ne same])
          (by
            intro other wraps
            by_cases same : other = jsObject
            · exact ⟨same, object⟩
            · rw [Function.update_of_ne same] at wraps
              obtain ⟨-, -, -, reference, alive⟩ :=
                (sound.ok env.references.next).wrapped other wraps
              exact absurd (Heap.get?_next.symm.trans alive) nofun)
        exact made.answered _

theorem Sound.removeWrap [DecidableEq V] (sound : Sound kindOf quiet env) (jsObject : V) :
    ∃ next, env.removeWrap kindOf jsObject = .ok next ∧ Sound kindOf quiet next := by
  rw [Env.removeWrap]
  split
  · exact sound.answered _
  · cases wraps : env.wrapper jsObject with
    | none => exact sound.answered _
    | some address =>
      obtain ⟨-, -, -, reference, alive⟩ := (sound.ok address).wrapped jsObject wraps
      dsimp only
      rw [Heap.read_of_get? alive, ok_bind]
      have removed := sound.unwrap jsObject
      split
      · exact (removed.resetFinalizer alive).answered _
      · next runtime =>
        have runtime : reference.ownership = .kRuntime := by
          cases owner : reference.ownership with
          | kRuntime => rfl
          | kUserland => exact absurd owner runtime
        have living : Heap.get? ({ env with
            wrapper := Function.update env.wrapper jsObject none } : Env V).references address =
            some reference := alive
        rw [destroy_eq living, ok_bind]
        refine (removed.destroyed alive ?_ (sound.wrapped_full wraps alive) runtime).answered _
        intro other still
        obtain ⟨apart, before⟩ := wrapper_removed still
        exact apart (sound.wrapped_target wraps before)

theorem Sound.call [DecidableEq V] (sound : Sound kindOf quiet env) {action : Action V}
    (proper : Proper env action) {outcome : Except Fault (Env V)}
    (called : env.call kindOf action = some outcome) :
    ∃ next, outcome = .ok next ∧ Sound kindOf quiet next := by
  cases action with
  | createReference value initialRefcount =>
    simp only [Env.call, Option.ite_none_left_eq_some, Option.some.injEq] at called
    obtain ⟨living, rfl⟩ := called
    exact sound.napiCreateReference living initialRefcount
  | deleteReference ref =>
    obtain rfl := Option.some.inj called
    exact sound.napiDeleteReference proper.1 proper.2
  | ref ref =>
    obtain rfl := Option.some.inj called
    obtain ⟨reference, alive, -⟩ := (sound.ok ref).handle proper
    rw [Env.napiReferenceRef, Heap.read_of_get? alive, ok_bind]
    refine (sound.count alive (fun target handle => handle.ref) reference.ref_fields.1
      reference.ref_fields.2 fun empty => ?_).answered _
    simp [Reference.ref, Persistent.isEmpty, empty]
  | unref ref =>
    obtain rfl := Option.some.inj called
    obtain ⟨reference, alive, -⟩ := (sound.ok ref).handle proper
    rw [Env.napiReferenceUnref, Heap.read_of_get? alive, ok_bind]
    split
    · exact sound.answered _
    · refine (sound.count alive (fun target handle => handle.unref) reference.unref_fields.1
        reference.unref_fields.2 fun empty => ?_).answered _
      simp [Reference.unref, Persistent.isEmpty, empty]
  | getValue ref =>
    obtain rfl := Option.some.inj called
    obtain ⟨reference, alive, -⟩ := (sound.ok ref).handle proper
    rw [Env.napiGetReferenceValue, Heap.read_of_get? alive, ok_bind]
    exact sound.answered _
  | wrap jsObject result finalizeCb =>
    simp only [Env.call, Option.ite_none_left_eq_some, Option.some.injEq] at called
    obtain ⟨living, rfl⟩ := called
    exact sound.wrap living result finalizeCb
  | unwrap jsObject =>
    simp only [Env.call, Option.ite_none_left_eq_some, Option.some.injEq] at called
    obtain ⟨living, rfl⟩ := called
    rw [Env.unwrap]
    split
    · exact sound.answered _
    · cases wraps : env.wrapper jsObject with
      | none => exact sound.answered _
      | some address =>
        obtain ⟨-, -, -, reference, alive⟩ := (sound.ok address).wrapped jsObject wraps
        dsimp only
        rw [Heap.read_of_get? alive, ok_bind]
        exact sound.answered _
  | removeWrap jsObject =>
    simp only [Env.call, Option.ite_none_left_eq_some, Option.some.injEq] at called
    obtain ⟨living, rfl⟩ := called
    exact sound.removeWrap jsObject
  | collect value =>
    simp only [Env.call, Option.ite_none_left_eq_some, Option.some.injEq, not_or] at called
    obtain ⟨⟨-, free⟩, rfl⟩ := called
    exact sound.collect (by simpa using free)
  | drain ref =>
    simp only [Env.call, Option.ite_none_right_eq_some, Option.some.injEq] at called
    obtain ⟨queued, rfl⟩ := called
    exact sound.drain queued
  | finalizerReturns =>
    cases top : env.frames with
    | nil => simp [Env.call, top] at called
    | cons entry frames =>
      simp only [Env.call, top, Option.some.injEq] at called
      obtain rfl := called
      exact sound.finalizerReturns top

theorem Sound.start (isExperimental : Bool) :
    Sound kindOf quiet ({ isExperimental } : Env V) := by
  have none' (place : Nat) : ({ isExperimental } : Env V).view place =
      ⟨none, none, False, False, False, False, False, False, False, fun _ => False⟩ := by
    refine View.ext rfl rfl ?_ ?_ ?_ ?_ ?_ ?_ ?_ ?_ <;> simp [Env.view]
  refine ⟨fun place => ?_, rfl, List.nodup_nil, List.nodup_nil⟩
  rw [none']
  refine ⟨?_, ?_, False.elim, False.elim, False.elim, False.elim, fun _ => False.elim, ?_, ?_, ?_,
    False.elim, False.elim, by simp⟩ <;> rintro _ ⟨⟩

theorem Sound.run [DecidableEq V] {isExperimental : Bool} {trace : List (Action V)}
    {outcome : Except Fault (Env V)}
    (proper : (references kindOf isExperimental).Meets Proper { isExperimental } trace)
    (ran : (references kindOf isExperimental).run trace = some outcome) :
    ∃ env, outcome = .ok env ∧ Sound kindOf quiet env := by
  have step : ∀ state action outcome, Sound kindOf quiet state → Proper state action →
      (references kindOf isExperimental).call state action = some outcome →
      (∃ env, outcome = .ok env) ∧ ∀ next, outcome = .ok next → Sound kindOf quiet next := by
    intro state action outcome sound proper called
    obtain ⟨next, rfl, kept⟩ := sound.call proper called
    exact ⟨⟨next, rfl⟩, fun _ same => Except.ok.inj same ▸ kept⟩
  have all := Program.run_invariant (Sound kindOf quiet) (fun outcome => ∃ env, outcome = .ok env)
    (Sound.start isExperimental) (fun env _ => ⟨env, rfl⟩) step proper ran
  obtain ⟨⟨env, rfl⟩, kept⟩ := all
  exact ⟨env, rfl, kept env rfl⟩

end Steps

/-- What the user sees through its references: a value only while that has not been collected;
for one that can be held weakly, nothing only when it has been; and a count above zero keeps
the value. -/
def Tracks (kindOf : V → ValueKind) (env : Env V) : Prop :=
  ∀ ref ∈ env.handles, ∃ reference value, env.references.get? ref = some reference ∧
    env.targets[ref]? = some value ∧
    (∀ seen, reference.get = some seen → seen = value ∧ value ∉ env.collected) ∧
    (canBeHeldWeakly kindOf value → reference.get = none → value ∈ env.collected) ∧
    (0 < reference.refcount → reference.get = some value)

/-- The callbacks of the user: each runs at most once, after its object has been collected and
not after it was cancelled by a delete or by the removal of the wrap; once the queue has given
out a reference whose object is gone, it has run or was cancelled; and no reference that the
runtime owns outlives its object and its callback. -/
structure RunsOnce (env : Env V) : Prop where
  once : env.called.Nodup
  after : ∀ ref ∈ env.called, ref ∉ env.cancelled ∧
    ∃ value, env.targets[ref]? = some value ∧ value ∈ env.collected
  settled : ∀ ref ∈ env.withCallback, ref ∉ env.pendingFinalizers →
    (∃ value, env.targets[ref]? = some value ∧ value ∈ env.collected) →
    ref ∈ env.called ∨ ref ∈ env.cancelled
  released : ∀ ref reference, env.references.get? ref = some reference →
    reference.ownership = .kRuntime → ref ∉ env.pendingFinalizers → (ref, true) ∉ env.frames →
    ∃ value, env.targets[ref]? = some value ∧ value ∉ env.collected

section

variable [DecidableEq V] {kindOf : V → ValueKind} {isExperimental : Bool} {trace : List (Action V)}
  {outcome : Except Fault (Env V)}

/-- In no order of calls, collections and callbacks does the env touch a deleted reference, and
its references track their values. -/
theorem references_track
    (proper : (references kindOf isExperimental).Meets Proper { isExperimental } trace)
    (ran : (references kindOf isExperimental).run trace = some outcome) :
    ∃ env, outcome = .ok env ∧ Tracks kindOf env := by
  obtain ⟨env, rfl, sound⟩ := Sound.run proper ran
  refine ⟨env, rfl, fun ref inside => ?_⟩
  obtain ⟨reference, alive, -⟩ := (sound.ok ref).handle inside
  obtain ⟨value, at', handle⟩ := (sound.ok ref).alive reference alive
  refine ⟨reference, value, alive, at', ?_, ?_, ?_⟩
  · intro seen gets
    cases persistent : reference.persistent with
    | empty => simp [Reference.get, persistent] at gets
    | strong other =>
      obtain rfl : other = seen := by simpa [Reference.get, persistent] using gets
      exact handle.strong other persistent
    | weak other =>
      obtain rfl : other = seen := by simpa [Reference.get, persistent] using gets
      obtain ⟨same, -, -, living⟩ := handle.weak other persistent
      exact ⟨same, living⟩
  · intro weakly gets
    cases persistent : reference.persistent with
    | empty => exact (handle.empty persistent).2 weakly
    | strong other => simp [Reference.get, persistent] at gets
    | weak other => simp [Reference.get, persistent] at gets
  · intro counted
    have positive : reference.refcount ≠ 0 := by
      rintro zero
      rw [zero] at counted
      exact absurd counted (by decide)
    cases persistent : reference.persistent with
    | empty => exact absurd (handle.empty persistent).1 positive
    | strong other => simp [Reference.get, persistent, (handle.strong other persistent).1]
    | weak other => exact absurd (handle.weak other persistent).2.2.1 positive

theorem callbacks_run_once
    (proper : (references kindOf isExperimental).Meets Proper { isExperimental } trace)
    (ran : (references kindOf isExperimental).run trace = some outcome) :
    ∃ env, outcome = .ok env ∧ RunsOnce env := by
  obtain ⟨env, rfl, sound⟩ := Sound.run proper ran
  refine ⟨env, rfl, sound.calledOnce, fun ref called => (sound.ok ref).called called, ?_, ?_⟩
  · rintro ref with' unqueued ⟨value, at', gone⟩
    obtain called | cancelled | ⟨reference, alive, waiting⟩ := (sound.ok ref).fate with'
    · exact .inl called
    · exact .inr cancelled
    · obtain ⟨target, same, handle⟩ := (sound.ok ref).alive reference alive
      obtain rfl := Option.some.inj (at'.symm.trans same)
      cases persistent : reference.persistent with
      | empty => exact absurd ((sound.ok ref).queued reference alive persistent waiting) unqueued
      | strong other => exact absurd gone (handle.strong other persistent).2
      | weak other => exact ((handle.weak other persistent).2.2.2 gone).elim
  · intro ref reference alive runtime unqueued unframed
    obtain ⟨value, at', handle⟩ := (sound.ok ref).alive reference alive
    refine ⟨value, at', ?_⟩
    cases persistent : reference.persistent with
    | empty =>
      obtain queued | framed := (sound.ok ref).owned reference alive persistent runtime
      · exact absurd queued unqueued
      · exact absurd framed unframed
    | strong other => exact (handle.strong other persistent).2
    | weak other => exact (handle.weak other persistent).2.2.2

end

/-- Object 0 has a reference that the user wrapped it with and one that it counted; it is
collected when the count is back at zero, and the callback deletes the reference of the wrap. -/
def released : List (Action (Fin 2)) :=
  [.wrap 0 true true, .createReference 0 1, .unref 1, .collect 0, .getValue 1, .drain 0,
    .deleteReference 0, .finalizerReturns]

instance decidableProper {n : Nat} (env : Env (Fin n)) :
    ∀ action, Decidable (Proper env action)
  | .deleteReference ref =>
      inferInstanceAs (Decidable (ref ∈ env.handles ∧ ∀ jsObject, env.wrapper jsObject ≠ some ref))
  | .ref ref | .unref ref | .getValue ref => inferInstanceAs (Decidable (ref ∈ env.handles))
  | .createReference _ _ | .wrap _ _ _ | .unwrap _ | .removeWrap _ | .collect _ | .drain _
  | .finalizerReturns => isTrue trivial

theorem references_track_released :
    ∃ env, (references (fun _ : Fin 2 => .object) false).run released = some (.ok env) ∧
      Tracks (fun _ => .object) env := by
  have proper : (references (fun _ : Fin 2 => .object) false).Meets Proper
      { isExperimental := false } released := by decide
  obtain ⟨env, same, tracks⟩ := references_track proper rfl
  exact ⟨env, congrArg some same, tracks⟩

/-- The collector puts the reference into the queue, or in the experimental version runs the
callback itself. -/
theorem callbacks_run_once_released :
    (∃ env, (references (fun _ : Fin 2 => .object) false).run released = some (.ok env) ∧
      RunsOnce env) ∧
    ∃ env, (references (fun _ : Fin 2 => .object) true).run
        [.wrap 1 false true, .collect 1, .wrap 0 true true, .removeWrap 0, .collect 0] =
      some (.ok env) ∧ RunsOnce env := by
  have proper : (references (fun _ : Fin 2 => .object) false).Meets Proper
      { isExperimental := false } released := by decide
  have proper' : (references (fun _ : Fin 2 => .object) true).Meets Proper
      { isExperimental := true }
      [.wrap 1 false true, .collect 1, .wrap 0 true true, .removeWrap 0, .collect 0] := by decide
  obtain ⟨env, same, once⟩ := callbacks_run_once proper rfl
  obtain ⟨env', same', once'⟩ := callbacks_run_once proper' rfl
  exact ⟨⟨env, congrArg some same, once⟩, env', congrArg some same', once'⟩

end

end V8Jsi.NapiReference
