import Mathlib.Logic.Function.Basic
import V8Jsi.PointerLifetime
import V8Jsi.PrimitiveProperty

set_option autoImplicit false

/- What pointer values denote: the JavaScript values behind the `napi_value`s and
`napi_ref`s of NodeApiJsiRuntime.cpp, over the operations of `PointerValue`. -/
namespace V8Jsi.PointerHandles

open Runs Heaps Outcome PointerValue PrimitiveProperty

/-- A `napi_value`: what it stands for, and the scope in which it was obtained. -/
structure Handle (Value : Type) where
  value : Value
  scope : Nat
  deriving DecidableEq, Repr

/-- The failures of the operations, and the crashes after the property "X" of a wrapper
could not be assigned or read. -/
inductive Crash
  | pointerValue (failure : Failure)
  | setNamedProperty
  | getNamedProperty
  deriving DecidableEq, Repr

/-- Objects are referenced directly, other values by way of a wrapper. -/
def isWrapped : NodeApiPointerValueKind → Bool
  | .object | .weakObject => false
  | .string | .stringPropNameID | .symbol | .bigInt => true

/-- `value` is the field `value_` of each object, `referent` what each `napi_ref`
leads to, an object of its own being like one that owns it, and `made` the value each
object was made with. Open scopes are numbered, the innermost first. Scripts decide about
the wrapper of each pointer value, which has one at most. `exceptionPending` says that
`last_exception` of the env is not empty. -/
structure Handles (Value : Type) where
  runtime : NodeApiJsiRuntime := {}
  openScopes : List Nat := []
  nextScope : Nat := 0
  value : Nat → Option (Handle Value) := fun _ => none
  referent : Nat → Option (Wrapper Value) := fun _ => none
  made : Nat → Option Value := fun _ => none
  scripts : Scripts Value := {}
  exceptionPending : Bool := false

namespace Handles

variable {Value : Type}

/-- What a new reference leads to, `none` where the value cannot be assigned to its
wrapper: a setter throws, or an exception is pending already. -/
def wrapped (state : Handles Value) (p : Nat) (pointerKind : NodeApiPointerValueKind)
    (value : Value) : Option (Wrapper Value) :=
  if isWrapped pointerKind then
    if state.exceptionPending then none else state.scripts.setNamedProperty p value
  else some (.own value)

/-- What is read through a reference, `none` where the wrapper cannot be read. -/
def dereferenced (state : Handles Value) (p ref : Nat) (pointerKind : NodeApiPointerValueKind) :
    Option Value :=
  if isWrapped pointerKind ∧ state.exceptionPending then none
  else (state.referent ref).bind (state.scripts.getNamedProperty p)

/-- The referents after `createNodeApiRef`. -/
def createReferent (state : Handles Value) (p : Nat) (pointerKind : NodeApiPointerValueKind) :
    Except Crash (Nat → Option (Wrapper Value)) :=
  match state.value p with
  | none => throw (.pointerValue .checkFailed)
  | some handle =>
      match state.wrapped p pointerKind handle.value with
      | none => throw .setNamedProperty
      | some wrapper =>
          return Function.update state.referent state.runtime.store.references.next (some wrapper)

/-- A popped value that is still in use gets a reference. -/
def ensureReferent (state : Handles Value) (p : Nat) (this : NodeApiRefCountedPointerValue) :
    Except Crash (Nat → Option (Wrapper Value)) :=
  if this.refCount ≠ 0 ∧ this.ref = none then state.createReferent p this.pointerKind
  else .ok state.referent

/-- Nothing is thrown or the exception has been taken. -/
def quiet (state : Handles Value) : Handles Value := { state with exceptionPending := false }

def make (state : Handles Value) (pointerKind : NodeApiPointerValueKind) (initialRefCount : Nat)
    (handle : Handle Value) : Handles Value :=
  let p := state.runtime.store.objects.next
  { state with
    runtime := state.runtime.make pointerKind initialRefCount
    value := Function.update state.value p (some handle)
    made := Function.update state.made p (some handle.value) }

/-- Called in the given scope. -/
def getValue (state : Handles Value) (scope p : Nat) (collected : Bool) :
    Except Crash (Handles Value × Option (Handle Value)) := do
  let this ← (state.runtime.store.read p).mapError .pointerValue
  if this.value then return (state, state.value p)
  else
    match this.ref with
    | none => return (state, none)
    | some ref =>
        if this.pointerKind = .weakObject ∧ collected then return (state, none)
        else
          match state.dereferenced p ref this.pointerKind with
          | none => throw .getNamedProperty
          | some value =>
              let runtime ← (state.runtime.getValue p collected).mapError .pointerValue
              let handle := some ⟨value, scope⟩
              return ({ state with runtime, value := Function.update state.value p handle }, handle)

def deleteStackValue (state : Handles Value) (p : Nat) : Except Crash (Handles Value) := do
  let this ← (state.runtime.store.read p).mapError .pointerValue
  let store ← (state.runtime.store.deleteStackValue p).mapError .pointerValue
  let referent ← state.ensureReferent p this
  return { state with
    runtime := { state.runtime with store }
    value := Function.update state.value p none
    referent }

def pushPointerValueScope (state : Handles Value) : Handles Value :=
  { state with
    runtime := state.runtime.pushPointerValueScope
    openScopes := state.nextScope :: state.openScopes
    nextScope := state.nextScope + 1 }

def popPointerValueScope (state : Handles Value) : Except Crash (Handles Value) :=
  match state.runtime.stackScopes with
  | [] => throw (.pointerValue .checkFailed)
  | newStackSize :: stackScopes =>
      if newStackSize > state.runtime.stackValues.length then throw (.pointerValue .stackRange)
      else do
        let cleared ← (state.runtime.stackValues.drop newStackSize).foldlM deleteStackValue state
        let runtime ← ({ cleared.runtime with
          stackScopes
          stackValues := state.runtime.stackValues.take newStackSize }.deletePointerValues).mapError
            .pointerValue
        return { cleared with runtime, openScopes := state.openScopes.tail }

/-- Operations that concern the runtime alone. -/
def lift (state : Handles Value) (outcome : Except Failure NodeApiJsiRuntime) :
    Except Crash (Handles Value) := do
  let runtime ← outcome.mapError .pointerValue
  return { state with runtime }

end Handles

inductive Action (Value : Type)
  | pushPointerValueScope
  | popPointerValueScope
  | make (pointerKind : NodeApiPointerValueKind) (initialRefCount : Nat) (handle : Handle Value)
  | clone (p : Nat)
  | getValue (p : Nat) (collected : Bool)
  | invalidate (p : Nat)
  | deletePointerValues
  | definePrimitiveProperty (scripts : Scripts Value)
  | setLastException (pending : Bool)

variable {Value : Type}

/-- Values are made from a `napi_value` of an open scope and looked up in the
innermost one. Between the operations scripts may change what they do to the property "X",
and an exception may be thrown or taken. -/
def call (state : Handles Value) : Action Value → Option (Except Crash (Handles Value))
  | .pushPointerValueScope => some (.ok state.pushPointerValueScope)
  | .popPointerValueScope =>
      if state.runtime.stackScopes ≠ [] then some state.popPointerValueScope else none
  | .make pointerKind initialRefCount handle =>
      if 1 ≤ initialRefCount ∧ handle.scope ∈ state.openScopes then
        some (.ok (state.make pointerKind initialRefCount handle))
      else none
  | .clone p =>
      if p ∈ state.runtime.held then some (state.lift (state.runtime.clone p)) else none
  | .getValue p collected =>
      match state.openScopes with
      | [] => none
      | scope :: _ =>
          if p ∈ state.runtime.held then
            some ((state.getValue scope p collected).map Prod.fst)
          else none
  | .invalidate p =>
      if p ∈ state.runtime.held then some (state.lift (state.runtime.invalidate p)) else none
  | .deletePointerValues => some (state.lift state.runtime.deletePointerValues)
  | .definePrimitiveProperty scripts => some (.ok { state with scripts })
  | .setLastException pending => some (.ok { state with exceptionPending := pending })

def handlesProgram (Value : Type) : Program (Handles Value) (Action Value) Crash where
  start := {}
  call := call

/-! ## Denotation -/

/-- Held pointers denote the value they were made with, and never through a stale
handle. What they denote is looked up when no exception is pending. -/
structure Denoting (state : Handles Value) : Prop where
  backed : ∀ p this, state.runtime.store.objects.get? p = some this → 0 < this.refCount →
    this.value = true ∨ this.ref ≠ none
  onStack : ∀ p this, state.runtime.store.objects.get? p = some this →
    (this.value = true ↔ p ∈ state.runtime.stackValues)
  agrees : ∀ p this, state.runtime.store.objects.get? p = some this →
    (this.value = true ↔ state.value p ≠ none)
  once : ∀ p this, state.runtime.store.objects.get? p = some this → this.value = true →
    state.runtime.stackValues.count p = 1
  scopesDistinct : state.openScopes.Nodup
  current : ∀ p this, state.runtime.store.objects.get? p = some this → this.value = true →
    ∃ handle start, state.value p = some handle ∧
      (handle.scope, start) ∈ state.openScopes.zip state.runtime.stackScopes ∧
      start ≤ state.runtime.stackValues.idxOf p
  reads : ∀ p this scope collected, state.runtime.store.objects.get? p = some this →
    0 < this.refCount → this.pointerKind ≠ .weakObject →
    ∃ value handle after, state.made p = some value ∧
      state.quiet.getValue scope p collected = .ok (after, some handle) ∧ handle.value = value

def HandlesDenote : Except Crash (Handles Value) → Prop
  | .ok state => Denoting state
  | .error crash => crash = .pointerValue .checkFailed

/-- A value without a reference can be wrapped so that it is read back, and a wrapper
without a property of its own answers with the value. -/
def Restorable (state : Handles Value) (p : Nat) (value : Value) (ref : Option Nat) : Prop :=
  match ref with
  | none => state.exceptionPending = false ∧ state.scripts.ReadsAs p value value
  | some ref => state.referent ref = some .bare → state.scripts.inherited p = some value

/-- A value in use that is popped can be looked up again. -/
def ReadBack (state : Handles Value) (p : Nat) : Prop :=
  ∀ this ∈ state.runtime.store.objects.get? p, this.refCount ≠ 0 →
    isWrapped this.pointerKind = true →
      ∀ handle ∈ state.value p, Restorable state p handle.value this.ref

/-- A look-up that reads a wrapper. -/
def ReadsWrapper (state : Handles Value) (p : Nat) : Prop :=
  ∃ this ∈ state.runtime.store.objects.get? p,
    this.value = false ∧ isWrapped this.pointerKind = true

/-- Wrappers without a property of their own answer with the values of the pointers in use
that have no handle. -/
def Answers (state : Handles Value) (scripts : Scripts Value) (p : Nat) : Prop :=
  ∀ this ∈ state.runtime.store.objects.get? p, this.value = false →
    ∀ ref ∈ this.ref, state.referent ref = some .bare →
      ∀ value ∈ state.made p, scripts.inherited p = some value

/-- No value of the scope that is popped has been left to the stack to delete, and
those still in use keep their value. Wrappers are not read while an exception is pending,
and scripts leave what they answer. -/
def Keeps (state : Handles Value) : Action Value → Prop
  | .popPointerValueScope =>
      ∀ p ∈ state.runtime.stackValues.drop (state.runtime.stackScopes.headD 0),
        state.runtime.flagged p = false ∧ ReadBack state p
  | .getValue p _ => state.exceptionPending = true → ¬ ReadsWrapper state p
  | .definePrimitiveProperty scripts => ∀ p ∈ state.runtime.held, Answers state scripts p
  | .pushPointerValueScope | .make _ _ _ | .clone _ | .invalidate _
  | .deletePointerValues | .setLastException _ => True

/-! ## One object -/

/-- What a reference leads to: the value itself, or a wrapper that answers with it as long as
the object is in use and has no handle. -/
def LeadsTo (state : Handles Value) (p : Nat) (this : NodeApiRefCountedPointerValue)
    (made : Value) (ref : Nat) : Prop :=
  state.referent ref = some (.own made) ∨
    isWrapped this.pointerKind = true ∧ state.referent ref = some .bare ∧
      (this.refCount ≠ 0 → this.value = false → state.scripts.inherited p = some made)

/-- What the fields of an object have to do with the value it was made with. -/
structure Denotes (state : Handles Value) (stack : List Nat) (p : Nat)
    (this : NodeApiRefCountedPointerValue) (made : Value) : Prop where
  onStack : this.value = true → p ∈ stack
  handle : this.value = true → ∃ scope, state.value p = some ⟨made, scope⟩
  cleared : this.value = false → state.value p = none
  referent : ∀ ref, this.ref = some ref → LeadsTo state p this made ref
  backed : this.refCount ≠ 0 → this.value = true ∨ this.ref ≠ none

def AllDenote (state : Handles Value) (store : Store) (stack : List Nat) : Prop :=
  ∀ p this, store.objects.get? p = some this →
    ∃ made, state.made p = some made ∧ Denotes state stack p this made

/-- One object changes, and the fields of the others stay. -/
theorem AllDenote.set {state after : Handles Value} {store : Store} {references : Heap Nat}
    {stack stack' : List Nat} {p : Nat} {this : NodeApiRefCountedPointerValue}
    {cell : Option NodeApiRefCountedPointerValue} (all : AllDenote state store stack)
    (found : store.objects.get? p = some this) (made : after.made = state.made)
    (scripts : after.scripts = state.scripts)
    (value : ∀ q, q ≠ p → after.value q = state.value q)
    (referent : ∀ q that ref, store.objects.get? q = some that → that.ref = some ref →
      after.referent ref = state.referent ref)
    (keeps : ∀ q, q ≠ p → q ∈ stack → q ∈ stack')
    (self : ∀ that value, cell = some that → state.made p = some value →
      Denotes state stack p this value → Denotes after stack' p that value) :
    AllDenote after ⟨store.objects.set p cell, references⟩ stack' := by
  intro q that present
  rw [made]
  rcases Heap.get?_set_some found present with ⟨rfl, stored⟩ | ⟨different, before⟩
  · obtain ⟨origin, madeOf, denotes⟩ := all q this found
    exact ⟨origin, madeOf, self that origin stored madeOf denotes⟩
  · obtain ⟨origin, madeOf, denotes⟩ := all q that before
    refine ⟨origin, madeOf, fun set => keeps q different (denotes.onStack set), ?_, ?_, ?_,
      denotes.backed⟩
    · rw [value q different]
      exact denotes.handle
    · rw [value q different]
      exact denotes.cleared
    · intro ref owns
      rw [LeadsTo, referent q that ref before owns, scripts]
      exact denotes.referent ref owns

theorem AllDenote.congr {state after : Handles Value} {store : Store} {stack : List Nat}
    (all : AllDenote state store stack) (value : after.value = state.value)
    (referent : after.referent = state.referent) (made : after.made = state.made)
    (scripts : after.scripts = state.scripts) : AllDenote after store stack := by
  intro p this found
  obtain ⟨origin, madeOf, onStack, handle, cleared, referentOf, backed⟩ := all p this found
  rw [← value] at handle cleared
  refine ⟨origin, made ▸ madeOf, onStack, handle, cleared, fun ref owns => ?_, backed⟩
  rw [LeadsTo, referent, scripts]
  exact referentOf ref owns

/-- What popping some values leaves as it was. -/
structure Cleared (values : List Nat) (state after : Handles Value) : Prop where
  runtime : after.runtime = { state.runtime with store := after.runtime.store }
  openScopes : after.openScopes = state.openScopes
  nextScope : after.nextScope = state.nextScope
  scripts : after.scripts = state.scripts
  exceptionPending : after.exceptionPending = state.exceptionPending
  made : after.made = state.made
  objects : ∀ q, q ∉ values →
    after.runtime.store.objects.get? q = state.runtime.store.objects.get? q
  value : ∀ q, q ∉ values → after.value q = state.value q
  referent : ∀ q, q ∉ values → ∀ that ref, state.runtime.store.objects.get? q = some that →
    that.ref = some ref → after.referent ref = state.referent ref

theorem Cleared.refl (state : Handles Value) : Cleared [] state state :=
  ⟨rfl, rfl, rfl, rfl, rfl, rfl, fun _ _ => rfl, fun _ _ => rfl, fun _ _ _ _ _ _ => rfl⟩

theorem Cleared.cons {p : Nat} {rest : List Nat} {state middle after : Handles Value}
    (first : Cleared [p] state middle) (later : Cleared rest middle after) :
    Cleared (p :: rest) state after where
  runtime := by
    rw [later.runtime, first.runtime]
  openScopes := later.openScopes.trans first.openScopes
  nextScope := later.nextScope.trans first.nextScope
  scripts := later.scripts.trans first.scripts
  exceptionPending := later.exceptionPending.trans first.exceptionPending
  made := later.made.trans first.made
  objects q outside := by
    rw [List.mem_cons, not_or] at outside
    rw [later.objects q outside.2, first.objects q (by simpa using outside.1)]
  value q outside := by
    rw [List.mem_cons, not_or] at outside
    rw [later.value q outside.2, first.value q (by simpa using outside.1)]
  referent q outside that ref found owns := by
    rw [List.mem_cons, not_or] at outside
    have beyond : q ∉ [p] := by simpa using outside.1
    rw [later.referent q outside.2 that ref ((first.objects q beyond).trans found) owns,
      first.referent q beyond that ref found owns]

/-- Whether a value is kept depends on the object, its handle and its wrapper only. -/
theorem Cleared.keeps_iff {values : List Nat} {state after : Handles Value} {q : Nat}
    (cleared : Cleared values state after) (outside : q ∉ values) :
    after.runtime.flagged q = false ∧ ReadBack after q ↔
      state.runtime.flagged q = false ∧ ReadBack state q := by
  have restores : ∀ this, state.runtime.store.objects.get? q = some this → ∀ value,
      Restorable after q value this.ref ↔ Restorable state q value this.ref := by
    intro this found value
    cases owns : this.ref with
    | none => rw [Restorable, Restorable, cleared.exceptionPending, cleared.scripts]
    | some ref =>
      rw [Restorable, Restorable, cleared.scripts, cleared.referent q outside this ref found owns]
  rw [NodeApiJsiRuntime.flagged, NodeApiJsiRuntime.flagged, ReadBack, ReadBack,
    cleared.objects q outside, cleared.value q outside]
  refine and_congr_right fun _ => forall_congr' fun this => forall_congr' fun found => ?_
  simp only [restores this found]

section

variable {state : Handles Value} {p : Nat} {this : NodeApiRefCountedPointerValue}
  {kept rest pool held : List Nat}

theorem ensureReferent_created {handle : Handle Value} {wrapper : Wrapper Value}
    (used : this.refCount ≠ 0) (absent : this.ref = none) (stored : state.value p = some handle)
    (wraps : state.wrapped p this.pointerKind handle.value = some wrapper) :
    state.ensureReferent p this = .ok
      (Function.update state.referent state.runtime.store.references.next (some wrapper)) := by
  unfold Handles.ensureReferent
  rw [ite_cond_eq_true _ _ (eq_true ⟨used, absent⟩)]
  simp only [Handles.createReferent, stored, wraps, pure_ok]

theorem ensureReferent_unchanged (unneeded : ¬ (this.refCount ≠ 0 ∧ this.ref = none)) :
    state.ensureReferent p this = .ok state.referent := by
  unfold Handles.ensureReferent
  rw [ite_cond_eq_false _ _ (eq_false unneeded)]

/-- The state after `deleteStackValue`. -/
def popped (state : Handles Value) (p : Nat) (store : Store)
    (referent : Nat → Option (Wrapper Value)) : Handles Value :=
  { state with
    runtime := { state.runtime with store }
    value := Function.update state.value p none
    referent }

theorem deleteStackValue_popped {store : Store} {referent : Nat → Option (Wrapper Value)}
    (found : state.runtime.store.objects.get? p = some this)
    (deleted : state.runtime.store.deleteStackValue p = .ok store)
    (ensured : state.ensureReferent p this = .ok referent) :
    state.deleteStackValue p = .ok (popped state p store referent) := by
  simp only [Handles.deleteStackValue, read_alive found, deleted, ensured, mapError_ok, ok_bind,
    pure_ok, popped]

theorem popped_cleared {store : Store} {referent : Nat → Option (Wrapper Value)}
    (objects : ∀ q, q ≠ p → store.objects.get? q = state.runtime.store.objects.get? q)
    (referents : ∀ q that ref, state.runtime.store.objects.get? q = some that →
      that.ref = some ref → referent ref = state.referent ref) :
    Cleared [p] state (popped state p store referent) where
  runtime := rfl
  openScopes := rfl
  nextScope := rfl
  scripts := rfl
  exceptionPending := rfl
  made := rfl
  objects q outside := objects q (by simpa using outside)
  value q outside := Function.update_of_ne (by simpa using outside) _ _
  referent q _ that ref found owns := referents q that ref found owns

/-- A new reference is none of those that objects have. -/
theorem referent_other {store : Store} {stack : List Nat}
    {referent : Nat → Option (Wrapper Value)} {read : Option (Wrapper Value)} {q ref : Nat}
    {that : NodeApiRefCountedPointerValue}
    (owned : Owned store stack pool held) (present : store.objects.get? q = some that)
    (owns : that.ref = some ref) :
    Function.update referent store.references.next read ref = referent ref := by
  apply Function.update_of_ne
  intro same
  obtain ⟨strength, live⟩ := (owned.fits q that present).refAlive ref owns
  rw [same, Heap.get?_next] at live
  cases live

/-- What a value is wrapped in reads as the value. -/
theorem wrapped_of_readBack {handle : Handle Value} (readBack : ReadBack state p)
    (found : state.runtime.store.objects.get? p = some this) (stored : state.value p = some handle)
    (used : this.refCount ≠ 0) (absent : this.ref = none) :
    ∃ wrapper, state.wrapped p this.pointerKind handle.value = some wrapper ∧
      (wrapper = .own handle.value ∨ isWrapped this.pointerKind = true ∧ wrapper = .bare ∧
        state.scripts.inherited p = some handle.value) := by
  by_cases boxed : isWrapped this.pointerKind = true
  · have restorable := readBack this found used boxed handle stored
    rw [absent, Restorable] at restorable
    obtain ⟨wrapper, wraps, reads⟩ := (readsAs_iff ..).mp restorable.2
    refine ⟨wrapper, by simp [Handles.wrapped, boxed, restorable.1, wraps], ?_⟩
    cases wrapper with
    | own value => exact .inl (congrArg _ (Option.some.inj reads))
    | bare => exact .inr ⟨boxed, rfl, reads⟩
  · exact ⟨_, by simp [Handles.wrapped, boxed], .inl rfl⟩

/-- Popping one value. -/
theorem deleteStackValue_denotes
    (owned : Owned state.runtime.store (kept ++ p :: rest) pool held)
    (all : AllDenote state state.runtime.store (kept ++ p :: rest))
    (unflagged : state.runtime.flagged p = false) (readBack : ReadBack state p) :
    ∃ after, state.deleteStackValue p = .ok after ∧ Cleared [p] state after ∧
      Owned after.runtime.store (kept ++ rest) pool held ∧
      AllDenote after after.runtime.store (kept ++ rest) := by
  have member : p ∈ kept ++ p :: rest := by simp
  obtain ⟨this, found⟩ := owned.alive p (.inl member)
  have value := (owned.fits p this found).onStack member
  obtain ⟨made, madeOf, denotes⟩ := all p this found
  obtain ⟨scope, stored⟩ := denotes.handle value
  rw [unflagged_alive found] at unflagged
  have clears := deleteStackValue_unflagged found value unflagged
  obtain ⟨store, deleted, ownedAfter, others⟩ := deleteStackValue_owned owned
    (unflagged_of_found found unflagged)
  by_cases needed : this.refCount ≠ 0 ∧ this.ref = none
  · obtain ⟨strength, created⟩ := clearStackValue_created found value needed.1 needed.2
    obtain ⟨wrapper, wraps, reads⟩ :=
      wrapped_of_readBack readBack found stored needed.1 needed.2
    have ensured := ensureReferent_created needed.1 needed.2 stored wraps
    refine ⟨_, deleteStackValue_popped found deleted ensured,
      popped_cleared others fun q that ref present owns => referent_other owned present owns,
      ownedAfter, ?_⟩
    obtain rfl := Except.ok.inj (deleted.symm.trans (clears.trans created))
    apply AllDenote.set all found
    · rfl
    · rfl
    · exact fun q different => Function.update_of_ne different _ _
    · exact fun q that ref present owns => referent_other owned present owns
    · exact fun q different inside => mem_popped different inside
    · rintro that origin ⟨⟩ originOf before
      obtain rfl := Option.some.inj (madeOf.symm.trans originOf)
      refine ⟨nofun, nofun, fun _ => Function.update_self .., ?_, fun _ => .inr nofun⟩
      rintro ref ⟨⟩
      have leads : Function.update state.referent state.runtime.store.references.next
          (some wrapper) state.runtime.store.references.next = some wrapper :=
        Function.update_self ..
      rcases reads with rfl | ⟨boxed, rfl, answers⟩
      · exact .inl leads
      · exact .inr ⟨boxed, leads, fun _ _ => answers⟩
  · have ensured : state.ensureReferent p this = .ok state.referent :=
      ensureReferent_unchanged needed
    refine ⟨_, deleteStackValue_popped found deleted ensured,
      popped_cleared others fun _ _ _ _ _ => rfl, ownedAfter, ?_⟩
    obtain rfl := Except.ok.inj
      (deleted.symm.trans (clears.trans (clearStackValue_unchanged found needed)))
    apply AllDenote.set all found
    · rfl
    · rfl
    · exact fun q different => Function.update_of_ne different _ _
    · exact fun _ _ _ _ _ => rfl
    · exact fun q different inside => mem_popped different inside
    · rintro that origin ⟨⟩ originOf before
      obtain rfl := Option.some.inj (madeOf.symm.trans originOf)
      refine ⟨nofun, nofun, fun _ => Function.update_self .., fun ref owns => ?_, ?_⟩
      · rcases before.referent ref owns with own | ⟨boxed, bare, -⟩
        · exact .inl own
        · refine .inr ⟨boxed, bare, fun used _ => ?_⟩
          have restorable := readBack this found used boxed _ stored
          rw [show this.ref = some ref from owns, Restorable] at restorable
          exact restorable bare
      · exact fun used => .inr fun absent => needed ⟨used, absent⟩

/-- Popping the values of a scope. -/
theorem deleteStackValues_denote (values : List Nat) : ∀ (state : Handles Value) (kept : List Nat),
    Owned state.runtime.store (kept ++ values) pool held →
    AllDenote state state.runtime.store (kept ++ values) →
    (∀ p ∈ values, state.runtime.flagged p = false ∧ ReadBack state p) →
    ∃ after, values.foldlM Handles.deleteStackValue state = .ok after ∧
      Cleared values state after ∧ Owned after.runtime.store kept pool held ∧
      AllDenote after after.runtime.store kept := by
  induction values with
  | nil =>
    intro state kept owned all _
    rw [List.append_nil] at owned all
    exact ⟨state, rfl, .refl state, owned, all⟩
  | cons p rest ih =>
    intro state kept owned all keeps
    obtain ⟨unflagged, readBack⟩ := keeps p List.mem_cons_self
    obtain ⟨middle, deleted, cleared, owned', all'⟩ :=
      deleteStackValue_denotes owned all unflagged readBack
    have distinct := (List.nodup_append.mp owned.stackDistinct).2.1
    obtain ⟨after, finished, clearedRest, ownedAfter, allAfter⟩ := ih middle kept owned' all' (by
      intro q inside
      have outside : q ∉ [p] := by
        rw [List.mem_singleton]
        rintro rfl
        exact (List.nodup_cons.mp distinct).1 inside
      exact (cleared.keeps_iff outside).mpr (keeps q (List.mem_cons_of_mem p inside)))
    exact ⟨after, by rw [List.foldlM_cons, deleted]; exact finished, cleared.cons clearedRest,
      ownedAfter, allAfter⟩

/-- The pending deletions touch unused objects only. -/
theorem deleteNodeApiRefs_denote {stack : List Nat} (values : List Nat) : ∀ store : Store,
    Owned store stack values held → AllDenote state store stack →
    ∃ after, values.foldlM Store.deleteNodeApiRef store = .ok after ∧
      AllDenote state after stack := by
  induction values with
  | nil => exact fun store _ all => ⟨store, rfl, all⟩
  | cons p rest ih =>
    intro store owned all
    obtain ⟨this, found⟩ := owned.alive p (.inr (.inl List.mem_cons_self))
    have fits := owned.fits p this found
    have unused := (fits.pooled List.mem_cons_self).1
    obtain ⟨references, deleted, -⟩ := deleteNodeApiRef_alive found fits.refAlive
    obtain ⟨middle, deletedOwned, owned', -⟩ := deleteNodeApiRef_owned owned
    obtain rfl := Except.ok.inj (deleted.symm.trans deletedOwned)
    have all' : AllDenote state ⟨store.objects.set p (remains this), references⟩ stack := by
      apply AllDenote.set all found
      · rfl
      · rfl
      · exact fun _ _ => rfl
      · exact fun _ _ _ _ _ => rfl
      · exact fun _ _ inside => inside
      · intro that value left _ before
        unfold remains at left
        split at left
        · obtain rfl := Option.some.inj left
          exact ⟨before.onStack, before.handle, before.cleared, nofun,
            fun used => absurd unused used⟩
        · cases left
    obtain ⟨after, finished, allAfter⟩ := ih _ owned' all'
    exact ⟨after, by rw [List.foldlM_cons, deleted]; exact finished, allAfter⟩

end

theorem deletePointerValues_of_fold {deletions : NodeApiPendingDeletions} {store after : Store}
    (folded : deletions.selected.foldlM Store.deleteNodeApiRef store = .ok after) :
    ∃ switched, deletions.deletePointerValues store = .ok (switched, after) := by
  unfold NodeApiPendingDeletions.deletePointerValues
  split
  · rename_i empty
    rw [List.isEmpty_iff.mp empty] at folded
    obtain rfl := Except.ok.inj folded
    exact ⟨_, rfl⟩
  · obtain ⟨pool0, pool1, poolSelector⟩ := deletions
    cases poolSelector with
    | false =>
      refine ⟨⟨[], pool1, true⟩, ?_⟩
      change (pool0.foldlM Store.deleteNodeApiRef store >>= _) = _
      rw [show pool0.foldlM Store.deleteNodeApiRef store = .ok after from folded]
      rfl
    | true =>
      refine ⟨⟨pool0, [], false⟩, ?_⟩
      change (pool1.foldlM Store.deleteNodeApiRef store >>= _) = _
      rw [show pool1.foldlM Store.deleteNodeApiRef store = .ok after from folded]
      rfl

theorem deletePointerValues_denotes {state : Handles Value} {runtime : NodeApiJsiRuntime}
    (invariant : Invariant runtime) (all : AllDenote state runtime.store runtime.stackValues) :
    ∃ store pendingDeletions,
      runtime.deletePointerValues = .ok { runtime with store, pendingDeletions } ∧
      Invariant { runtime with store, pendingDeletions } ∧
      AllDenote state store runtime.stackValues := by
  obtain ⟨store, folded, allAfter⟩ := deleteNodeApiRefs_denote _ _ invariant.owned all
  obtain ⟨pendingDeletions, switched⟩ := deletePointerValues_of_fold folded
  have deleted : runtime.deletePointerValues = .ok { runtime with store, pendingDeletions } := by
    simp only [NodeApiJsiRuntime.deletePointerValues, switched, ok_bind, pure_ok]
  obtain ⟨next, kept, invariantAfter⟩ := deletePointerValues_kept invariant
  obtain rfl := Except.ok.inj (deleted.symm.trans kept)
  exact ⟨store, pendingDeletions, deleted, invariantAfter, allAfter⟩

/-! ## The runtime -/

/-- Scopes and their starts are kept in parallel, and the handle of a value on the
stack belongs to a scope that starts no later than the value. -/
structure Denoted (state : Handles Value) : Prop where
  invariant : Invariant state.runtime
  all : AllDenote state state.runtime.store state.runtime.stackValues
  paired : state.openScopes.length = state.runtime.stackScopes.length
  fresh : ∀ scope ∈ state.openScopes, scope < state.nextScope
  distinct : state.openScopes.Nodup
  current : ∀ p ∈ state.runtime.stackValues, ∀ handle, state.value p = some handle →
    ∃ start, (handle.scope, start) ∈ state.openScopes.zip state.runtime.stackScopes ∧
      start ≤ state.runtime.stackValues.idxOf p

/-- The state after a look-up through the reference. -/
def refilled (state : Handles Value) (p : Nat) (this : NodeApiRefCountedPointerValue)
    (handle : Handle Value) : Handles Value :=
  { state with
    runtime := { state.runtime with
      store := ⟨state.runtime.store.objects.set p (some { this with value := true }),
        state.runtime.store.references⟩ }.addStackValue p
    value := Function.update state.value p (some handle) }

section

variable {state : Handles Value} {p : Nat} {this : NodeApiRefCountedPointerValue} {made : Value}
  {stack : List Nat}

theorem getValue_refilled {ref : Nat} (scope : Nat) {collected : Bool}
    (found : state.runtime.store.objects.get? p = some this) (cleared : this.value = false)
    (owns : this.ref = some ref) (reads : state.dereferenced p ref this.pointerKind = some made)
    (present : ¬ (this.pointerKind = .weakObject ∧ collected = true)) :
    state.runtime.getValue p collected = .ok (refilled state p this ⟨made, scope⟩).runtime ∧
      state.getValue scope p collected =
        .ok (refilled state p this ⟨made, scope⟩, some ⟨made, scope⟩) := by
  have looked : state.runtime.getValue p collected =
      .ok (refilled state p this ⟨made, scope⟩).runtime := by
    simp only [NodeApiJsiRuntime.getValue, read_alive found, ok_bind, cleared, Bool.false_eq_true,
      ↓reduceIte, owns, present, write_alive _ found, pure_ok, refilled]
  refine ⟨looked, ?_⟩
  simp only [Handles.getValue, read_alive found, mapError_ok, ok_bind, cleared, Bool.false_eq_true,
    ↓reduceIte, owns, present, looked, reads, pure_ok]
  rfl

/-- The wrapper cannot be read. -/
theorem getValue_fails {ref : Nat} (scope : Nat) {collected : Bool}
    (found : state.runtime.store.objects.get? p = some this) (cleared : this.value = false)
    (owns : this.ref = some ref) (fails : state.dereferenced p ref this.pointerKind = none)
    (present : ¬ (this.pointerKind = .weakObject ∧ collected = true)) :
    state.getValue scope p collected = .error .getNamedProperty := by
  simp only [Handles.getValue, read_alive found, mapError_ok, ok_bind, cleared, Bool.false_eq_true,
    ↓reduceIte, owns, present, fails]
  rfl

theorem Denotes.dereferenced {ref : Nat} (denotes : Denotes state stack p this made)
    (owns : this.ref = some ref) (used : this.refCount ≠ 0) (cleared : this.value = false)
    (readable : ¬ (isWrapped this.pointerKind = true ∧ state.exceptionPending = true)) :
    state.dereferenced p ref this.pointerKind = some made := by
  rw [Handles.dereferenced, if_neg readable]
  rcases denotes.referent ref owns with own | ⟨-, bare, answers⟩
  · rw [own]
    rfl
  · rw [bare]
    exact answers used cleared

theorem Denotes.quiet (denotes : Denotes state stack p this made) :
    Denotes state.quiet stack p this made :=
  ⟨denotes.onStack, denotes.handle, denotes.cleared, denotes.referent, denotes.backed⟩

theorem getValue_read (scope : Nat) (collected : Bool)
    (found : state.runtime.store.objects.get? p = some this)
    (denotes : Denotes state stack p this made) (used : this.refCount ≠ 0)
    (strong : this.pointerKind ≠ .weakObject) :
    ∃ handle after, state.quiet.getValue scope p collected = .ok (after, some handle) ∧
      handle.value = made := by
  have foundQuiet : state.quiet.runtime.store.objects.get? p = some this := found
  by_cases value : this.value = true
  · obtain ⟨obtained, stored⟩ := denotes.quiet.handle value
    refine ⟨⟨made, obtained⟩, state.quiet, ?_, rfl⟩
    simp only [Handles.getValue, read_alive foundQuiet, mapError_ok, ok_bind, value, ↓reduceIte,
      stored, pure_ok]
  · have present := (denotes.backed used).resolve_left value
    obtain ⟨ref, owns⟩ := Option.ne_none_iff_exists'.mp present
    have cleared : this.value = false := by simpa using value
    have reads := denotes.quiet.dereferenced owns used cleared (by simp [Handles.quiet])
    have looked := getValue_refilled scope foundQuiet cleared owns reads
      (fun weak : _ ∧ collected = true => strong weak.1)
    exact ⟨_, _, looked.2, rfl⟩

end

theorem Denoted.denoting {state : Handles Value} (denoted : Denoted state) : Denoting state where
  backed p this found used := by
    obtain ⟨made, -, denotes⟩ := denoted.all p this found
    exact denotes.backed (Nat.pos_iff_ne_zero.mp used)
  onStack p this found := by
    obtain ⟨made, -, denotes⟩ := denoted.all p this found
    exact ⟨denotes.onStack, (denoted.invariant.owned.fits p this found).onStack⟩
  agrees p this found := by
    obtain ⟨made, -, denotes⟩ := denoted.all p this found
    constructor
    · intro value
      obtain ⟨scope, stored⟩ := denotes.handle value
      rw [stored]
      exact Option.some_ne_none _
    · intro stored
      by_contra cleared
      exact stored (denotes.cleared (by simpa using cleared))
  once p this found value := by
    obtain ⟨made, -, denotes⟩ := denoted.all p this found
    exact List.count_eq_one_of_mem denoted.invariant.owned.stackDistinct (denotes.onStack value)
  scopesDistinct := denoted.distinct
  current p this found value := by
    obtain ⟨made, -, denotes⟩ := denoted.all p this found
    obtain ⟨scope, stored⟩ := denotes.handle value
    obtain ⟨start, open_, within⟩ := denoted.current p (denotes.onStack value) _ stored
    exact ⟨_, start, stored, open_, within⟩
  reads p this scope collected found used strong := by
    obtain ⟨made, madeOf, denotes⟩ := denoted.all p this found
    obtain ⟨handle, after, read, same⟩ :=
      getValue_read scope collected found denotes (Nat.pos_iff_ne_zero.mp used) strong
    exact ⟨made, handle, after, madeOf, read, same⟩

/-- The operation ends in order, or one of its checks fails. -/
def Stays (outcome : Except Crash (Handles Value)) : Prop :=
  outcome = .error (.pointerValue .checkFailed) ∨ ∃ next, outcome = .ok next ∧ Denoted next

theorem Stays.safe {outcome : Except Crash (Handles Value)} (stays : Stays outcome) :
    HandlesDenote outcome ∧ ∀ next, outcome = .ok next → Denoted next := by
  rcases stays with rfl | ⟨next, rfl, denoted⟩
  · exact ⟨rfl, fun _ impossible => by cases impossible⟩
  · exact ⟨denoted.denoting, fun _ same => by cases same; exact denoted⟩

theorem exists_mem_zip {scope : Nat} : ∀ {scopes starts : List Nat},
    scopes.length = starts.length → scope ∈ scopes →
      ∃ start, (scope, start) ∈ scopes.zip starts := by
  intro scopes starts paired inside
  rw [← List.map_fst_zip paired.le, List.mem_map] at inside
  obtain ⟨⟨_, start⟩, member, rfl⟩ := inside
  exact ⟨start, member⟩

section

variable {state : Handles Value} {p : Nat}

/-- A value put on the stack comes after the start of every open scope. -/
theorem current_append (denoted : Denoted state) {handle : Handle Value}
    (absent : p ∉ state.runtime.stackValues) (inside : handle.scope ∈ state.openScopes) :
    ∀ q ∈ state.runtime.stackValues ++ [p], ∀ other,
      Function.update state.value p (some handle) q = some other →
      ∃ start, (other.scope, start) ∈ state.openScopes.zip state.runtime.stackScopes ∧
        start ≤ (state.runtime.stackValues ++ [p]).idxOf q := by
  intro q member other stored
  by_cases same : q = p
  · subst same
    rw [Function.update_self] at stored
    obtain rfl := Option.some.inj stored
    obtain ⟨start, open_⟩ := exists_mem_zip denoted.paired inside
    refine ⟨start, open_, ?_⟩
    have within := denoted.invariant.within start (List.of_mem_zip open_).2
    rw [List.idxOf_append_of_notMem absent]
    omega
  · rw [Function.update_of_ne same] at stored
    have before : q ∈ state.runtime.stackValues := by simpa [same] using member
    obtain ⟨start, open_, within⟩ := denoted.current q before other stored
    refine ⟨start, open_, ?_⟩
    rwa [List.idxOf_append_of_mem before]

theorem pushPointerValueScope_denoted (denoted : Denoted state) :
    Denoted state.pushPointerValueScope where
  invariant := pushPointerValueScope_invariant denoted.invariant
  all := denoted.all.congr rfl rfl rfl rfl
  paired := by
    have paired := denoted.paired
    simpa [Handles.pushPointerValueScope, NodeApiJsiRuntime.pushPointerValueScope] using paired
  fresh := by
    intro scope inside
    change scope < state.nextScope + 1
    rcases List.mem_cons.mp inside with rfl | outer
    · omega
    · have := denoted.fresh scope outer
      omega
  distinct := by
    refine List.nodup_cons.mpr ⟨fun outer => ?_, denoted.distinct⟩
    exact Nat.lt_irrefl _ (denoted.fresh _ outer)
  current q member handle stored := by
    obtain ⟨start, open_, within⟩ := denoted.current q member handle stored
    exact ⟨start, List.mem_cons_of_mem _ open_, within⟩

theorem make_denoted (denoted : Denoted state) (pointerKind : NodeApiPointerValueKind)
    (initialRefCount : Nat) {handle : Handle Value} (inside : handle.scope ∈ state.openScopes) :
    Denoted (state.make pointerKind initialRefCount handle) := by
  have unmade : state.runtime.store.objects.next ∉ state.runtime.stackValues := by
    intro onStack
    obtain ⟨this, found⟩ := denoted.invariant.owned.alive _ (.inl onStack)
    rw [Heap.get?_next] at found
    cases found
  refine ⟨make_invariant denoted.invariant pointerKind initialRefCount, ?_, denoted.paired,
    denoted.fresh, denoted.distinct, current_append denoted unmade inside⟩
  intro q that present
  rcases Heap.get?_alloc_some present with ⟨rfl, rfl⟩ | before
  · refine ⟨handle.value, Function.update_self .., ?_⟩
    refine ⟨fun _ => List.mem_append_right _ (List.mem_singleton_self _), ?_, nofun, nofun,
      fun _ => .inl rfl⟩
    exact fun _ => ⟨handle.scope, Function.update_self ..⟩
  · have different : q ≠ state.runtime.store.objects.next := (Heap.address_lt before).ne
    obtain ⟨made, madeOf, denotes⟩ := denoted.all q that before
    refine ⟨made, (Function.update_of_ne different ..).trans madeOf, ?_⟩
    refine ⟨fun value => List.mem_append_left _ (denotes.onStack value), ?_, ?_, denotes.referent,
      denotes.backed⟩
    · intro value
      obtain ⟨scope, stored⟩ := denotes.handle value
      exact ⟨scope, (Function.update_of_ne different ..).trans stored⟩
    · exact fun cleared => (Function.update_of_ne different ..).trans (denotes.cleared cleared)

/-- The count of one object changes. -/
theorem Denoted.recount {this : NodeApiRefCountedPointerValue} {runtime : NodeApiJsiRuntime}
    (denoted : Denoted state) (found : state.runtime.store.objects.get? p = some this)
    (used : this.refCount ≠ 0) (refCount : Nat) (invariant : Invariant runtime)
    (store : runtime.store = ⟨state.runtime.store.objects.set p (some { this with refCount }),
      state.runtime.store.references⟩)
    (stackValues : runtime.stackValues = state.runtime.stackValues)
    (stackScopes : runtime.stackScopes = state.runtime.stackScopes) :
    Denoted { state with runtime } where
  invariant := invariant
  all := by
    change AllDenote _ runtime.store runtime.stackValues
    rw [store, stackValues]
    apply AllDenote.set denoted.all found
    · rfl
    · rfl
    · exact fun _ _ => rfl
    · exact fun _ _ _ _ _ => rfl
    · exact fun _ _ inside => inside
    · rintro that value ⟨⟩ _ before
      refine ⟨before.onStack, before.handle, before.cleared, fun ref owns => ?_,
        fun _ => before.backed used⟩
      exact (before.referent ref owns).imp_right fun ⟨boxed, bare, answers⟩ =>
        ⟨boxed, bare, fun _ => answers used⟩
  paired := by
    change _ = runtime.stackScopes.length
    rw [stackScopes]
    exact denoted.paired
  fresh := denoted.fresh
  distinct := denoted.distinct
  current := by
    change ∀ q ∈ runtime.stackValues, ∀ handle, state.value q = some handle →
      ∃ start, (handle.scope, start) ∈ state.openScopes.zip runtime.stackScopes ∧
        start ≤ runtime.stackValues.idxOf q
    rw [stackValues, stackScopes]
    exact denoted.current

theorem clone_stays (denoted : Denoted state) (member : p ∈ state.runtime.held) :
    Stays (state.lift (state.runtime.clone p)) := by
  obtain ⟨this, found⟩ := denoted.invariant.owned.alive p (.inr (.inr member))
  have used := used_of_held denoted.invariant.owned member found
  rcases clone_kept denoted.invariant member with failed | ⟨next, cloned, invariant⟩
  · exact .inl (by simp only [Handles.lift, failed, mapError_error, error_bind])
  · refine .inr ⟨{ state with runtime := next }, ?_, ?_⟩
    · simp only [Handles.lift, cloned, mapError_ok, ok_bind, pure_ok]
    · obtain rfl := clone_inv found cloned
      exact denoted.recount found used (this.refCount + 1) invariant rfl rfl rfl

theorem invalidate_stays (denoted : Denoted state) (member : p ∈ state.runtime.held) :
    Stays (state.lift (state.runtime.invalidate p)) := by
  obtain ⟨this, found⟩ := denoted.invariant.owned.alive p (.inr (.inr member))
  have used := used_of_held denoted.invariant.owned member found
  have alive := invalidate_alive found used
  rcases invalidate_kept denoted.invariant member with failed | ⟨next, released, invariant⟩
  · rw [alive] at failed
    cases failed
  · obtain rfl := Except.ok.inj (alive.symm.trans released)
    refine .inr ⟨{ state with runtime := _ }, ?_,
      denoted.recount found used (this.refCount - 1) invariant rfl rfl rfl⟩
    simp only [Handles.lift, alive, mapError_ok, ok_bind, pure_ok]

theorem getValue_stays {scope : Nat} (collected : Bool) (denoted : Denoted state)
    (inside : scope ∈ state.openScopes) (member : p ∈ state.runtime.held)
    (quiet : state.exceptionPending = true → ¬ ReadsWrapper state p) :
    Stays ((state.getValue scope p collected).map Prod.fst) := by
  obtain ⟨this, found⟩ := denoted.invariant.owned.alive p (.inr (.inr member))
  obtain ⟨made, madeOf, denotes⟩ := denoted.all p this found
  have unchanged : state.getValue scope p collected = .ok (state, state.value p) ∨
      state.getValue scope p collected = .ok (state, none) →
      Stays ((state.getValue scope p collected).map Prod.fst) := by
    rintro (looked | looked)
    · exact .inr ⟨state, by rw [looked]; rfl, denoted⟩
    · exact .inr ⟨state, by rw [looked]; rfl, denoted⟩
  by_cases value : this.value = true
  · apply unchanged
    simp [Handles.getValue, read_alive found, value]
  · cases owns : this.ref with
    | none =>
      apply unchanged
      simp [Handles.getValue, read_alive found, value, owns]
    | some ref =>
      by_cases gone : this.pointerKind = .weakObject ∧ collected = true
      · apply unchanged
        simp [Handles.getValue, read_alive found, value, owns, gone]
      · have cleared : this.value = false := by simpa using value
        have used := used_of_held denoted.invariant.owned member found
        have reads := denotes.dereferenced owns used cleared fun pending =>
          quiet pending.2 ⟨this, found, cleared, pending.1⟩
        obtain ⟨runtime, looked⟩ := getValue_refilled scope found cleared owns reads gone
        have absent : p ∉ state.runtime.stackValues :=
          fun onStack => value ((denoted.invariant.owned.fits p this found).onStack onStack)
        have invariant : Invariant (refilled state p this ⟨made, scope⟩).runtime := by
          rcases getValue_kept collected denoted.invariant member with failed | ⟨next, read, kept⟩
          · rw [runtime] at failed
            cases failed
          · obtain rfl := Except.ok.inj (runtime.symm.trans read)
            exact kept
        refine .inr ⟨refilled state p this ⟨made, scope⟩, by rw [looked]; rfl, invariant, ?_,
          denoted.paired, denoted.fresh, denoted.distinct, current_append denoted absent inside⟩
        apply AllDenote.set denoted.all found
        · rfl
        · rfl
        · exact fun q different => Function.update_of_ne different _ _
        · exact fun _ _ _ _ _ => rfl
        · exact fun _ _ onStack => List.mem_append_left _ onStack
        · rintro that origin ⟨⟩ originOf before
          obtain rfl := Option.some.inj (madeOf.symm.trans originOf)
          refine ⟨fun _ => List.mem_append_right _ (List.mem_singleton_self _), ?_, nofun,
            fun ref owns => ?_, fun _ => .inl rfl⟩
          · exact fun _ => ⟨scope, Function.update_self ..⟩
          · exact (before.referent ref owns).imp_right fun ⟨boxed, bare, _⟩ =>
              ⟨boxed, bare, fun _ => nofun⟩

theorem deletePointerValues_stays (denoted : Denoted state) :
    Stays (state.lift state.runtime.deletePointerValues) := by
  obtain ⟨store, pendingDeletions, deleted, invariant, all⟩ :=
    deletePointerValues_denotes denoted.invariant denoted.all
  refine .inr ⟨{ state with runtime := { state.runtime with store, pendingDeletions } }, ?_,
    invariant, all.congr rfl rfl rfl rfl, denoted.paired, denoted.fresh, denoted.distinct,
    denoted.current⟩
  simp only [Handles.lift, deleted, mapError_ok, ok_bind, pure_ok]

/-- The pending deletions of a pop run after its values are cleared. -/
theorem popPointerValueScope_cons {newStackSize : Nat} {outer : List Nat}
    (invariant : Invariant state.runtime)
    (scopes : state.runtime.stackScopes = newStackSize :: outer) :
    state.popPointerValueScope = (do
      let cleared ←
        (state.runtime.stackValues.drop newStackSize).foldlM Handles.deleteStackValue state
      let runtime ← ({ cleared.runtime with
        stackScopes := outer
        stackValues := state.runtime.stackValues.take newStackSize }.deletePointerValues).mapError
          .pointerValue
      return { cleared with runtime, openScopes := state.openScopes.tail }) := by
  have within := invariant.within_innermost scopes
  simp only [Handles.popPointerValueScope, scopes, gt_iff_lt, Nat.not_lt.mpr within, ↓reduceIte]

/-- What is left on the stack keeps its handle, and the handle its scope. -/
theorem current_take {after : Handles Value} {newStackSize : Nat} {outer : List Nat}
    (denoted : Denoted state) (scopes : state.runtime.stackScopes = newStackSize :: outer)
    (value : ∀ q ∈ state.runtime.stackValues.take newStackSize, after.value q = state.value q) :
    ∀ q ∈ state.runtime.stackValues.take newStackSize, ∀ handle, after.value q = some handle →
      ∃ start, (handle.scope, start) ∈ state.openScopes.tail.zip outer ∧
        start ≤ (state.runtime.stackValues.take newStackSize).idxOf q := by
  intro q inside handle stored
  rw [value q inside] at stored
  obtain ⟨start, open_, within⟩ := denoted.current q (List.mem_of_mem_take inside) handle stored
  have index : state.runtime.stackValues.idxOf q =
      (state.runtime.stackValues.take newStackSize).idxOf q := by
    conv_lhs => rw [← List.take_append_drop newStackSize state.runtime.stackValues]
    exact List.idxOf_append_of_mem inside
  have below : (state.runtime.stackValues.take newStackSize).idxOf q < newStackSize := by
    have := List.idxOf_lt_length_iff.mpr inside
    rw [List.length_take] at this
    omega
  rw [index] at within
  refine ⟨start, ?_, within⟩
  rw [scopes] at open_
  cases openScopes : state.openScopes with
  | nil => simp [openScopes] at open_
  | cons innermost others =>
    rw [openScopes, List.zip_cons_cons] at open_
    rcases List.mem_cons.mp open_ with innermostHandle | outerHandle
    · -- The innermost scope starts after everything that is left.
      obtain ⟨-, rfl⟩ := Prod.mk.inj innermostHandle
      omega
    · exact outerHandle

theorem popPointerValueScope_stays (denoted : Denoted state)
    (open_ : state.runtime.stackScopes ≠ []) (keeps : Keeps state .popPointerValueScope) :
    Stays state.popPointerValueScope := by
  cases scopes : state.runtime.stackScopes with
  | nil => exact absurd scopes open_
  | cons newStackSize outer =>
    have owned := denoted.invariant.owned
    have all := denoted.all
    rw [← List.take_append_drop newStackSize state.runtime.stackValues] at owned all
    obtain ⟨cleared, folded, frame, ownedAfter, allAfter⟩ :=
      deleteStackValues_denote _ state _ owned all (by
        intro p inside
        apply keeps p
        rw [scopes]
        exact inside)
    have invariant : Invariant { cleared.runtime with
        stackScopes := outer
        stackValues := state.runtime.stackValues.take newStackSize } := by
      rw [frame.runtime]
      exact denoted.invariant.popped scopes ownedAfter
    obtain ⟨store, pendingDeletions, deleted, invariantAfter, allDeleted⟩ :=
      deletePointerValues_denotes invariant allAfter
    refine .inr ⟨{ cleared with
      runtime := { cleared.runtime with
        store
        pendingDeletions
        stackScopes := outer
        stackValues := state.runtime.stackValues.take newStackSize }
      openScopes := state.openScopes.tail }, ?_, invariantAfter, allDeleted.congr rfl rfl rfl rfl,
      ?_, ?_, ?_, ?_⟩
    · rw [popPointerValueScope_cons denoted.invariant scopes, folded, ok_bind, deleted,
        mapError_ok, ok_bind, pure_ok]
    · have paired := denoted.paired
      rw [scopes] at paired
      simp only [List.length_tail, paired, List.length_cons, Nat.add_sub_cancel]
    · intro scope inside
      change scope < cleared.nextScope
      rw [frame.nextScope]
      exact denoted.fresh scope (List.mem_of_mem_tail inside)
    · exact denoted.distinct.sublist (List.tail_sublist _)
    · apply current_take denoted scopes
      intro q inside
      apply frame.value
      intro popped
      exact (List.nodup_append.mp owned.stackDistinct).2.2 q inside q popped rfl

/-- Scripts change what bare wrappers answer. -/
theorem definePrimitiveProperty_denoted {scripts : Scripts Value} (denoted : Denoted state)
    (answers : ∀ p ∈ state.runtime.held, Answers state scripts p) :
    Denoted { state with scripts } := by
  refine ⟨denoted.invariant, ?_, denoted.paired, denoted.fresh, denoted.distinct, denoted.current⟩
  intro p this found
  obtain ⟨made, madeOf, denotes⟩ := denoted.all p this found
  refine ⟨made, madeOf, denotes.onStack, denotes.handle, denotes.cleared, fun ref owns => ?_,
    denotes.backed⟩
  refine (denotes.referent ref owns).imp_right fun ⟨boxed, bare, _⟩ => ⟨boxed, bare, ?_⟩
  intro used cleared
  have member : p ∈ state.runtime.held := by
    rw [(denoted.invariant.owned.fits p this found).counted] at used
    exact List.count_pos_iff.mp (Nat.pos_of_ne_zero used)
  exact answers p member this found cleared ref owns bare made madeOf

theorem call_stays {action : Action Value} {outcome : Except Crash (Handles Value)}
    (denoted : Denoted state) (keeps : Keeps state action)
    (called : call state action = some outcome) : Stays outcome := by
  cases action with
  | pushPointerValueScope =>
    obtain rfl := Option.some.inj called
    exact .inr ⟨_, rfl, pushPointerValueScope_denoted denoted⟩
  | popPointerValueScope =>
    obtain ⟨open_, popped⟩ := Option.ite_none_right_eq_some.mp called
    obtain rfl := Option.some.inj popped
    exact popPointerValueScope_stays denoted open_ keeps
  | make pointerKind initialRefCount handle =>
    obtain ⟨⟨-, inside⟩, made⟩ := Option.ite_none_right_eq_some.mp called
    obtain rfl := Option.some.inj made
    exact .inr ⟨_, rfl, make_denoted denoted pointerKind initialRefCount inside⟩
  | clone p =>
    obtain ⟨member, cloned⟩ := Option.ite_none_right_eq_some.mp called
    obtain rfl := Option.some.inj cloned
    exact clone_stays denoted member
  | getValue p collected =>
    simp only [call] at called
    split at called
    · cases called
    · rename_i scope others scopes
      obtain ⟨member, read⟩ := Option.ite_none_right_eq_some.mp called
      obtain rfl := Option.some.inj read
      exact getValue_stays collected denoted (by rw [scopes]; exact List.mem_cons_self) member keeps
  | invalidate p =>
    obtain ⟨member, released⟩ := Option.ite_none_right_eq_some.mp called
    obtain rfl := Option.some.inj released
    exact invalidate_stays denoted member
  | deletePointerValues =>
    obtain rfl := Option.some.inj called
    exact deletePointerValues_stays denoted
  | definePrimitiveProperty scripts =>
    obtain rfl := Option.some.inj called
    exact .inr ⟨_, rfl, definePrimitiveProperty_denoted denoted keeps⟩
  | setLastException pending =>
    obtain rfl := Option.some.inj called
    exact .inr ⟨_, rfl, denoted.invariant, denoted.all.congr rfl rfl rfl rfl, denoted.paired,
      denoted.fresh, denoted.distinct, denoted.current⟩

end

/-! ## Values that are lost -/

/-- A held value that its reference does not lead back to. -/
structure Misread (state : Handles Value) (p : Nat) (this : NodeApiRefCountedPointerValue)
    (ref : Nat) (made : Value) : Prop where
  found : state.runtime.store.objects.get? p = some this
  used : this.refCount ≠ 0
  strong : this.pointerKind ≠ .weakObject
  cleared : this.value = false
  owns : this.ref = some ref
  madeOf : state.made p = some made
  different : state.quiet.dereferenced p ref this.pointerKind ≠ some made

def IsMisread (state : Handles Value) (p : Nat) : Prop :=
  ∃ this ref made, Misread state p this ref made

theorem IsMisread.not_denoting {state : Handles Value} {p : Nat} (misread : IsMisread state p) :
    ¬ Denoting state := by
  intro denoting
  obtain ⟨this, ref, made, misread⟩ := misread
  obtain ⟨value, handle, after, madeOf, looked, same⟩ := denoting.reads p this 0 false misread.found
    (Nat.pos_of_ne_zero misread.used) misread.strong
  obtain rfl := Option.some.inj (misread.madeOf.symm.trans madeOf)
  have found : state.quiet.runtime.store.objects.get? p = some this := misread.found
  have present : ¬ (this.pointerKind = .weakObject ∧ false = true) :=
    fun weak => misread.strong weak.1
  cases reads : state.quiet.dereferenced p ref this.pointerKind with
  | none =>
    rw [getValue_fails 0 found misread.cleared misread.owns reads present] at looked
    cases looked
  | some read =>
    have refilled := (getValue_refilled 0 found misread.cleared misread.owns reads present).2
    obtain ⟨-, sameHandle⟩ := Prod.mk.inj (Except.ok.inj (looked.symm.trans refilled))
    rw [Option.some.inj sameHandle] at same
    exact misread.different (reads.trans (congrArg some same))

section

variable {state : Handles Value} {p : Nat} {this : NodeApiRefCountedPointerValue}
  {kept rest pool held stack : List Nat}

theorem IsMisread.frame {values : List Nat} {after : Handles Value} {q : Nat}
    (misread : IsMisread state q) (cleared : Cleared values state after) (outside : q ∉ values) :
    IsMisread after q := by
  obtain ⟨that, ref, made, misread⟩ := misread
  refine ⟨that, ref, made, ?_, misread.used, misread.strong, misread.cleared, misread.owns, ?_, ?_⟩
  · rw [cleared.objects q outside]
    exact misread.found
  · rw [cleared.made]
    exact misread.madeOf
  · have referent := cleared.referent q outside that ref misread.found misread.owns
    simp only [Handles.dereferenced, Handles.quiet, referent, cleared.scripts]
    exact misread.different

/-- Not the crash of one of the source's own checks. -/
def Unchecked (outcome : Except Crash (Handles Value)) : Prop :=
  ∃ crash, outcome = .error crash ∧ crash ≠ .pointerValue .checkFailed

/-- What is read back from a new wrapper is read back from it. -/
theorem readBack_of_wrapped {handle : Handle Value} {wrapper : Wrapper Value}
    (found : state.runtime.store.objects.get? p = some this) (stored : state.value p = some handle)
    (absent : this.ref = none)
    (wraps : state.wrapped p this.pointerKind handle.value = some wrapper)
    (reads : state.scripts.getNamedProperty p wrapper = some handle.value) : ReadBack state p := by
  intro that present _ boxed other otherStored
  obtain rfl := Option.some.inj (found.symm.trans present)
  obtain rfl := Option.some.inj (stored.symm.trans otherStored)
  rw [Handles.wrapped, if_pos boxed, Option.ite_none_left_eq_some] at wraps
  rw [absent]
  exact ⟨by simpa using wraps.1, (readsAs_iff ..).mpr ⟨wrapper, wraps.2, reads⟩⟩

/-- The assignment to the wrapper fails. -/
theorem deleteStackValue_throws {handle : Handle Value} {store : Store}
    (found : state.runtime.store.objects.get? p = some this)
    (deleted : state.runtime.store.deleteStackValue p = .ok store)
    (needed : this.refCount ≠ 0 ∧ this.ref = none) (stored : state.value p = some handle)
    (throws : state.wrapped p this.pointerKind handle.value = none) :
    state.deleteStackValue p = .error .setNamedProperty := by
  have refused : state.ensureReferent p this = .error .setNamedProperty := by
    unfold Handles.ensureReferent
    rw [ite_cond_eq_true _ _ (eq_true needed)]
    simp only [Handles.createReferent, stored, throws]
    rfl
  simp only [Handles.deleteStackValue, read_alive found, deleted, mapError_ok, ok_bind,
    refused, error_bind]

/-- The reference that is made for a value leads to another one. -/
theorem popped_misread {store : Store} {handle : Handle Value} {wrapper : Wrapper Value}
    (found : state.runtime.store.objects.get? p = some this) (value : this.value = true)
    (unflagged : this.canBeDeletedFromStack = false)
    (deleted : state.runtime.store.deleteStackValue p = .ok store)
    (needed : this.refCount ≠ 0 ∧ this.ref = none) (madeOf : state.made p = some handle.value)
    (wraps : state.wrapped p this.pointerKind handle.value = some wrapper)
    (changed : state.scripts.getNamedProperty p wrapper ≠ some handle.value) :
    IsMisread (popped state p store
      (Function.update state.referent state.runtime.store.references.next (some wrapper))) p := by
  -- Weak references are made for the value itself.
  have strong : this.pointerKind ≠ .weakObject := by
    intro weak
    rw [weak] at wraps
    obtain rfl := Option.some.inj wraps
    exact changed rfl
  have clears := deleteStackValue_unflagged found value unflagged
  obtain ⟨strength, created⟩ := clearStackValue_created found value needed.1 needed.2
  obtain rfl := Except.ok.inj (deleted.symm.trans (clears.trans created))
  refine ⟨_, _, handle.value, Heap.get?_set_self _ found, needed.1, strong, rfl, rfl, madeOf, ?_⟩
  simp only [Handles.dereferenced, Handles.quiet, popped, Function.update_self, Option.bind_some]
  simpa using changed

/-- A wrapper that answers with another value than the one popped. -/
theorem popped_bare {store : Store} {handle : Handle Value}
    (found : state.runtime.store.objects.get? p = some this) (value : this.value = true)
    (unflagged : this.canBeDeletedFromStack = false)
    (deleted : state.runtime.store.deleteStackValue p = .ok store)
    (unneeded : ¬ (this.refCount ≠ 0 ∧ this.ref = none))
    (stored : state.value p = some handle) (madeOf : state.made p = some handle.value)
    (lost : ¬ ReadBack state p) : IsMisread (popped state p store state.referent) p := by
  simp only [ReadBack, not_forall] at lost
  obtain ⟨that, present, used, boxed, other, otherStored, lost⟩ := lost
  obtain rfl := Option.some.inj (found.symm.trans present)
  obtain rfl := Option.some.inj (stored.symm.trans otherStored)
  obtain ⟨ref, owns⟩ := Option.ne_none_iff_exists'.mp fun absent => unneeded ⟨used, absent⟩
  rw [owns, Restorable, Classical.not_imp] at lost
  have strong : this.pointerKind ≠ .weakObject := by
    intro weak
    rw [weak] at boxed
    cases boxed
  have clears := deleteStackValue_unflagged found value unflagged
  obtain rfl := Except.ok.inj
    (deleted.symm.trans (clears.trans (clearStackValue_unchanged found unneeded)))
  refine ⟨_, ref, handle.value, Heap.get?_set_self _ found, used, strong, rfl, owns, madeOf, ?_⟩
  simp only [Handles.dereferenced, Handles.quiet, popped, lost.1, Option.bind_some,
    Scripts.getNamedProperty]
  simpa using lost.2

/-- A popped value that is not kept loses the process, or is misread. -/
theorem deleteStackValue_cases {handle : Handle Value}
    (owned : Owned state.runtime.store (kept ++ p :: rest) pool held)
    (stored : state.value p = some handle) (madeOf : state.made p = some handle.value) :
    Unchecked (state.deleteStackValue p) ∨
      ∃ after, state.deleteStackValue p = .ok after ∧ Cleared [p] state after ∧
        Owned after.runtime.store (kept ++ rest) pool held ∧
        (¬ (state.runtime.flagged p = false ∧ ReadBack state p) → IsMisread after p) := by
  have member : p ∈ kept ++ p :: rest := by simp
  obtain ⟨this, found⟩ := owned.alive p (.inl member)
  have value := (owned.fits p this found).onStack member
  rw [unflagged_alive found]
  by_cases flagged : this.canBeDeletedFromStack = true
  · left
    apply Exists.intro (Crash.pointerValue (.object (.useAfterDelete p)))
    apply And.intro _ nofun
    simp only [Handles.deleteStackValue, read_alive found, mapError_ok, ok_bind,
      deleteStackValue_flagged found value flagged, mapError_error, error_bind]
  · have unflagged : this.canBeDeletedFromStack = false := by simpa using flagged
    obtain ⟨store, deleted, ownedAfter, others⟩ := deleteStackValue_owned owned
      (unflagged_of_found found unflagged)
    by_cases needed : this.refCount ≠ 0 ∧ this.ref = none
    · cases wraps : state.wrapped p this.pointerKind handle.value with
      | none =>
        left
        exact ⟨.setNamedProperty, deleteStackValue_throws found deleted needed stored wraps, nofun⟩
      | some wrapper =>
        right
        have ensured := ensureReferent_created needed.1 needed.2 stored wraps
        refine ⟨_, deleteStackValue_popped found deleted ensured,
          popped_cleared others fun q that ref present owns => referent_other owned present owns,
          ownedAfter, fun lost => ?_⟩
        apply popped_misread found value unflagged deleted needed madeOf wraps
        exact fun reads =>
          lost ⟨unflagged, readBack_of_wrapped found stored needed.2 wraps reads⟩
    · right
      have ensured : state.ensureReferent p this = .ok state.referent :=
        ensureReferent_unchanged needed
      refine ⟨_, deleteStackValue_popped found deleted ensured,
        popped_cleared others fun _ _ _ _ _ => rfl, ownedAfter, fun lost => ?_⟩
      apply popped_bare found value unflagged deleted needed stored madeOf
      exact fun readBack => lost ⟨unflagged, readBack⟩

/-- Popping a scope loses the process, or leaves misread what it did not keep and
what was misread before. -/
theorem deleteStackValues_cases (values : List Nat) : ∀ (state : Handles Value) (kept : List Nat),
    Owned state.runtime.store (kept ++ values) pool held →
    (∀ p ∈ values, ∃ handle, state.value p = some handle ∧ state.made p = some handle.value) →
    Unchecked (values.foldlM Handles.deleteStackValue state) ∨
      ∃ after, values.foldlM Handles.deleteStackValue state = .ok after ∧
        Cleared values state after ∧ Owned after.runtime.store kept pool held ∧
        ∀ p, (p ∈ values ∧ ¬ (state.runtime.flagged p = false ∧ ReadBack state p) ∨
          p ∉ values ∧ IsMisread state p) → IsMisread after p := by
  induction values with
  | nil =>
    intro state kept owned _
    rw [List.append_nil] at owned
    refine .inr ⟨state, rfl, .refl state, owned, ?_⟩
    rintro p (⟨inside, -⟩ | ⟨-, misread⟩)
    · cases inside
    · exact misread
  | cons p rest ih =>
    intro state kept owned handles
    have distinct := (List.nodup_append.mp owned.stackDistinct).2.1
    have absent : p ∉ rest := (List.nodup_cons.mp distinct).1
    obtain ⟨handle, stored, madeOf⟩ := handles p List.mem_cons_self
    rw [List.foldlM_cons]
    rcases deleteStackValue_cases owned stored madeOf with
      ⟨crash, crashed, unchecked⟩ | ⟨middle, deleted, cleared, owned', lost⟩
    · exact .inl ⟨crash, by rw [crashed]; rfl, unchecked⟩
    · have outside : ∀ q ∈ rest, q ∉ [p] := by
        intro q inside
        rw [List.mem_singleton]
        rintro rfl
        exact absent inside
      rw [deleted, ok_bind]
      rcases ih middle kept owned' (by
        intro q inside
        rw [cleared.value q (outside q inside), cleared.made]
        exact handles q (List.mem_cons_of_mem p inside)) with
        crashed | ⟨after, finished, clearedRest, ownedAfter, lostRest⟩
      · exact .inl crashed
      · refine .inr ⟨after, finished, cleared.cons clearedRest, ownedAfter, ?_⟩
        rintro q (⟨inside, unkept⟩ | ⟨beyond, misread⟩)
        · apply lostRest
          rcases List.mem_cons.mp inside with rfl | later
          · exact .inr ⟨absent, lost unkept⟩
          · exact .inl ⟨later, fun keeps => unkept ((cleared.keeps_iff (outside q later)).mp keeps)⟩
        · rw [List.mem_cons, not_or] at beyond
          exact lostRest q (.inr ⟨beyond.2, misread.frame cleared (by simpa using beyond.1)⟩)

theorem IsMisread.deletePointerValues {runtime : NodeApiJsiRuntime} (invariant : Invariant runtime)
    (store : runtime.store = state.runtime.store) (misread : IsMisread state p)
    (openScopes : List Nat) :
    ∃ next, runtime.deletePointerValues = .ok next ∧
      IsMisread { state with runtime := next, openScopes } p := by
  obtain ⟨this, ref, made, misread⟩ := misread
  obtain ⟨after, folded, -, others⟩ := deleteNodeApiRefs_owned _ _ invariant.owned
  obtain ⟨pendingDeletions, switched⟩ := deletePointerValues_of_fold folded
  have found := misread.found
  rw [← store] at found
  have unpooled : p ∉ runtime.pendingDeletions.selected :=
    fun pooled => misread.used ((invariant.owned.fits p this found).pooled pooled).1
  refine ⟨{ runtime with store := after, pendingDeletions }, ?_, ?_⟩
  · simp only [NodeApiJsiRuntime.deletePointerValues, switched, ok_bind, pure_ok]
  · exact ⟨this, ref, made, (others p unpooled).trans found, misread.used, misread.strong,
      misread.cleared, misread.owns, misread.madeOf, misread.different⟩

theorem popPointerValueScope_refused (denoted : Denoted state)
    (open_ : state.runtime.stackScopes ≠ []) (unkept : ¬ Keeps state .popPointerValueScope) :
    ¬ HandlesDenote state.popPointerValueScope := by
  cases scopes : state.runtime.stackScopes with
  | nil => exact absurd scopes open_
  | cons newStackSize outer =>
    have owned := denoted.invariant.owned
    rw [← List.take_append_drop newStackSize state.runtime.stackValues] at owned
    simp only [Keeps, scopes, List.headD_cons, not_forall] at unkept
    obtain ⟨p, inside, unkept⟩ := unkept
    rw [popPointerValueScope_cons denoted.invariant scopes]
    rcases deleteStackValues_cases _ state _ owned (by
      intro q member
      have onStack := List.mem_of_mem_drop member
      obtain ⟨that, present⟩ := denoted.invariant.owned.alive q (.inl onStack)
      obtain ⟨made, madeOf, denotes⟩ := denoted.all q that present
      obtain ⟨scope, stored⟩ :=
        denotes.handle ((denoted.invariant.owned.fits q that present).onStack onStack)
      exact ⟨_, stored, madeOf⟩) with
      ⟨crash, crashed, unchecked⟩ | ⟨cleared, folded, frame, ownedAfter, lost⟩
    · rw [crashed, error_bind]
      exact unchecked
    · have invariant : Invariant { cleared.runtime with
          stackScopes := outer
          stackValues := state.runtime.stackValues.take newStackSize } := by
        rw [frame.runtime]
        exact denoted.invariant.popped scopes ownedAfter
      obtain ⟨next, deleted, misread⟩ := IsMisread.deletePointerValues invariant rfl
        (lost p (.inl ⟨inside, unkept⟩)) state.openScopes.tail
      rw [folded, ok_bind, deleted, mapError_ok, ok_bind, pure_ok]
      exact misread.not_denoting

end

theorem start_denoted : Denoted ({} : Handles Value) where
  invariant := start_invariant
  all := by
    intro p this found
    cases found
  paired := rfl
  fresh := nofun
  distinct := List.nodup_nil
  current := nofun

/-- A wrapper is read while an exception is pending. -/
theorem getValue_refused {state : Handles Value} {scope p : Nat} (collected : Bool)
    (denoted : Denoted state) (member : p ∈ state.runtime.held)
    (unkept : ¬ Keeps state (.getValue p collected)) :
    ¬ HandlesDenote ((state.getValue scope p collected).map Prod.fst) := by
  obtain ⟨pending, reads⟩ := Classical.not_imp.mp unkept
  obtain ⟨this, found, cleared, boxed⟩ := not_not.mp reads
  obtain ⟨made, -, denotes⟩ := denoted.all p this found
  have used := used_of_held denoted.invariant.owned member found
  have present := (denotes.backed used).resolve_left (by simp [cleared])
  obtain ⟨ref, owns⟩ := Option.ne_none_iff_exists'.mp present
  have strong : ¬ (this.pointerKind = .weakObject ∧ collected = true) := by
    rintro ⟨weak, -⟩
    rw [weak] at boxed
    cases boxed
  have fails : state.dereferenced p ref this.pointerKind = none := if_pos ⟨boxed, pending⟩
  rw [getValue_fails scope found cleared owns fails strong]
  exact nofun

/-- A wrapper in use answers with another value than its own. -/
theorem definePrimitiveProperty_refused {state : Handles Value} {scripts : Scripts Value}
    (denoted : Denoted state) (unkept : ¬ Keeps state (.definePrimitiveProperty scripts)) :
    ¬ HandlesDenote (.ok { state with scripts }) := by
  simp only [Keeps, Answers, not_forall] at unkept
  obtain ⟨p, member, this, found, cleared, ref, owns, bare, made, madeOf, other⟩ := unkept
  obtain ⟨origin, -, denotes⟩ := denoted.all p this found
  have boxed : isWrapped this.pointerKind = true := by
    rcases denotes.referent ref owns with own | ⟨boxed, -, -⟩
    · rw [bare] at own
      cases own
    · exact boxed
  have strong : this.pointerKind ≠ .weakObject := by
    intro weak
    rw [weak] at boxed
    cases boxed
  apply IsMisread.not_denoting (p := p)
  refine ⟨this, ref, made, found, used_of_held denoted.invariant.owned member found, strong,
    cleared, owns, madeOf, ?_⟩
  simp only [Handles.dereferenced, Handles.quiet, bare, Option.bind_some, Scripts.getNamedProperty]
  simpa using other

/-- Held pointers denote their values along a whole run exactly when every scope is
popped before one of its values has been left to the stack to delete, wrappers are assigned
and read only while no exception is pending, and scripts that intercept the property "X" of
a wrapper answer with the value assigned to it. -/
theorem handles_denote_iff (trace : List (Action Value))
    (outcome : Except Crash (Handles Value))
    (ran : (handlesProgram Value).run trace = some outcome) :
    (handlesProgram Value).SafeAlong HandlesDenote (handlesProgram Value).start trace ↔
      (handlesProgram Value).Meets Keeps (handlesProgram Value).start trace := by
  refine Program.safeAlong_iff_meets Denoted (fun _ denoted => denoted.denoting) ?_ ?_ trace _
    outcome start_denoted ran
  · intro state action reached denoted keeps called
    exact (call_stays denoted keeps called).safe
  · intro state action reached denoted unkept called
    cases action with
    | popPointerValueScope =>
      obtain ⟨open_, popped⟩ := Option.ite_none_right_eq_some.mp called
      obtain rfl := Option.some.inj popped
      exact popPointerValueScope_refused denoted open_ unkept
    | getValue p collected =>
      dsimp only [handlesProgram, call] at called
      split at called
      · cases called
      · obtain ⟨member, read⟩ := Option.ite_none_right_eq_some.mp called
        obtain rfl := Option.some.inj read
        exact getValue_refused collected denoted member unkept
    | definePrimitiveProperty scripts =>
      obtain rfl := Option.some.inj called
      exact definePrimitiveProperty_refused denoted unkept
    | pushPointerValueScope | make _ _ _ | clone _ | invalidate _ | deletePointerValues
    | setLastException _ => exact absurd trivial unkept

instance [DecidableEq Value] (state : Handles Value) (p : Nat) (value : Value) :
    ∀ ref, Decidable (Restorable state p value ref)
  | none => inferInstanceAs (Decidable (_ ∧ _))
  | some _ => inferInstanceAs (Decidable (_ → _))

instance [DecidableEq Value] (state : Handles Value) (p : Nat) : Decidable (ReadBack state p) :=
  inferInstanceAs (Decidable (∀ this ∈ _, _ → _ → ∀ handle ∈ _, _))

instance (state : Handles Value) (p : Nat) : Decidable (ReadsWrapper state p) :=
  inferInstanceAs (Decidable (∃ this ∈ _, _ ∧ _))

instance [DecidableEq Value] (state : Handles Value) (scripts : Scripts Value) (p : Nat) :
    Decidable (Answers state scripts p) :=
  inferInstanceAs (Decidable (∀ this ∈ _, _ → ∀ ref ∈ _, _ → ∀ value ∈ _, _))

instance [DecidableEq Value] (state : Handles Value) : ∀ action, Decidable (Keeps state action)
  | .popPointerValueScope => inferInstanceAs (Decidable (∀ p ∈ _, _ ∧ _))
  | .getValue p _ => inferInstanceAs
      (Decidable (state.exceptionPending = true → ¬ ReadsWrapper state p))
  | .definePrimitiveProperty scripts => inferInstanceAs
      (Decidable (∀ p ∈ state.runtime.held, Answers state scripts p))
  | .pushPointerValueScope | .make _ _ _ | .clone _ | .invalidate _
  | .deletePointerValues | .setLastException _ => isTrue trivial

/-- An accessor "X" of `Object.prototype`, the getter of which gives one value. -/
def accessor (value : Nat) : Scripts Nat where
  assignment _ := .intercepted
  inherited _ := some value

/-- A string outlives its scope, is looked up in another and released after it. An accessor
remembers the string, and an exception comes and goes. -/
theorem handles_denote_string_outlives_scope :
    (handlesProgram Nat).SafeAlong HandlesDenote (handlesProgram Nat).start
      [.definePrimitiveProperty (accessor 7), .pushPointerValueScope, .make .string 1 ⟨7, 0⟩,
        .popPointerValueScope, .setLastException true, .pushPointerValueScope,
        .setLastException false, .getValue 0 false, .popPointerValueScope, .invalidate 0,
        .deletePointerValues] :=
  (handles_denote_iff _ _ rfl).mpr (by decide)

/-- The string 7 comes back from its reference as 1, when an accessor always gives 1 and when
one that has remembered the string is redefined. A string of a scope that is popped with an
exception pending ends the process. -/
theorem string_misread_after_scope :
    ¬ (handlesProgram Nat).SafeAlong HandlesDenote (handlesProgram Nat).start
      [.definePrimitiveProperty (accessor 1), .pushPointerValueScope, .make .string 1 ⟨7, 0⟩,
        .popPointerValueScope] ∧
    ¬ (handlesProgram Nat).SafeAlong HandlesDenote (handlesProgram Nat).start
      [.definePrimitiveProperty (accessor 7), .pushPointerValueScope, .make .string 1 ⟨7, 0⟩,
        .popPointerValueScope, .definePrimitiveProperty (accessor 1)] ∧
    ¬ (handlesProgram Nat).SafeAlong HandlesDenote (handlesProgram Nat).start
      [.pushPointerValueScope, .make .string 1 ⟨7, 0⟩, .setLastException true,
        .popPointerValueScope] := by
  refine ⟨fun along => ?_, fun along => ?_, fun along => ?_⟩
  · have denoting := along _ [] _ (List.append_nil _).symm rfl
    obtain ⟨value, handle, after, madeOf, looked, same⟩ :=
      denoting.reads 0 _ 1 false rfl (by decide) (by decide)
    cases madeOf
    cases looked
    cases same
  · have denoting := along _ [] _ (List.append_nil _).symm rfl
    obtain ⟨value, handle, after, madeOf, looked, same⟩ :=
      denoting.reads 0 _ 1 false rfl (by decide) (by decide)
    cases madeOf
    cases looked
    cases same
  · have crashed := along _ [] _ (List.append_nil _).symm rfl
    cases crashed

end V8Jsi.PointerHandles
