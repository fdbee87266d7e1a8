import Mathlib.Logic.Basic

set_option autoImplicit false

/- The property "X" of NodeApiJsiRuntime.cpp. A `napi_ref` can only hold an object, so
that a primitive value is kept as this property of a new one, the wrapper. The property is
assigned in `createNodeApiRef` and read in `getValue`, each time by way of
`Object.prototype`, which scripts can change. -/
namespace V8Jsi.PrimitiveProperty

/-- An assignment to "X" makes an own property of the wrapper, or a read-only property or
an accessor of `Object.prototype` intercepts it, or its setter throws. -/
inductive Assignment
  | own
  | intercepted
  | throws
  deriving DecidableEq, Repr

/-- What scripts decide for each wrapper: how the assignment goes, and what is read as long
as the wrapper has no own property that the assignment made, nothing when a getter throws. -/
structure Scripts (Value : Type) where
  assignment : Nat → Assignment := fun _ => .own
  inherited : Nat → Option Value := fun _ => none

/-- Scripts never see a wrapper whose own property was made by the assignment. -/
inductive Wrapper (Value : Type)
  | own (value : Value)
  | bare
  deriving DecidableEq, Repr

variable {Value : Type}

/-- `napi_set_named_property` on the wrapper of that number, `none` where it fails. -/
def Scripts.setNamedProperty (scripts : Scripts Value) (wrapper : Nat) (value : Value) :
    Option (Wrapper Value) :=
  match scripts.assignment wrapper with
  | .own => some (.own value)
  | .intercepted => some .bare
  | .throws => none

/-- `napi_get_named_property`, `none` where it fails. -/
def Scripts.getNamedProperty (scripts : Scripts Value) (wrapper : Nat) :
    Wrapper Value → Option Value
  | .own value => some value
  | .bare => scripts.inherited wrapper

/-- The assignment does not fail, and a read that follows gives the value. -/
def Scripts.ReadsAs (scripts : Scripts Value) (wrapper : Nat) (assigned value : Value) : Prop :=
  match scripts.assignment wrapper with
  | .own => assigned = value
  | .intercepted => scripts.inherited wrapper = some value
  | .throws => False

instance [DecidableEq Value] (scripts : Scripts Value) (wrapper : Nat) (assigned value : Value) :
    Decidable (scripts.ReadsAs wrapper assigned value) :=
  match chosen : scripts.assignment wrapper with
  | .own => decidable_of_iff (assigned = value) (by simp [Scripts.ReadsAs, chosen])
  | .intercepted => decidable_of_iff (scripts.inherited wrapper = some value)
      (by simp [Scripts.ReadsAs, chosen])
  | .throws => .isFalse (by simp [Scripts.ReadsAs, chosen])

theorem readsAs_iff (scripts : Scripts Value) (wrapper : Nat) (assigned value : Value) :
    scripts.ReadsAs wrapper assigned value ↔
      ∃ wrapped, scripts.setNamedProperty wrapper assigned = some wrapped ∧
        scripts.getNamedProperty wrapper wrapped = some value := by
  unfold Scripts.ReadsAs Scripts.setNamedProperty
  cases scripts.assignment wrapper with
  | own => simp [Scripts.getNamedProperty]
  | intercepted => simp [Scripts.getNamedProperty]
  | throws => simp

end V8Jsi.PrimitiveProperty
