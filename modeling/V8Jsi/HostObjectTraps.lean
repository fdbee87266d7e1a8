import V8Jsi.NodeApiExceptions

set_option autoImplicit false

/- The Proxy that `NodeApiJsiRuntime` puts around a host object: the traps of
NodeApiJsiRuntime.cpp, and what JavaScript makes of their answers. The target keeps the
host object under a symbol of its own and whatever properties are defined on it later. -/
namespace V8Jsi.HostObjectTraps

open NodeApiExceptions (JsValue text)

inductive PropertyKey
  | string (units : List UInt16)
  | symbol (identity : Nat)
  deriving DecidableEq, Repr

/-- C++ exceptions that a host object throws. -/
inductive HostException
  | jsError (value : JsValue)
  | standard (what : List UInt8)
  | unknown
  deriving DecidableEq, Repr

/-- JavaScript exceptions: a value that was thrown, or an error that is made. -/
inductive JsException
  | value (value : JsValue)
  | error (message : List UInt8)
  | typeError
  deriving DecidableEq, Repr

/-- The methods of the host object and the getters of the target, which may change the
state `η` they work on. -/
structure HostObject (η : Type) where
  get : η → PropertyKey → Except HostException JsValue × η
  set : η → PropertyKey → JsValue → Except HostException Unit × η
  callGetter : η → Nat → Except JsValue JsValue × η

inductive Content
  | data (value : JsValue) (writable : Bool)
  | accessor (getter setter : Option Nat)
  deriving DecidableEq, Repr

structure OwnProperty where
  content : Content
  enumerable : Bool
  configurable : Bool
  deriving DecidableEq, Repr

structure Target where
  ownProperty : PropertyKey → Option OwnProperty
  extensible : Bool := true

/-- A complete data descriptor. -/
structure Descriptor where
  value : JsValue
  writable : Bool
  enumerable : Bool
  configurable : Bool
  deriving DecidableEq, Repr

/-- `runInMethodContext`, with the way back to JavaScript. -/
def inMethodContext {α : Type} (methodName : String) : Except HostException α → Except JsException α
  | .ok result => .ok result
  | .error (.jsError value) => .error (.value value)
  | .error (.standard what) =>
      .error (.error (text "Exception in " ++ text methodName ++ text ": " ++ what))
  | .error .unknown =>
      .error (.error (text "Exception in " ++ text methodName ++ text ": <unknown>"))

/-! ## The traps -/

section

variable {η : Type} (hostObject : HostObject η) (state : η) (target : Target)

def hostObjectHasTrap (_propertyName : PropertyKey) : Except JsException JsValue × η :=
  (.ok (.boolean true), state)

/-- `getProperty` for an own property of the target. -/
def readOwn : OwnProperty → Except JsException JsValue × η
  | { content := .data value _, .. } => (.ok value, state)
  | { content := .accessor none _, .. } => (.ok .undefined, state)
  | { content := .accessor (some getter) _, .. } =>
      let called := hostObject.callGetter state getter
      (called.1.mapError .value, called.2)

def hostObjectGetTrap (propertyName : PropertyKey) : Except JsException JsValue × η :=
  match target.ownProperty propertyName with
  | some property => readOwn hostObject state property
  | none =>
      let got := hostObject.get state propertyName
      (inMethodContext "HostObject::get" got.1, got.2)

def hostObjectSetTrap (propertyName : PropertyKey) (value : JsValue) :
    Except JsException JsValue × η :=
  let set := hostObject.set state propertyName value
  ((inMethodContext "HostObject::set" set.1).map fun _ => .undefined, set.2)

def hostObjectGetOwnPropertyDescriptorTrap (property : PropertyKey) :
    Except JsException Descriptor × η :=
  let got := hostObject.get state property
  ((inMethodContext "HostObject::getOwnPropertyDescriptor" got.1).map fun value =>
    { value, writable := true, enumerable := true, configurable := true }, got.2)

end

/-! ## The Proxy -/

/-- A number is falsy when it is a zero or not a number. -/
def toBoolean : JsValue → Bool
  | .undefined | .null => false
  | .boolean value => value
  | .number bits =>
      bits &&& 0x7FFFFFFFFFFFFFFF ≠ 0 && bits &&& 0x7FFFFFFFFFFFFFFF ≤ 0x7FF0000000000000
  | .string units => units ≠ []
  | .bigInt value => value ≠ 0
  | .symbol _ | .object _ | .function _ | .external _ => true

/-- `IsCompatiblePropertyDescriptor` for a complete data descriptor. -/
def isCompatible (extensible : Bool) (descriptor : Descriptor) : Option OwnProperty → Bool
  | none => extensible
  | some current =>
      current.configurable ||
        !descriptor.configurable && descriptor.enumerable == current.enumerable &&
          match current.content with
          | .accessor _ _ => false
          | .data value writable => writable || !descriptor.writable && descriptor.value == value

/-- What else a descriptor needs that is not configurable. -/
def isReported (descriptor : Descriptor) : Option OwnProperty → Bool
  | none => descriptor.configurable
  | some current =>
      descriptor.configurable ||
        !current.configurable &&
          match current.content with
          | .accessor _ _ => true
          | .data _ writable => descriptor.writable || !writable

section

variable {η : Type} (hostObject : HostObject η) (state : η) (target : Target)

/-- `Object.getOwnPropertyDescriptor` -/
def getOwnPropertyDescriptor (key : PropertyKey) : Except JsException Descriptor :=
  match (hostObjectGetOwnPropertyDescriptorTrap hostObject state key).1 with
  | .error exception => .error exception
  | .ok descriptor =>
      if isCompatible target.extensible descriptor (target.ownProperty key) &&
          isReported descriptor (target.ownProperty key) then .ok descriptor
      else .error .typeError

/-- A new value that the target could not have. -/
def contradicts (value : JsValue) : Option OwnProperty → Bool
  | some { content := .data current false, configurable := false, .. } => value != current
  | some { content := .accessor _ none, configurable := false, .. } => true
  | _ => false

/-- An assignment in strict mode. -/
def assign (key : PropertyKey) (value : JsValue) : Except JsException Unit :=
  match (hostObjectSetTrap hostObject state key value).1 with
  | .error exception => .error exception
  | .ok result =>
      if toBoolean result && !contradicts value (target.ownProperty key) then .ok ()
      else .error .typeError

/-- The traps agree on a key: what has a descriptor is there, the descriptor has the value
that is read and is let through, and an assignment that the host object has taken is
reported as done. -/
structure Agree (key : PropertyKey) (value : JsValue) : Prop where
  has : ∀ descriptor,
    (hostObjectGetOwnPropertyDescriptorTrap hostObject state key).1 = .ok descriptor →
      (hostObjectHasTrap state key).1 = .ok (.boolean true)
  reads : ∀ descriptor,
    (hostObjectGetOwnPropertyDescriptorTrap hostObject state key).1 = .ok descriptor →
      (hostObjectGetTrap hostObject state target key).1 = .ok descriptor.value
  passes : ∀ descriptor,
    (hostObjectGetOwnPropertyDescriptorTrap hostObject state key).1 = .ok descriptor →
      getOwnPropertyDescriptor hostObject state target key = .ok descriptor
  assigns : (hostObject.set state key value).1 = .ok () →
    ∃ result, (hostObjectSetTrap hostObject state key value).1 = .ok result ∧
      toBoolean result = true

/-- A key that is new to the target, or that the target could still give up. -/
def Target.frees (key : PropertyKey) : Bool :=
  match target.ownProperty key with
  | none => target.extensible
  | some property => property.configurable

/-- The target leaves the key to the host object, or has it with a value that the host
object gives out too, and configurable. -/
def LeavesToHost (key : PropertyKey) : Prop :=
  ∀ value, (hostObject.get state key).1 = .ok value →
    target.frees key = true ∧
      ∀ property ∈ target.ownProperty key, (readOwn hostObject state property).1 = .ok value

end

section

variable {η : Type} (hostObject : HostObject η) (state : η) (target : Target)

theorem inMethodContext_ok_iff {α : Type} (methodName : String) (outcome : Except HostException α)
    (result : α) : inMethodContext methodName outcome = .ok result ↔ outcome = .ok result := by
  cases outcome with
  | ok value => simp [inMethodContext]
  | error exception =>
    cases exception with
    | jsError value => simp [inMethodContext]
    | standard what => simp [inMethodContext]
    | unknown => simp [inMethodContext]

theorem descriptorTrap_ok_iff (key : PropertyKey) (descriptor : Descriptor) :
    (hostObjectGetOwnPropertyDescriptorTrap hostObject state key).1 = .ok descriptor ↔
      (hostObject.get state key).1 = .ok descriptor.value ∧
        descriptor = { value := descriptor.value
                       writable := true, enumerable := true, configurable := true } := by
  rw [← inMethodContext_ok_iff "HostObject::getOwnPropertyDescriptor",
    hostObjectGetOwnPropertyDescriptorTrap]
  cases inMethodContext "HostObject::getOwnPropertyDescriptor" (hostObject.get state key).1 with
  | error exception => simp [Except.map]
  | ok value =>
    simp only [Except.map, Except.ok.injEq]
    constructor
    · rintro rfl
      exact ⟨rfl, rfl⟩
    · rintro ⟨rfl, whole⟩
      exact whole.symm

theorem getTrap_ok_iff (key : PropertyKey) (value : JsValue)
    (got : (hostObject.get state key).1 = .ok value) :
    (hostObjectGetTrap hostObject state target key).1 = .ok value ↔
      ∀ property ∈ target.ownProperty key, (readOwn hostObject state property).1 = .ok value := by
  rw [hostObjectGetTrap]
  cases target.ownProperty key with
  | none => simp [inMethodContext, got]
  | some property => simp

/-- A descriptor that is configurable passes where nothing fixed stands behind it. -/
theorem getOwnPropertyDescriptor_ok_iff (key : PropertyKey) (descriptor : Descriptor)
    (trapped : (hostObjectGetOwnPropertyDescriptorTrap hostObject state key).1 = .ok descriptor) :
    getOwnPropertyDescriptor hostObject state target key = .ok descriptor ↔
      target.frees key = true := by
  have configurable : descriptor.configurable = true :=
    congrArg Descriptor.configurable
      ((descriptorTrap_ok_iff hostObject state key descriptor).mp trapped).2
  rw [getOwnPropertyDescriptor, trapped, Target.frees]
  cases target.ownProperty key with
  | none => simp [isCompatible, isReported, configurable]
  | some property => simp [isCompatible, isReported, configurable]

theorem setTrap_falsy (key : PropertyKey) (value result : JsValue)
    (trapped : (hostObjectSetTrap hostObject state key value).1 = .ok result) :
    toBoolean result = false := by
  rw [hostObjectSetTrap] at trapped
  cases outcome : inMethodContext "HostObject::set" (hostObject.set state key value).1 with
  | error exception =>
    rw [outcome] at trapped
    cases trapped
  | ok done =>
    rw [outcome] at trapped
    cases trapped
    rfl

/-- The traps agree on a key exactly when the target leaves it to the host object, or
repeats it, and the host object refuses the assignment: an assignment that is done is
never reported as done. -/
theorem traps_agree_iff (key : PropertyKey) (value : JsValue) :
    Agree hostObject state target key value ↔
      LeavesToHost hostObject state target key ∧
        ∃ exception, (hostObject.set state key value).1 = .error exception := by
  constructor
  · intro agree
    constructor
    · intro result got
      have trapped := (descriptorTrap_ok_iff hostObject state key ⟨result, true, true, true⟩).mpr
        ⟨got, rfl⟩
      exact ⟨(getOwnPropertyDescriptor_ok_iff hostObject state target key _ trapped).mp
          (agree.passes _ trapped),
        (getTrap_ok_iff hostObject state target key result got).mp (agree.reads _ trapped)⟩
    · cases outcome : (hostObject.set state key value).1 with
      | error exception => exact ⟨exception, rfl⟩
      | ok done =>
        obtain ⟨result, trapped, truthy⟩ := agree.assigns outcome
        rw [setTrap_falsy hostObject state key value result trapped] at truthy
        cases truthy
  · rintro ⟨leaves, exception, threw⟩
    refine ⟨fun _ _ => rfl, ?_, ?_, ?_⟩
    · intro descriptor trapped
      have got := ((descriptorTrap_ok_iff hostObject state key descriptor).mp trapped).1
      exact (getTrap_ok_iff hostObject state target key _ got).mpr (leaves _ got).2
    · intro descriptor trapped
      have got := ((descriptorTrap_ok_iff hostObject state key descriptor).mp trapped).1
      exact (getOwnPropertyDescriptor_ok_iff hostObject state target key _ trapped).mpr
        (leaves _ got).1
    · intro done
      rw [threw] at done
      cases done

/-- In strict mode every assignment that the host object takes throws. -/
theorem assign_throws (key : PropertyKey) (value : JsValue)
    (done : (hostObject.set state key value).1 = .ok ()) :
    assign hostObject state target key value = .error .typeError := by
  have trapped : (hostObjectSetTrap hostObject state key value).1 = .ok .undefined := by
    rw [hostObjectSetTrap, done]
    rfl
  rw [assign, trapped]
  rfl

end

/-- A host object that gives out and takes every value. -/
def obliging : HostObject Unit where
  get _ _ := (.ok (.boolean true), ())
  set _ _ _ := (.ok (), ())
  callGetter _ _ := (.ok .undefined, ())

/-- The target after `Object.defineProperty(ho, '0', {value: ''})`. -/
def withFixedZero : Target where
  ownProperty key :=
    if key = .string [0x30] then some ⟨.data (.string []) false, false, false⟩ else none

/-- The descriptor of that property is not the value that is read and is refused, and an
assignment that the host object takes is reported as failed. -/
theorem traps_disagree :
    (hostObjectGetOwnPropertyDescriptorTrap obliging () (.string [0x30])).1 =
        .ok ⟨.boolean true, true, true, true⟩ ∧
      (hostObjectGetTrap obliging () withFixedZero (.string [0x30])).1 = .ok (.string []) ∧
      getOwnPropertyDescriptor obliging () withFixedZero (.string [0x30]) = .error .typeError ∧
      assign obliging () withFixedZero (.string [0x31]) .null = .error .typeError ∧
      ¬ Agree obliging () withFixedZero (.string [0x31]) .null := by
  refine ⟨by decide, by decide, by decide, by decide, fun agree => ?_⟩
  obtain ⟨result, trapped, truthy⟩ := agree.assigns rfl
  cases trapped
  cases truthy

end V8Jsi.HostObjectTraps
