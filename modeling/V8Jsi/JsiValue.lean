import V8Jsi.Lib.Heap
import V8Jsi.Lib.Outcome

set_option autoImplicit false

/- Who owns the pointer values of a `V8Runtime`: `Pointer` and `Value` of jsi.h and jsi.cpp,
copied, moved, assigned and destroyed by C++ code, over the `clone` methods of V8JsiRuntime.cpp. -/
namespace V8Jsi.JsiValue

open Heaps Heap Outcome

/-- `Value::ValueKind`. Symbols, big integers, strings and objects are pointers, and a class
derived from `Pointer` is named by the kind of a value that holds it. -/
inductive ValueKind
  | undefined
  | null
  | boolean
  | number
  | symbol
  | bigInt
  | string
  | object
  deriving DecidableEq, Repr

/-- `kind >= PointerKind` -/
def ValueKind.isPointer : ValueKind → Bool
  | .undefined | .null | .boolean | .number => false
  | .symbol | .bigInt | .string | .object => true

/-- The union `Value::Data` with the member that was last constructed in it. -/
inductive Data (δ : Type)
  | uninitialized
  | boolean (boolean : Bool)
  | number (number : δ)
  | pointer (ptr : Option Nat)
  deriving DecidableEq, Repr

/-- A C++ object: a `Value`, or an object of a class derived from `Pointer`. -/
inductive CppObject (δ : Type)
  | value (kind : ValueKind) (data : Data δ)
  | pointer (kind : ValueKind) (ptr : Option Nat)
  deriving DecidableEq, Repr

/-- The pointer values of the runtime, each with the JavaScript value it denotes, and the C++
objects. -/
structure Memory (V δ : Type) where
  heap : Heap V := {}
  objects : Nat → Option (CppObject δ) := fun _ => none

inductive Failure
  | memory (fault : Fault)
  | inactiveMember
  deriving DecidableEq, Repr

/-- A value that is no pointer. -/
inductive Scalar (δ : Type)
  | undefined
  | null
  | boolean (boolean : Bool)
  | number (number : δ)
  deriving DecidableEq, Repr

inductive Command (V δ : Type)
  | construct (this : Nat) (scalar : Scalar δ)
  | create (this : Nat) (kind : ValueKind) (value : V)
  | moveValue (this other : Nat)
  | copyValue (this other : Nat)
  | assignValue (this other : Nat)
  | movePointer (this other : Nat)
  | assignPointer (this other : Nat)
  | valueOfPointer (this other : Nat)
  | copyOfPointer (this other : Nat)
  | getPointer (this other : Nat) (kind : ValueKind)
  | takePointer (this other : Nat) (kind : ValueKind)
  | destroy (this : Nat)
  deriving DecidableEq, Repr

section

variable {V δ : Type}

namespace Memory

def set (memory : Memory V δ) (this : Nat) (object : CppObject δ) : Memory V δ :=
  { memory with objects := Function.update memory.objects this (some object) }

/-- `~Pointer` -/
def destroyPointer (memory : Memory V δ) (ptr : Option Nat) : Except Failure (Memory V δ) :=
  match ptr with
  | none => .ok memory
  | some address => do
      let heap ← (memory.heap.delete address).mapError .memory
      return { memory with heap }

/-- `~Value` -/
def destroyValue (memory : Memory V δ) (kind : ValueKind) (data : Data δ) :
    Except Failure (Memory V δ) :=
  if kind.isPointer then
    match data with
    | .pointer ptr => memory.destroyPointer ptr
    | _ => .error .inactiveMember
  else .ok memory

/-- `V8Runtime::cloneSymbol` and its siblings, which make a pointer value of the same JavaScript
value. -/
def clone (memory : Memory V δ) (ptr : Option Nat) : Except Failure (Option Nat × Memory V δ) :=
  match ptr with
  | none => .ok (none, memory)
  | some address => do
      let value ← (memory.heap.read address).mapError .memory
      return (some memory.heap.next, { memory with heap := memory.heap.alloc value })

/-- `Value::Value(Value&&)`. The kind of the other value is cleared last, also when it is the same
object. -/
def moveValue (memory : Memory V δ) (this other : Nat) (kind : ValueKind) (data : Data δ) :
    Memory V δ :=
  let constructed := memory.set this (.value kind data)
  constructed.set other (.value .undefined (if kind.isPointer then .pointer none else data))

/-- `Value::Value(Runtime&, const Value&)` -/
def copyValue (memory : Memory V δ) (this : Nat) (kind : ValueKind) (data : Data δ) :
    Except Failure (Memory V δ) :=
  if kind.isPointer then
    match data with
    | .pointer ptr => do
        let (ptr, memory) ← memory.clone ptr
        return memory.set this (.value kind (.pointer ptr))
    | _ => .error .inactiveMember
  else .ok (memory.set this (.value kind data))

/-- `Pointer::operator=(Pointer&&)` -/
def assignPointer (memory : Memory V δ) (this other : Nat) (kind : ValueKind)
    (thisPtr otherPtr : Option Nat) : Except Failure (Memory V δ) := do
  let memory ← memory.destroyPointer thisPtr
  let memory := memory.set this (.pointer kind otherPtr)
  return memory.set other (.pointer kind none)

end Memory

/-- The constructors of `Value` that take no pointer. -/
def Scalar.cppObject : Scalar δ → CppObject δ
  | .undefined => .value .undefined .uninitialized
  | .null => .value .null .uninitialized
  | .boolean b => .value .boolean (.boolean b)
  | .number n => .value .number (.number n)

/-- `none` is no C++ program: an object that is constructed twice or not at all, or one of
another class. A `const` access asserts the kind of a value. -/
def step (memory : Memory V δ) : Command V δ → Option (Except Failure (Memory V δ))
  | .construct this scalar =>
      if memory.objects this = none then some (.ok (memory.set this scalar.cppObject)) else none
  | .create this kind value =>
      if memory.objects this = none ∧ kind.isPointer then
        some (.ok ({ memory with heap := memory.heap.alloc value }.set this
          (.pointer kind (some memory.heap.next))))
      else none
  | .moveValue this other =>
      match memory.objects this, memory.objects other with
      | none, some (.value kind data) => some (.ok (memory.moveValue this other kind data))
      | _, _ => none
  | .copyValue this other =>
      match memory.objects this, memory.objects other with
      | none, some (.value kind data) => some (memory.copyValue this kind data)
      | _, _ => none
  | .assignValue this other =>
      match memory.objects this, memory.objects other with
      | some (.value kind data), some (.value otherKind otherData) =>
          some do return (← memory.destroyValue kind data).moveValue this other otherKind otherData
      | _, _ => none
  | .movePointer this other =>
      match memory.objects this, memory.objects other with
      | none, some (.pointer kind ptr) =>
          some (.ok ((memory.set this (.pointer kind ptr)).set other (.pointer kind none)))
      | _, _ => none
  | .assignPointer this other =>
      match memory.objects this, memory.objects other with
      | some (.pointer kind ptr), some (.pointer otherKind otherPtr) =>
          if kind = otherKind then some (memory.assignPointer this other kind ptr otherPtr)
          else none
      | _, _ => none
  | .valueOfPointer this other =>
      match memory.objects this, memory.objects other with
      | none, some (.pointer kind ptr) =>
          some (.ok ((memory.set this (.value kind (.pointer ptr))).set other
            (.pointer kind none)))
      | _, _ => none
  | .copyOfPointer this other =>
      match memory.objects this, memory.objects other with
      | none, some (.pointer kind ptr) =>
          some (memory.copyValue this kind (.pointer ptr))
      | _, _ => none
  | .getPointer this other kind =>
      match memory.objects this, memory.objects other with
      | none, some (.value otherKind data) =>
          if otherKind = kind ∧ kind.isPointer then
            match data with
            | .pointer ptr => some do
                let (ptr, memory) ← memory.clone ptr
                return memory.set this (.pointer kind ptr)
            | _ => some (.error .inactiveMember)
          else none
      | _, _ => none
  | .takePointer this other kind =>
      match memory.objects this, memory.objects other with
      | none, some (.value otherKind data) =>
          if otherKind = kind ∧ kind.isPointer then
            match data with
            | .pointer ptr => some (.ok ((memory.set this (.pointer kind ptr)).set other
                (.value kind (.pointer none))))
            | _ => some (.error .inactiveMember)
          else none
      | _, _ => none
  | .destroy this =>
      match memory.objects this with
      | some (.value kind data) => some do
          let memory ← memory.destroyValue kind data
          return { memory with objects := Function.update memory.objects this none }
      | some (.pointer _ ptr) => some do
          let memory ← memory.destroyPointer ptr
          return { memory with objects := Function.update memory.objects this none }
      | none => none

def run (memory : Memory V δ) :
    List (Command V δ) → Option (Except Failure (Memory V δ))
  | [] => some (.ok memory)
  | command :: commands =>
      match step memory command with
      | some (.ok next) => run next commands
      | stopped => stopped

/-! ## Values without pointers -/

/-- What a C++ object stands for. An object that a pointer was moved out of keeps its kind and
refers to nothing. -/
inductive Content (V δ : Type)
  | scalar (scalar : Scalar δ)
  | reference (isValue : Bool) (kind : ValueKind) (value : Option V)
  deriving DecidableEq, Repr

def Content.isValue : Content V δ → Bool
  | .scalar _ => true
  | .reference isValue _ _ => isValue

abbrev Store (V δ : Type) := Nat → Option (Content V δ)

namespace Store

def give (store : Store V δ) (this : Nat) (content : Content V δ) : Store V δ :=
  Function.update store this (some content)

def step (store : Store V δ) : Command V δ → Option (Store V δ)
  | .construct this scalar =>
      if (store this).isNone then some (store.give this (.scalar scalar)) else none
  | .create this kind value =>
      if (store this).isNone ∧ kind.isPointer then
        some (store.give this (.reference false kind (some value)))
      else none
  | .moveValue this other =>
      match store this, store other with
      | none, some content =>
          if content.isValue then
            some ((store.give this content).give other (.scalar .undefined))
          else none
      | _, _ => none
  | .copyValue this other =>
      match store this, store other with
      | none, some content =>
          if content.isValue then some (store.give this content) else none
      | _, _ => none
  | .assignValue this other =>
      match store this, store other with
      | some old, some content =>
          if old.isValue ∧ content.isValue then
            some ((store.give this content).give other (.scalar .undefined))
          else none
      | _, _ => none
  | .movePointer this other =>
      match store this, store other with
      | none, some (.reference false kind value) =>
          some ((store.give this (.reference false kind value)).give other
            (.reference false kind none))
      | _, _ => none
  | .assignPointer this other =>
      match store this, store other with
      | some (.reference false kind _), some (.reference false otherKind value) =>
          if kind = otherKind then
            some ((store.give this (.reference false kind value)).give other
              (.reference false kind none))
          else none
      | _, _ => none
  | .valueOfPointer this other =>
      match store this, store other with
      | none, some (.reference false kind value) =>
          some ((store.give this (.reference true kind value)).give other
            (.reference false kind none))
      | _, _ => none
  | .copyOfPointer this other =>
      match store this, store other with
      | none, some (.reference false kind value) =>
          some (store.give this (.reference true kind value))
      | _, _ => none
  | .getPointer this other kind =>
      match store this, store other with
      | none, some (.reference true otherKind value) =>
          if otherKind = kind then some (store.give this (.reference false kind value)) else none
      | _, _ => none
  | .takePointer this other kind =>
      match store this, store other with
      | none, some (.reference true otherKind value) =>
          if otherKind = kind then
            some ((store.give this (.reference false kind value)).give other
              (.reference true kind none))
          else none
      | _, _ => none
  | .destroy this =>
      if (store this).isSome then some (Function.update store this none) else none

def run (store : Store V δ) : List (Command V δ) → Option (Store V δ)
  | [] => some store
  | command :: commands => do (← store.step command).run commands

end Store

/-! ## What the memory stands for -/

/-- The pointer that the destructor of the object looks at. -/
def CppObject.ptr : CppObject δ → Option Nat
  | .pointer _ ptr => ptr
  | .value kind (.pointer ptr) => if kind.isPointer then ptr else none
  | .value _ _ => none

/-- The kind names the member of the union. -/
def CppObject.Fits : CppObject δ → Prop
  | .pointer kind _ => kind.isPointer = true
  | .value kind data =>
      match kind with
      | .undefined | .null => True
      | .boolean => ∃ b, data = .boolean b
      | .number => ∃ n, data = .number n
      | .symbol | .bigInt | .string | .object => ∃ ptr, data = .pointer ptr

theorem CppObject.Fits.pointer {kind : ValueKind} {data : Data δ}
    (fits : (CppObject.value kind data).Fits) (isPointer : kind.isPointer = true) :
    ∃ ptr, data = .pointer ptr := by
  cases kind with
  | undefined | null | boolean | number => cases isPointer
  | symbol | bigInt | string | object => exact fits

theorem fits_pointer {kind : ValueKind} (isPointer : kind.isPointer = true) (ptr : Option Nat) :
    (CppObject.value kind (.pointer ptr) : CppObject δ).Fits := by
  cases kind with
  | undefined | null | boolean | number => cases isPointer
  | symbol | bigInt | string | object => exact ⟨ptr, rfl⟩

theorem value_ptr {kind : ValueKind} (isPointer : kind.isPointer = true) (ptr : Option Nat) :
    (CppObject.value kind (.pointer ptr) : CppObject δ).ptr = ptr := by
  simp [CppObject.ptr, isPointer]

theorem scalar_ptr {kind : ValueKind} (isScalar : kind.isPointer = false) (data : Data δ) :
    (CppObject.value kind data).ptr = none := by
  cases data <;> simp [CppObject.ptr, isScalar]

def Scalar.of : ValueKind → Data δ → Scalar δ
  | .null, _ => .null
  | .boolean, .boolean b => .boolean b
  | .number, .number n => .number n
  | _, _ => .undefined

def CppObject.content (value : Option V) : CppObject δ → Content V δ
  | .pointer kind _ => .reference false kind value
  | .value kind data =>
      if kind.isPointer then .reference true kind value else .scalar (Scalar.of kind data)

def Memory.slots (memory : Memory V δ) (x : Nat) : Option Nat :=
  (memory.objects x).bind CppObject.ptr

/-- Each living pointer value has one owner among the C++ objects. -/
structure Represents (memory : Memory V δ) (store : Store V δ) : Prop where
  held : Held memory.slots memory.heap
  fits : ∀ x object, memory.objects x = some object → object.Fits
  view : ∀ x, store x =
    (memory.objects x).map (CppObject.content (shown memory.slots memory.heap x))

@[simp] theorem Memory.heap_set (memory : Memory V δ) (this : Nat) (object : CppObject δ) :
    (memory.set this object).heap = memory.heap := rfl

@[simp] theorem Memory.objects_set (memory : Memory V δ) (this : Nat) (object : CppObject δ) :
    (memory.set this object).objects = Function.update memory.objects this (some object) := rfl

namespace Represents

variable {memory : Memory V δ} {store : Store V δ}

theorem slots_set (memory : Memory V δ) (this : Nat) (object : CppObject δ) :
    (memory.set this object).slots = Function.update memory.slots this object.ptr := by
  funext x
  obtain rfl | other := eq_or_ne x this
  · simp [Memory.slots, Memory.set]
  · simp [Memory.slots, Memory.set, Function.update_of_ne other]

/-- One object is constructed or overwritten. -/
theorem set (represents : Represents memory store) {heap : Heap V} {this : Nat}
    {object : CppObject δ} (fits : object.Fits) {value : Option V}
    (held : Held (Function.update memory.slots this object.ptr) heap)
    (seen : shown (Function.update memory.slots this object.ptr) heap =
      Function.update (shown memory.slots memory.heap) this value) :
    Represents ({ memory with heap }.set this object)
      (store.give this (object.content value)) := by
  have slots : ({ memory with heap }.set this object).slots =
      Function.update memory.slots this object.ptr := slots_set { memory with heap } this object
  refine ⟨slots ▸ held, fun x found same => ?_, fun x => ?_⟩
  · rw [Memory.objects_set] at same
    obtain rfl | other := eq_or_ne x this
    · rw [Function.update_self, Option.some.injEq] at same
      exact same ▸ fits
    · rw [Function.update_of_ne other] at same
      exact represents.fits x found same
  · rw [slots, Memory.heap_set, Memory.objects_set, seen]
    obtain rfl | other := eq_or_ne x this
    · simp [Store.give]
    · simp [Store.give, Function.update_of_ne other, represents.view x]

/-- An object gives what it has to one that is constructed. -/
theorem move (represents : Represents memory store) {this other : Nat} (different : this ≠ other)
    (free : memory.slots this = none) {moved emptied : CppObject δ} (fits : moved.Fits)
    (fits' : emptied.Fits) (same : moved.ptr = memory.slots other) (gone : emptied.ptr = none) :
    Represents ((memory.set this moved).set other emptied)
      ((store.give this (moved.content (shown memory.slots memory.heap other))).give other
        (emptied.content none)) := by
  have slots : ((memory.set this moved).set other emptied).slots =
      Function.update (Function.update memory.slots this (memory.slots other)) other none := by
    rw [slots_set, slots_set, same, gone]
  have seen := (represents.held.toOwned.move this other).2
  refine ⟨?_, fun x found given => ?_, fun x => ?_⟩
  · rw [slots]
    exact represents.held.move other free
  · rw [Memory.objects_set, Memory.objects_set] at given
    obtain rfl | notOther := eq_or_ne x other
    · rw [Function.update_self, Option.some.injEq] at given
      exact given ▸ fits'
    · rw [Function.update_of_ne notOther] at given
      obtain rfl | notThis := eq_or_ne x this
      · rw [Function.update_self, Option.some.injEq] at given
        exact given ▸ fits
      · rw [Function.update_of_ne notThis] at given
        exact represents.fits x found given
  · simp only [slots, Memory.heap_set, Memory.objects_set, seen]
    obtain rfl | notOther := eq_or_ne x other
    · simp [Store.give]
    · obtain rfl | notThis := eq_or_ne x this
      · simp [Store.give, Function.update_of_ne notOther]
      · simp [Store.give, Function.update_of_ne notOther, Function.update_of_ne notThis,
          represents.view x]

/-- The destructor of `Pointer`, or of a `Value` that holds one. -/
theorem destroyPointer (represents : Represents memory store) (this : Nat) :
    ∃ heap, memory.destroyPointer (memory.slots this) = .ok { memory with heap } ∧
      Held (Function.update memory.slots this none) heap ∧
      shown (Function.update memory.slots this none) heap =
        Function.update (shown memory.slots memory.heap) this none := by
  cases slot : memory.slots this with
  | none =>
      have same : Function.update memory.slots this none = memory.slots := by
        rw [← slot, Function.update_eq_self]
      have unseen : shown memory.slots memory.heap this = none := by simp [shown, slot]
      refine ⟨memory.heap, rfl, by rw [same]; exact represents.held, ?_⟩
      rw [same, ← unseen, Function.update_eq_self]
  | some address =>
      obtain ⟨old, alive⟩ := represents.held.alive this address slot
      refine ⟨_, ?_, represents.held.delete slot, (represents.held.toOwned.delete slot).2⟩
      simp [Memory.destroyPointer, delete_of_get? alive]

theorem destroyValue (represents : Represents memory store) {this : Nat} {kind : ValueKind}
    {data : Data δ} (found : memory.objects this = some (.value kind data)) :
    memory.destroyValue kind data = memory.destroyPointer (memory.slots this) := by
  have fits := represents.fits this _ found
  unfold Memory.destroyValue
  rw [Memory.slots, found, Option.bind_some]
  cases kind with
  | undefined | null | boolean | number => cases data <;> rfl
  | symbol | bigInt | string | object =>
      obtain ⟨ptr, rfl⟩ := fits
      rfl

/-- The object is destroyed. -/
theorem remove (represents : Represents memory store) {this : Nat} {heap : Heap V}
    (held : Held (Function.update memory.slots this none) heap)
    (seen : shown (Function.update memory.slots this none) heap =
        Function.update (shown memory.slots memory.heap) this none) :
    Represents { heap, objects := Function.update memory.objects this none }
      (Function.update store this none) := by
  have slots : Memory.slots { heap, objects := Function.update memory.objects this none } =
      Function.update memory.slots this none := by
    funext x
    obtain rfl | other := eq_or_ne x this
    · simp [Memory.slots]
    · simp [Memory.slots, Function.update_of_ne other]
  refine ⟨slots ▸ held, fun x found same => ?_, fun x => ?_⟩
  · change Function.update memory.objects this none x = some found at same
    obtain rfl | other := eq_or_ne x this
    · rw [Function.update_self] at same
      cases same
    · rw [Function.update_of_ne other] at same
      exact represents.fits x found same
  · rw [slots, seen]
    obtain rfl | other := eq_or_ne x this
    · simp
    · simp [Function.update_of_ne other, represents.view x]

/-- An object without a pointer is constructed. -/
theorem construct (represents : Represents memory store) {this : Nat}
    (free : memory.slots this = none) {object : CppObject δ} (fits : object.Fits)
    (ptr : object.ptr = none) :
    Represents (memory.set this object) (store.give this (object.content none)) := by
  have same : Function.update memory.slots this object.ptr = memory.slots := by
    rw [ptr, ← free, Function.update_eq_self]
  have unseen : shown memory.slots memory.heap this = none := by simp [shown, free]
  refine represents.set fits ?_ ?_
  · rw [same]
    exact represents.held
  · rw [same, ← unseen, Function.update_eq_self]

/-- A pointer value is made for an object that is constructed. -/
theorem alloc (represents : Represents memory store) {this : Nat}
    (free : memory.objects this = none) {object : CppObject δ} (fits : object.Fits)
    (ptr : object.ptr = some memory.heap.next) (value : V) :
    Represents ({ memory with heap := memory.heap.alloc value }.set this object)
      (store.give this (object.content (some value))) := by
  have unowned : memory.slots this = none := by rw [Memory.slots, free, Option.bind_none]
  have allocated := represents.held.toOwned.update_alloc this value
  refine represents.set fits ?_ ?_
  · rw [ptr]
    exact represents.held.alloc unowned value
  · rw [ptr]
    exact allocated.2

/-- The object is constructed with a clone of the pointer of another. -/
theorem clone (represents : Represents memory store) {this : Nat}
    (free : memory.objects this = none) (other : Nat) :
    ∃ ptr cloned, memory.clone (memory.slots other) = .ok (ptr, cloned) ∧
      ∀ object : CppObject δ, object.Fits → object.ptr = ptr →
        Represents (cloned.set this object)
          (store.give this (object.content (shown memory.slots memory.heap other))) := by
  have unowned : memory.slots this = none := by rw [Memory.slots, free, Option.bind_none]
  cases slot : memory.slots other with
  | none =>
      have unseen : shown memory.slots memory.heap other = none := by simp [shown, slot]
      refine ⟨none, memory, rfl, fun object fits ptr => ?_⟩
      rw [unseen]
      exact represents.construct unowned fits ptr
  | some address =>
      obtain ⟨value, alive⟩ := represents.held.alive other address slot
      have seen : shown memory.slots memory.heap other = some value := by simp [shown, slot, alive]
      refine ⟨some memory.heap.next, { memory with heap := memory.heap.alloc value },
        by simp [Memory.clone, read_of_get? alive], fun object fits ptr => ?_⟩
      rw [seen]
      exact represents.alloc free fits ptr value

/-- The object that is assigned to gives up what it had; assigned to itself it is left empty. -/
theorem assign (represents : Represents memory store) {this other : Nat} {heap : Heap V}
    (held : Held (Function.update memory.slots this none) heap)
    (seen : shown (Function.update memory.slots this none) heap =
      Function.update (shown memory.slots memory.heap) this none)
    {moved emptied : CppObject δ} (fits : moved.Fits) (fits' : emptied.Fits)
    (same : moved.ptr = memory.slots other) (gone : emptied.ptr = none) :
    Represents (({ memory with heap }.set this moved).set other emptied)
      ((store.give this (moved.content (shown memory.slots memory.heap other))).give other
        (emptied.content none)) := by
  have removed := represents.remove held seen
  have slots : Memory.slots { heap, objects := Function.update memory.objects this none } =
      Function.update memory.slots this none := by
    funext x
    obtain rfl | other := eq_or_ne x this
    · simp [Memory.slots]
    · simp [Memory.slots, Function.update_of_ne other]
  obtain rfl | different := eq_or_ne this other
  · have result := removed.construct (by rw [slots, Function.update_self]) fits' gone
    simpa [Memory.set, Store.give, Function.update_idem] using result
  · have result := removed.move different (by rw [slots, Function.update_self]) fits fits'
      (by rw [slots, Function.update_of_ne different.symm, same]) gone
    rw [slots, seen, Function.update_of_ne different.symm] at result
    simpa [Memory.set, Store.give, Function.update_idem] using result

/-! ## Objects from their contents -/

theorem ne_of_constructed {this other : Nat} {object : CppObject δ}
    (absent : memory.objects this = none) (found : memory.objects other = some object) :
    this ≠ other := by
  rintro rfl
  rw [absent] at found
  cases found

theorem free_iff (represents : Represents memory store) (x : Nat) :
    store x = none ↔ memory.objects x = none := by
  rw [represents.view, Option.map_eq_none_iff]

theorem slot_free (represents : Represents memory store) {x : Nat} (free : store x = none) :
    memory.slots x = none := by
  rw [Memory.slots, (represents.free_iff x).mp free, Option.bind_none]

theorem value_of (represents : Represents memory store) {x : Nat} {content : Content V δ}
    (found : store x = some content) (isValue : content.isValue) :
    ∃ kind data, memory.objects x = some (.value kind data) ∧
      memory.slots x = (CppObject.value kind data).ptr ∧
      (CppObject.value kind data).content (shown memory.slots memory.heap x) = content := by
  rw [represents.view, Option.map_eq_some_iff] at found
  obtain ⟨object, found, same⟩ := found
  cases object with
  | value kind data => exact ⟨kind, data, found, by rw [Memory.slots, found]; rfl, same⟩
  | pointer kind ptr =>
      rw [← same] at isValue
      cases isValue

theorem pointer_of (represents : Represents memory store) {x : Nat} {kind : ValueKind}
    {value : Option V} (found : store x = some (.reference false kind value)) :
    ∃ ptr, memory.objects x = some (.pointer kind ptr) ∧ memory.slots x = ptr ∧
      shown memory.slots memory.heap x = value ∧ kind.isPointer = true := by
  rw [represents.view, Option.map_eq_some_iff] at found
  obtain ⟨object, found, same⟩ := found
  cases object with
  | value kind' data =>
      rw [CppObject.content] at same
      split at same <;> cases same
  | pointer kind' ptr =>
      obtain ⟨-, rfl, seen⟩ : false = false ∧ kind' = kind ∧ _ = value := by
        simpa [CppObject.content] using same
      exact ⟨ptr, found, by rw [Memory.slots, found]; rfl, seen, represents.fits x _ found⟩

/-- A value that holds a pointer. -/
theorem holder_of (represents : Represents memory store) {x : Nat} {kind : ValueKind}
    {value : Option V} (found : store x = some (.reference true kind value)) :
    ∃ ptr, memory.objects x = some (.value kind (.pointer ptr)) ∧ memory.slots x = ptr ∧
      shown memory.slots memory.heap x = value ∧ kind.isPointer = true := by
  rw [represents.view, Option.map_eq_some_iff] at found
  obtain ⟨object, found, same⟩ := found
  cases object with
  | value kind' data =>
      rw [CppObject.content] at same
      split at same
      · rename_i isPointer
        obtain ⟨-, rfl, seen⟩ : true = true ∧ kind' = kind ∧ _ = value := by
          simpa using same
        obtain ⟨ptr, rfl⟩ := (represents.fits x _ found).pointer isPointer
        exact ⟨ptr, found, by rw [Memory.slots, found, Option.bind_some, value_ptr isPointer],
          seen, isPointer⟩
      · cases same
  | pointer kind' ptr => cases same

/-! ## The commands -/

/-- The command does in the memory what it does in the store. -/
def Simulates (memory : Memory V δ) (command : Command V δ) (store' : Store V δ) : Prop :=
  ∃ memory', JsiValue.step memory command = some (.ok memory') ∧ Represents memory' store'

section

variable {this other : Nat} {kind : ValueKind} {store' : Store V δ}

theorem step_construct (represents : Represents memory store) {scalar : Scalar δ}
    (stepped : store.step (.construct this scalar) = some store') :
    Simulates memory (.construct this scalar) store' := by
  rw [Store.step] at stepped
  split at stepped
  · rename_i free
    obtain rfl := Option.some.inj stepped
    rw [Option.isNone_iff_eq_none] at free
    refine ⟨_, by rw [JsiValue.step, if_pos ((represents.free_iff this).mp free)], ?_⟩
    have fits : scalar.cppObject.Fits := by
      cases scalar <;> simp [Scalar.cppObject, CppObject.Fits]
    have result := represents.construct (represents.slot_free free) fits (by cases scalar <;> rfl)
    cases scalar <;> exact result
  · cases stepped

theorem step_create (represents : Represents memory store) {value : V}
    (stepped : store.step (.create this kind value) = some store') :
    Simulates memory (.create this kind value) store' := by
  rw [Store.step] at stepped
  split at stepped
  · rename_i allowed
    obtain ⟨free, isPointer⟩ := allowed
    obtain rfl := Option.some.inj stepped
    rw [Option.isNone_iff_eq_none] at free
    have absent := (represents.free_iff this).mp free
    exact ⟨_, by rw [JsiValue.step, if_pos ⟨absent, isPointer⟩],
      represents.alloc absent (show (CppObject.pointer kind _).Fits from isPointer) rfl value⟩
  · cases stepped

theorem step_moveValue (represents : Represents memory store)
    (stepped : store.step (.moveValue this other) = some store') :
    Simulates memory (.moveValue this other) store' := by
  rw [Store.step] at stepped
  split at stepped
  · rename_i content free found
    split at stepped
    · rename_i isValue
      obtain rfl := Option.some.inj stepped
      obtain ⟨kind, data, value, slot, rfl⟩ := represents.value_of found isValue
      have absent := (represents.free_iff this).mp free
      refine ⟨_, by rw [JsiValue.step, absent, value], ?_⟩
      exact represents.move (ne_of_constructed absent value) (represents.slot_free free)
        (represents.fits other _ value) trivial slot.symm (scalar_ptr rfl _)
    · cases stepped
  · cases stepped

/-- A value is made with a clone of the pointer of another object. -/
theorem copyPointer (represents : Represents memory store) {kind : ValueKind}
    (absent : memory.objects this = none) (isPointer : kind.isPointer = true) (other : Nat) :
    ∃ memory', memory.copyValue this kind (.pointer (memory.slots other)) = .ok memory' ∧
      Represents memory' (store.give this
        (.reference true kind (shown memory.slots memory.heap other))) := by
  obtain ⟨p, cloned, called, result⟩ := represents.clone absent other
  refine ⟨cloned.set this (.value kind (.pointer p)),
    by simp [Memory.copyValue, isPointer, called], ?_⟩
  have result := result (.value kind (.pointer p)) (fits_pointer isPointer p)
    (value_ptr isPointer p)
  simpa [CppObject.content, isPointer] using result

theorem copyValue (represents : Represents memory store) {kind : ValueKind} {data : Data δ}
    (absent : memory.objects this = none) (value : memory.objects other = some (.value kind data)) :
    ∃ memory', memory.copyValue this kind data = .ok memory' ∧
      Represents memory' (store.give this
        ((CppObject.value kind data).content (shown memory.slots memory.heap other))) := by
  have slot : memory.slots other = (CppObject.value kind data).ptr := by
    rw [Memory.slots, value, Option.bind_some]
  cases isPointer : kind.isPointer with
  | false =>
      have free : memory.slots this = none := by rw [Memory.slots, absent, Option.bind_none]
      refine ⟨_, by simp [Memory.copyValue, isPointer]; rfl, ?_⟩
      have result := represents.construct free (represents.fits other _ value)
        (scalar_ptr isPointer data)
      simpa [CppObject.content, isPointer] using result
  | true =>
      obtain ⟨ptr, rfl⟩ := (represents.fits other _ value).pointer isPointer
      rw [value_ptr isPointer] at slot
      obtain ⟨memory', copied, result⟩ := represents.copyPointer absent isPointer other
      rw [slot] at copied
      exact ⟨memory', copied, by simpa [CppObject.content, isPointer] using result⟩

theorem step_copyValue (represents : Represents memory store)
    (stepped : store.step (.copyValue this other) = some store') :
    Simulates memory (.copyValue this other) store' := by
  rw [Store.step] at stepped
  split at stepped
  · rename_i content free found
    split at stepped
    · rename_i isValue
      obtain rfl := Option.some.inj stepped
      obtain ⟨kind, data, value, -, rfl⟩ := represents.value_of found isValue
      have absent := (represents.free_iff this).mp free
      obtain ⟨memory', copied, result⟩ := represents.copyValue absent value
      exact ⟨memory', by rw [JsiValue.step, absent, value]; exact congrArg some copied, result⟩
    · cases stepped
  · cases stepped

theorem step_assignValue (represents : Represents memory store)
    (stepped : store.step (.assignValue this other) = some store') :
    Simulates memory (.assignValue this other) store' := by
  rw [Store.step] at stepped
  split at stepped
  · rename_i old content found found'
    split at stepped
    · rename_i allowed
      obtain rfl := Option.some.inj stepped
      obtain ⟨kind, data, value, slot, rfl⟩ := represents.value_of found allowed.1
      obtain ⟨kind', data', value', slot', rfl⟩ := represents.value_of found' allowed.2
      obtain ⟨heap, destroyed, held, seen⟩ := represents.destroyPointer this
      rw [← represents.destroyValue value] at destroyed
      refine ⟨_, by rw [JsiValue.step, value, value']; simp [destroyed]; rfl, ?_⟩
      exact represents.assign held seen (represents.fits other _ value') trivial
        slot'.symm (scalar_ptr rfl _)
    · cases stepped
  · cases stepped

theorem step_movePointer (represents : Represents memory store)
    (stepped : store.step (.movePointer this other) = some store') :
    Simulates memory (.movePointer this other) store' := by
  rw [Store.step] at stepped
  split at stepped
  · rename_i kind value free found
    obtain rfl := Option.some.inj stepped
    obtain ⟨ptr, pointer, slot, rfl, isPointer⟩ := represents.pointer_of found
    have absent := (represents.free_iff this).mp free
    refine ⟨_, by rw [JsiValue.step, absent, pointer], ?_⟩
    exact represents.move (ne_of_constructed absent pointer) (represents.slot_free free)
      (show (CppObject.pointer kind ptr).Fits from isPointer)
      (show (CppObject.pointer kind none).Fits from isPointer) slot.symm rfl
  · cases stepped

theorem step_assignPointer (represents : Represents memory store)
    (stepped : store.step (.assignPointer this other) = some store') :
    Simulates memory (.assignPointer this other) store' := by
  rw [Store.step] at stepped
  split at stepped
  · rename_i kind old kind' value found found'
    split at stepped
    · rename_i same
      obtain rfl := Option.some.inj stepped
      obtain ⟨ptr, pointer, slot, -, isPointer⟩ := represents.pointer_of found
      obtain ⟨ptr', pointer', slot', rfl, -⟩ := represents.pointer_of found'
      subst same
      obtain ⟨heap, destroyed, held, seen⟩ := represents.destroyPointer this
      rw [slot] at destroyed
      refine ⟨({ memory with heap }.set this (.pointer kind ptr')).set other (.pointer kind none),
        by simp [JsiValue.step, pointer, pointer', Memory.assignPointer, destroyed], ?_⟩
      exact represents.assign held seen (show (CppObject.pointer kind ptr').Fits from isPointer)
        (show (CppObject.pointer kind none).Fits from isPointer) slot'.symm rfl
    · cases stepped
  · cases stepped

theorem step_valueOfPointer (represents : Represents memory store)
    (stepped : store.step (.valueOfPointer this other) = some store') :
    Simulates memory (.valueOfPointer this other) store' := by
  rw [Store.step] at stepped
  split at stepped
  · rename_i kind value free found
    obtain rfl := Option.some.inj stepped
    obtain ⟨ptr, pointer, slot, rfl, isPointer⟩ := represents.pointer_of found
    have absent := (represents.free_iff this).mp free
    refine ⟨_, by rw [JsiValue.step, absent, pointer], ?_⟩
    have result := represents.move (ne_of_constructed absent pointer)
      (represents.slot_free free) (fits_pointer isPointer ptr)
      (show (CppObject.pointer kind none).Fits from isPointer)
      ((value_ptr isPointer ptr).trans slot.symm) rfl
    simpa [CppObject.content, isPointer] using result
  · cases stepped

theorem step_copyOfPointer (represents : Represents memory store)
    (stepped : store.step (.copyOfPointer this other) = some store') :
    Simulates memory (.copyOfPointer this other) store' := by
  rw [Store.step] at stepped
  split at stepped
  · rename_i kind value free found
    obtain rfl := Option.some.inj stepped
    obtain ⟨ptr, pointer, slot, rfl, isPointer⟩ := represents.pointer_of found
    have absent := (represents.free_iff this).mp free
    obtain ⟨memory', copied, result⟩ := represents.copyPointer absent isPointer other
    rw [slot] at copied
    exact ⟨memory', by rw [JsiValue.step, absent, pointer]; exact congrArg some copied, result⟩
  · cases stepped

theorem step_getPointer (represents : Represents memory store)
    (stepped : store.step (.getPointer this other kind) = some store') :
    Simulates memory (.getPointer this other kind) store' := by
  rw [Store.step] at stepped
  split at stepped
  · rename_i kind' value free found
    split at stepped
    · rename_i same
      obtain rfl := same
      obtain rfl := Option.some.inj stepped
      obtain ⟨ptr, holder, slot, rfl, isPointer⟩ := represents.holder_of found
      have absent := (represents.free_iff this).mp free
      obtain ⟨p, cloned, called, result⟩ := represents.clone absent other
      rw [slot] at called
      exact ⟨cloned.set this (.pointer kind' p),
        by simp [JsiValue.step, absent, holder, isPointer, called],
        result (.pointer kind' p) isPointer rfl⟩
    · cases stepped
  · cases stepped

theorem step_takePointer (represents : Represents memory store)
    (stepped : store.step (.takePointer this other kind) = some store') :
    Simulates memory (.takePointer this other kind) store' := by
  rw [Store.step] at stepped
  split at stepped
  · rename_i kind' value free found
    split at stepped
    · rename_i same
      obtain rfl := same
      obtain rfl := Option.some.inj stepped
      obtain ⟨ptr, holder, slot, rfl, isPointer⟩ := represents.holder_of found
      have absent := (represents.free_iff this).mp free
      refine ⟨(memory.set this (.pointer kind' ptr)).set other (.value kind' (.pointer none)),
        by simp [JsiValue.step, absent, holder, isPointer], ?_⟩
      have result := represents.move (ne_of_constructed absent holder)
        (represents.slot_free free) (show (CppObject.pointer kind' ptr).Fits from isPointer)
        (fits_pointer isPointer none) slot.symm (value_ptr isPointer none)
      simpa [CppObject.content, isPointer] using result
    · cases stepped
  · cases stepped

theorem step_destroy (represents : Represents memory store)
    (stepped : store.step (.destroy this) = some store') :
    Simulates memory (.destroy this) store' := by
  rw [Store.step] at stepped
  split at stepped
  · rename_i constructed
    obtain rfl := Option.some.inj stepped
    obtain ⟨heap, destroyed, held, seen⟩ := represents.destroyPointer this
    rw [represents.view, Option.isSome_map, Option.isSome_iff_exists] at constructed
    obtain ⟨object, found⟩ := constructed
    refine ⟨_, ?_, represents.remove held seen⟩
    cases object with
    | value kind data =>
        rw [← represents.destroyValue found] at destroyed
        simp [JsiValue.step, found, destroyed]
    | pointer kind ptr =>
        have slot : memory.slots this = ptr := by rw [Memory.slots, found]; rfl
        rw [slot] at destroyed
        simp [JsiValue.step, found, destroyed]
  · cases stepped

end

theorem step (represents : Represents memory store) {command : Command V δ} {store' : Store V δ}
    (stepped : store.step command = some store') : Simulates memory command store' := by
  cases command with
  | construct this scalar => exact represents.step_construct stepped
  | create this kind value => exact represents.step_create stepped
  | moveValue this other => exact represents.step_moveValue stepped
  | copyValue this other => exact represents.step_copyValue stepped
  | assignValue this other => exact represents.step_assignValue stepped
  | movePointer this other => exact represents.step_movePointer stepped
  | assignPointer this other => exact represents.step_assignPointer stepped
  | valueOfPointer this other => exact represents.step_valueOfPointer stepped
  | copyOfPointer this other => exact represents.step_copyOfPointer stepped
  | getPointer this other kind => exact represents.step_getPointer stepped
  | takePointer this other kind => exact represents.step_takePointer stepped
  | destroy this => exact represents.step_destroy stepped

theorem run (commands : List (Command V δ)) :
    ∀ {memory : Memory V δ} {store store' : Store V δ}, Represents memory store →
      store.run commands = some store' →
      ∃ memory', JsiValue.run memory commands = some (.ok memory') ∧
        Represents memory' store' := by
  induction commands with
  | nil =>
      intro memory store store' represents ran
      obtain rfl := Option.some.inj ran
      exact ⟨memory, rfl, represents⟩
  | cons command commands ih =>
      intro memory store store' represents ran
      obtain ⟨middle, stepped, ran⟩ := Option.bind_eq_some_iff.mp ran
      obtain ⟨next, called, represents⟩ := represents.step stepped
      obtain ⟨memory', continued, represents⟩ := ih represents ran
      exact ⟨memory', by simp only [JsiValue.run, called, continued], represents⟩

theorem empty : Represents ({} : Memory V δ) fun _ => none where
  held :=
    { alive := fun _ _ slot => (Option.some_ne_none _ slot.symm).elim
      apart := fun _ _ _ slot => (Option.some_ne_none _ slot.symm).elim
      held := fun address lives => absurd (by simp [get?]) lives }
  fits _ _ found := (Option.some_ne_none _ found.symm).elim
  view _ := rfl

end Represents

/-- C++ code that copies, moves, assigns and destroys JSI values in any order never touches a
pointer value that was released and releases none twice, also where it assigns an object to itself;
each object refers to what a store without pointers says; and every pointer value that lives is
held by one object, so that none is left when all the objects are destroyed. -/
theorem ownership_exact (commands : List (Command V δ)) {store : Store V δ}
    (ran : Store.run (fun _ => none) commands = some store) :
    ∃ memory : Memory V δ, run {} commands = some (.ok memory) ∧
      (∀ x, store x =
        (memory.objects x).map (CppObject.content (shown memory.slots memory.heap x))) ∧
      (∀ address, memory.heap.get? address ≠ none →
        ∃ x, memory.slots x = some address ∧ store x ≠ none ∧
          ∀ y, memory.slots y = some address → y = x) := by
  obtain ⟨memory, called, represents⟩ := Represents.empty.run commands ran
  refine ⟨memory, called, represents.view, fun address lives => ?_⟩
  obtain ⟨x, slot⟩ := represents.held.held address lives
  refine ⟨x, slot, fun free => ?_, fun y other => represents.held.apart y x address other slot⟩
  rw [represents.slot_free free] at slot
  cases slot

end

/-- A value is copied, the copy taken out and assigned back, and all but one object destroyed. -/
theorem ownership_exact_exchange :
    let commands : List (Command String ℕ) :=
      [.create 0 .object "o", .valueOfPointer 1 0, .copyValue 2 1, .takePointer 3 2 .object,
        .assignValue 1 1, .valueOfPointer 4 3, .assignValue 1 4, .destroy 0, .destroy 2,
        .destroy 3, .destroy 4]
    ∃ memory : Memory String ℕ, run {} commands = some (.ok memory) ∧
      (∀ x, (Store.run (fun _ => none) commands).bind (fun store => store x) =
        (memory.objects x).map (CppObject.content (shown memory.slots memory.heap x))) := by
  intro commands
  obtain ⟨memory, called, view, -⟩ := ownership_exact commands rfl
  exact ⟨memory, called, view⟩

end V8Jsi.JsiValue
