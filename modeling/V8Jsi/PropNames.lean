import V8Jsi.Lib.Runs
import V8Jsi.Lib.Unicode
import V8Jsi.PrimitiveProperty

set_option autoImplicit false

/- Property names of `NodeApiJsiRuntime`: the two tables of NodeApiJsiRuntime.cpp that
hold one `PropNameID` for each name. JavaScript strings are sequences of 16-bit
units. -/
namespace V8Jsi.PropNames

open PrimitiveProperty Runs Unicode

abbrev JsString : Type := List UInt16

/-- Values as `strictEquals` tells them apart: each NaN is another one. -/
inductive JsValue
  | undefined
  | string (units : JsString)
  | symbol (identity : Nat)
  | other (identity : Nat)
  deriving DecidableEq, Repr

/-- What `Object.prototype` has under a name, as far as an assignment to a fresh
object is concerned. A setter or a read-only property intercepts it; the own names
of the object afterwards are given, or nothing when the setter throws. -/
inductive Inherited
  | plain
  | intercepted (ownNames : Option (List JsString))
  deriving DecidableEq, Repr

/-- The own property names of a fresh object after the assignment of `undefined`. -/
def Inherited.ownNames (inherited : Inherited) (name : JsString) : Option (List JsString) :=
  match inherited with
  | .plain => some [name]
  | .intercepted names => names

/-- "__proto__" -/
def protoName : JsString := [0x5F, 0x5F, 0x70, 0x72, 0x6F, 0x74, 0x6F, 0x5F, 0x5F]

/-- The setter of `__proto__` ignores `undefined`. -/
def standardPrototype (name : JsString) : Inherited :=
  if name = protoName then .intercepted (some []) else .plain

/-- Pointer values by number, each with the wrapper that its `napi_ref` holds once the
scope of its creation is closed. The last two fields record the names asked for: through
the table of byte strings, and in all with the pointer that was returned. -/
structure NodeApiJsiRuntime where
  objectPrototype : JsString → Inherited := standardPrototype
  scripts : Scripts JsValue := {}
  wrappers : List (Wrapper JsValue) := []
  propNameIDs : List (List UInt8 × Nat) := []
  utf16PropNameIDs : List (JsString × Nat) := []
  byteNamed : List JsString := []
  returned : List (JsString × Nat) := []

/-- A creation throws an error, or the process ends where the scope is closed. -/
inductive Failure
  | javaScript
  | setNamedProperty
  deriving DecidableEq, Repr

/-- `getElement` of the property names, `undefined` for one that is not there. -/
def element (props : List JsString) (index : Nat) : JsValue :=
  match props[index]? with
  | none => .undefined
  | some name => .string name

/-- `napi_get_value_string_utf8`. -/
def utf8 (string : JsString) : List UInt8 := utf8Encode (decodeLossy string)

namespace NodeApiJsiRuntime

/-- The name is made a property of a new object and read back from its property
names. What is read is wrapped. -/
def makePropName (runtime : NodeApiJsiRuntime) (name : JsString) :
    Except Failure (NodeApiJsiRuntime × Nat) :=
  match (runtime.objectPrototype name).ownNames name with
  | none => .error .javaScript
  | some props =>
      match runtime.scripts.setNamedProperty runtime.wrappers.length (element props 0) with
      | none => .error .setNamedProperty
      | some wrapper =>
          .ok ({ runtime with wrappers := runtime.wrappers ++ [wrapper] }, runtime.wrappers.length)

/-- The common course of the entry points with byte keys. -/
def internBytes (runtime : NodeApiJsiRuntime) (keyName : List UInt8) (name : JsString) :
    Except Failure (NodeApiJsiRuntime × Nat) :=
  match runtime.propNameIDs.lookup keyName with
  | some propNameRef => .ok (runtime, propNameRef)
  | none =>
      (runtime.makePropName name).map fun (runtime, propNameRef) =>
        ({ runtime with propNameIDs := runtime.propNameIDs ++ [(keyName, propNameRef)] },
          propNameRef)

def createPropNameIDFromAscii (runtime : NodeApiJsiRuntime) (str : List UInt8) :
    Except Failure (NodeApiJsiRuntime × Nat) :=
  runtime.internBytes str (str.map UInt8.toUInt16)

def createPropNameIDFromUtf8 (runtime : NodeApiJsiRuntime) (text : List Char) :
    Except Failure (NodeApiJsiRuntime × Nat) :=
  runtime.internBytes (utf8Encode text) (utf16Encode text)

def createPropNameIDFromUtf16 (runtime : NodeApiJsiRuntime) (name : JsString) :
    Except Failure (NodeApiJsiRuntime × Nat) :=
  match runtime.utf16PropNameIDs.lookup name with
  | some propNameRef => .ok (runtime, propNameRef)
  | none =>
      (runtime.makePropName name).map fun (runtime, propNameRef) =>
        ({ runtime with utf16PropNameIDs := runtime.utf16PropNameIDs ++ [(name, propNameRef)] },
          propNameRef)

/-- For a string that is not itself a property name. -/
def createPropNameIDFromString (runtime : NodeApiJsiRuntime) (str : JsString) :
    Except Failure (NodeApiJsiRuntime × Nat) :=
  runtime.internBytes (utf8 str) str

/-- `getNodeApiValue` of a property name, which reads the wrapper. The process ends where
that fails. -/
def getNodeApiValue (runtime : NodeApiJsiRuntime) (propNameID : Nat) : Option JsValue :=
  runtime.wrappers[propNameID]?.bind (runtime.scripts.getNamedProperty propNameID)

/-- `utf16` of a property name that is a string. It throws for all other values but
symbols, and for these gives a description. -/
def utf16 (runtime : NodeApiJsiRuntime) (propNameID : Nat) : Option JsString :=
  match runtime.getNodeApiValue propNameID with
  | some (.string units) => some units
  | _ => none

def compare (runtime : NodeApiJsiRuntime) (lhs rhs : Nat) : Option Bool :=
  if lhs = rhs then some true
  else
    match runtime.getNodeApiValue lhs, runtime.getNodeApiValue rhs with
    | some left, some right => some (left == right)
    | _, _ => none

end NodeApiJsiRuntime

/-- Valid UTF-8 is given by its text. A `String` of the kind of property names is
the one returned at an index. Scripts may change `Object.prototype`, its property "X"
and what the wrappers without such a property of their own answer. -/
inductive Action
  | fromAscii (str : List UInt8)
  | fromUtf8 (text : List Char)
  | fromUtf16 (name : JsString)
  | fromString (str : JsString)
  | fromPropNameString (index : Nat)
  | defineOnObjectPrototype (name : JsString) (inherited : Inherited)
  | definePrimitiveProperty (scripts : Scripts JsValue)

/-- A creation that throws returns nothing and changes nothing. -/
def finish (runtime : NodeApiJsiRuntime) (name : JsString)
    (created : Except Failure (NodeApiJsiRuntime × Nat)) : Except Failure NodeApiJsiRuntime :=
  match created with
  | .error .javaScript => .ok runtime
  | .error .setNamedProperty => .error .setNamedProperty
  | .ok (after, propNameID) =>
      .ok { after with returned := after.returned ++ [(name, propNameID)] }

def finishBytes (runtime : NodeApiJsiRuntime) (name : JsString)
    (created : Except Failure (NodeApiJsiRuntime × Nat)) : Except Failure NodeApiJsiRuntime :=
  finish runtime name (created.map fun (after, propNameID) =>
    ({ after with byteNamed := after.byteNamed ++ [name] }, propNameID))

def call (runtime : NodeApiJsiRuntime) : Action → Option (Except Failure NodeApiJsiRuntime)
  | .fromAscii str =>
      if str.all (· < 0x80) then
        some (finishBytes runtime (str.map UInt8.toUInt16) (runtime.createPropNameIDFromAscii str))
      else none
  | .fromUtf8 text =>
      some (finishBytes runtime (utf16Encode text) (runtime.createPropNameIDFromUtf8 text))
  | .fromUtf16 name => some (finish runtime name (runtime.createPropNameIDFromUtf16 name))
  | .fromString str => some (finishBytes runtime str (runtime.createPropNameIDFromString str))
  | .fromPropNameString index =>
      match runtime.returned[index]? with
      | none => none
      | some (_, propNameID) =>
          (runtime.utf16 propNameID).map fun name =>
            finish runtime name (.ok (runtime, propNameID))
  | .defineOnObjectPrototype name inherited =>
      some (.ok { runtime with objectPrototype := fun other =>
        if other = name then inherited else runtime.objectPrototype other })
  | .definePrimitiveProperty scripts => some (.ok { runtime with scripts })

def propNameProgram : Program NodeApiJsiRuntime Action Failure where
  start := {}
  call := call

/-! ## Faithful names -/

/-- Every property name denotes the string it was created for, and two of them
compare equal exactly when their strings are equal. -/
structure Faithful (runtime : NodeApiJsiRuntime) : Prop where
  denotes : ∀ name propNameID, (name, propNameID) ∈ runtime.returned →
    runtime.utf16 propNameID = some name
  compares : ∀ left lhs right rhs, (left, lhs) ∈ runtime.returned →
    (right, rhs) ∈ runtime.returned → runtime.compare lhs rhs = some (decide (left = right))

def NamesFaithful : Except Failure NodeApiJsiRuntime → Prop
  | .ok runtime => Faithful runtime
  | .error _ => False

/-- The assignment of the name leaves the name itself as the first own name, and it is read
back from its wrapper, or the assignment throws. -/
def Assigns (runtime : NodeApiJsiRuntime) (name : JsString) : Prop :=
  ∀ props, (runtime.objectPrototype name).ownNames name = some props →
    runtime.scripts.ReadsAs runtime.wrappers.length (element props 0) (.string name)

/-- No other string asked for through the table of byte strings has the same UTF-8
form, and a name that the table does not hold is assigned as it is. -/
def BytesDistinct (runtime : NodeApiJsiRuntime) (name : JsString) : Prop :=
  (∀ other ∈ runtime.byteNamed, utf8 other = utf8 name → other = name) ∧
    (runtime.propNameIDs.lookup (utf8 name) = none → Assigns runtime name)

/-- Wrappers without a property "X" of their own answer with the names they are for. -/
def Answers (runtime : NodeApiJsiRuntime) (scripts : Scripts JsValue) : Prop :=
  ∀ entry ∈ runtime.returned, runtime.wrappers[entry.2]? = some .bare →
    scripts.inherited entry.2 = some (.string entry.1)

def KeysDistinct (runtime : NodeApiJsiRuntime) : Action → Prop
  | .fromAscii str => BytesDistinct runtime (str.map UInt8.toUInt16)
  | .fromUtf8 text => BytesDistinct runtime (utf16Encode text)
  | .fromUtf16 name => runtime.utf16PropNameIDs.lookup name = none → Assigns runtime name
  | .fromString str => BytesDistinct runtime str
  | .fromPropNameString _ => True
  | .defineOnObjectPrototype _ _ => True
  | .definePrimitiveProperty scripts => Answers runtime scripts

/-! ## The tables -/

/-- Entries of the byte table were returned for strings with that UTF-8 form, one for each
form that was asked for; entries of the other table were returned for their keys. -/
structure Invariant (runtime : NodeApiJsiRuntime) : Prop where
  byteKeyed : ∀ key propNameRef, (key, propNameRef) ∈ runtime.propNameIDs →
    ∃ name ∈ runtime.byteNamed, utf8 name = key ∧ (name, propNameRef) ∈ runtime.returned
  byteHeld : ∀ name ∈ runtime.byteNamed,
    ∃ propNameRef, runtime.propNameIDs.lookup (utf8 name) = some propNameRef
  byteDistinct : ∀ left ∈ runtime.byteNamed, ∀ right ∈ runtime.byteNamed,
    utf8 left = utf8 right → left = right
  wideKeyed : ∀ name propNameRef, (name, propNameRef) ∈ runtime.utf16PropNameIDs →
    (name, propNameRef) ∈ runtime.returned
  denotes : ∀ name propNameID, (name, propNameID) ∈ runtime.returned →
    runtime.utf16 propNameID = some name

theorem mem_of_lookup {κ : Type} [BEq κ] [LawfulBEq κ] {table : List (κ × Nat)} {key : κ}
    {value : Nat} (found : table.lookup key = some value) : (key, value) ∈ table := by
  obtain ⟨front, back, split, -⟩ := List.lookup_eq_some_iff.mp found
  simp [split]

theorem lookup_append_self {κ : Type} [BEq κ] [LawfulBEq κ] {table : List (κ × Nat)} {key : κ}
    (absent : table.lookup key = none) (value : Nat) :
    (table ++ [(key, value)]).lookup key = some value := by
  simp [List.lookup_append, absent]

theorem lookup_append_of_some {κ : Type} [BEq κ] [LawfulBEq κ] {table : List (κ × Nat)} {key : κ}
    {value : Nat} (found : table.lookup key = some value) (entry : κ × Nat) :
    (table ++ [entry]).lookup key = some value := by
  simp [List.lookup_append, found]

theorem utf16_eq_some {runtime : NodeApiJsiRuntime} {propNameID : Nat} {name : JsString} :
    runtime.utf16 propNameID = some name ↔
      runtime.getNodeApiValue propNameID = some (.string name) := by
  unfold NodeApiJsiRuntime.utf16
  split
  · rename_i units read
    simp [read]
  · rename_i other
    constructor
    · intro impossible
      cases impossible
    · exact fun read => absurd read (other name)

theorem Invariant.faithful {runtime : NodeApiJsiRuntime} (inv : Invariant runtime) :
    Faithful runtime := by
  refine ⟨inv.denotes, ?_⟩
  intro left lhs right rhs leftReturned rightReturned
  have first := utf16_eq_some.mp (inv.denotes left lhs leftReturned)
  have second := utf16_eq_some.mp (inv.denotes right rhs rightReturned)
  unfold NodeApiJsiRuntime.compare
  by_cases same : lhs = rhs
  · subst same
    rw [first] at second
    cases second
    simp
  · rw [if_neg same, first, second]
    simp [BEq.beq]

/-! ## Wrappers -/

theorem getNodeApiValue_inside {runtime : NodeApiJsiRuntime} {propNameID : Nat} {value : JsValue}
    (read : runtime.getNodeApiValue propNameID = some value) :
    propNameID < runtime.wrappers.length := by
  obtain ⟨wrapper, held, -⟩ := Option.bind_eq_some_iff.mp read
  exact (List.getElem?_eq_some_iff.mp held).1

/-- A pointer value keeps its wrapper when another one is made. -/
theorem utf16_appended {runtime : NodeApiJsiRuntime} (made : Wrapper JsValue) {propNameID : Nat}
    {name : JsString} (denotes : runtime.utf16 propNameID = some name) :
    NodeApiJsiRuntime.utf16 { runtime with wrappers := runtime.wrappers ++ [made] } propNameID =
      some name := by
  rw [utf16_eq_some] at denotes ⊢
  have inside := getNodeApiValue_inside denotes
  rw [← denotes, NodeApiJsiRuntime.getNodeApiValue, NodeApiJsiRuntime.getNodeApiValue,
    List.getElem?_append_left inside]

theorem utf16_made {runtime : NodeApiJsiRuntime} {made : Wrapper JsValue} {name : JsString} :
    NodeApiJsiRuntime.utf16 { runtime with wrappers := runtime.wrappers ++ [made] }
        runtime.wrappers.length = some name ↔
      runtime.scripts.getNamedProperty runtime.wrappers.length made = some (.string name) := by
  rw [utf16_eq_some, NodeApiJsiRuntime.getNodeApiValue, List.getElem?_concat_length,
    Option.bind_some]

/-- What a name can come out as. -/
theorem makePropName_cases (runtime : NodeApiJsiRuntime) (name : JsString) :
    (runtime.objectPrototype name).ownNames name = none ∧
        runtime.makePropName name = .error .javaScript ∨
      ∃ props, (runtime.objectPrototype name).ownNames name = some props ∧
        ((runtime.scripts.setNamedProperty runtime.wrappers.length (element props 0) = none ∧
            runtime.makePropName name = .error .setNamedProperty) ∨
          ∃ wrapper,
            runtime.scripts.setNamedProperty runtime.wrappers.length (element props 0) =
              some wrapper ∧
            runtime.makePropName name =
              .ok ({ runtime with wrappers := runtime.wrappers ++ [wrapper] },
                runtime.wrappers.length)) := by
  unfold NodeApiJsiRuntime.makePropName
  cases names : (runtime.objectPrototype name).ownNames name with
  | none => exact .inl ⟨rfl, rfl⟩
  | some props =>
    refine .inr ⟨props, rfl, ?_⟩
    dsimp only
    cases wrapped : runtime.scripts.setNamedProperty runtime.wrappers.length (element props 0) with
    | none => exact .inl ⟨rfl, rfl⟩
    | some wrapper => exact .inr ⟨wrapper, rfl, rfl⟩

/-- A name that is assigned as it is and read back, or not made at all. -/
theorem makePropName_assigned {runtime : NodeApiJsiRuntime} {name : JsString}
    (assigns : Assigns runtime name) :
    runtime.makePropName name = .error .javaScript ∨
      ∃ wrapper,
        runtime.scripts.getNamedProperty runtime.wrappers.length wrapper = some (.string name) ∧
        runtime.makePropName name =
          .ok ({ runtime with wrappers := runtime.wrappers ++ [wrapper] },
            runtime.wrappers.length) := by
  rcases makePropName_cases runtime name with ⟨-, thrown⟩ | ⟨props, names, rest⟩
  · exact .inl thrown
  · obtain ⟨wrapped, wraps, reads⟩ := (readsAs_iff ..).mp (assigns props names)
    rcases rest with ⟨fails, -⟩ | ⟨wrapper, stored, made⟩
    · rw [fails] at wraps
      cases wraps
    · obtain rfl := Option.some.inj (wraps.symm.trans stored)
      exact .inr ⟨wrapped, reads, made⟩

/-- A name that is lost ends the process or is read as something else. -/
theorem makePropName_missing {runtime : NodeApiJsiRuntime} {name : JsString}
    (lost : ¬ Assigns runtime name) :
    runtime.makePropName name = .error .setNamedProperty ∨
      ∃ wrapper,
        runtime.scripts.getNamedProperty runtime.wrappers.length wrapper ≠ some (.string name) ∧
        runtime.makePropName name =
          .ok ({ runtime with wrappers := runtime.wrappers ++ [wrapper] },
            runtime.wrappers.length) := by
  simp only [Assigns, not_forall, readsAs_iff, not_exists, not_and] at lost
  obtain ⟨props, names, missing⟩ := lost
  rcases makePropName_cases runtime name with ⟨absent, -⟩ | ⟨others, same, rest⟩
  · rw [absent] at names
    cases names
  · rw [names] at same
    cases same
    rcases rest with ⟨-, failed⟩ | ⟨wrapper, stored, made⟩
    · exact .inl failed
    · exact .inr ⟨wrapper, missing wrapper stored, made⟩

/-- The record of a name with the pointer that denotes it. -/
theorem Invariant.record {runtime : NodeApiJsiRuntime} (inv : Invariant runtime) {name : JsString}
    {propNameID : Nat} (denotes : runtime.utf16 propNameID = some name) :
    Invariant { runtime with returned := runtime.returned ++ [(name, propNameID)] } := by
  refine ⟨?_, inv.byteHeld, inv.byteDistinct, ?_, ?_⟩
  · intro key propNameRef member
    obtain ⟨other, asked, same, given⟩ := inv.byteKeyed key propNameRef member
    exact ⟨other, asked, same, List.mem_append_left _ given⟩
  · exact fun other propNameRef member =>
      List.mem_append_left _ (inv.wideKeyed other propNameRef member)
  · intro other otherID member
    rcases List.mem_append.mp member with old | new
    · exact inv.denotes other otherID old
    · obtain ⟨rfl, rfl⟩ := Prod.mk.inj (List.mem_singleton.mp new)
      exact denotes

theorem distinct_append {named : List JsString} {name : JsString}
    (distinct : ∀ left ∈ named, ∀ right ∈ named, utf8 left = utf8 right → left = right)
    (fresh : ∀ other ∈ named, utf8 other = utf8 name → other = name) :
    ∀ left ∈ named ++ [name], ∀ right ∈ named ++ [name], utf8 left = utf8 right →
      left = right := by
  intro left leftMember right rightMember same
  rcases List.mem_append.mp leftMember with leftOld | leftNew
  · rcases List.mem_append.mp rightMember with rightOld | rightNew
    · exact distinct left leftOld right rightOld same
    · obtain rfl := List.mem_singleton.mp rightNew
      exact fresh left leftOld same
  · obtain rfl := List.mem_singleton.mp leftNew
    rcases List.mem_append.mp rightMember with rightOld | rightNew
    · exact (fresh right rightOld same.symm).symm
    · exact (List.mem_singleton.mp rightNew).symm

theorem Invariant.byteName {runtime : NodeApiJsiRuntime} (inv : Invariant runtime) {name : JsString}
    {propNameRef : Nat} (held : runtime.propNameIDs.lookup (utf8 name) = some propNameRef)
    (distinct : ∀ other ∈ runtime.byteNamed, utf8 other = utf8 name → other = name) :
    Invariant { runtime with byteNamed := runtime.byteNamed ++ [name] } := by
  refine ⟨?_, ?_, ?_, inv.wideKeyed, inv.denotes⟩
  · intro key propNameRef member
    obtain ⟨other, asked, rest⟩ := inv.byteKeyed key propNameRef member
    exact ⟨other, List.mem_append_left _ asked, rest⟩
  · intro other member
    rcases List.mem_append.mp member with old | new
    · exact inv.byteHeld other old
    · obtain rfl := List.mem_singleton.mp new
      exact ⟨propNameRef, held⟩
  · exact distinct_append inv.byteDistinct distinct

/-- A new entry of the byte table together with the name it is for. -/
theorem Invariant.byteEntry {runtime : NodeApiJsiRuntime} (inv : Invariant runtime)
    {name : JsString} {wrapper : Wrapper JsValue}
    (absent : runtime.propNameIDs.lookup (utf8 name) = none)
    (reads : runtime.scripts.getNamedProperty runtime.wrappers.length wrapper =
      some (.string name)) :
    Invariant { runtime with
      wrappers := runtime.wrappers ++ [wrapper]
      propNameIDs := runtime.propNameIDs ++ [(utf8 name, runtime.wrappers.length)]
      byteNamed := runtime.byteNamed ++ [name]
      returned := runtime.returned ++ [(name, runtime.wrappers.length)] } := by
  have unnamed : ∀ other ∈ runtime.byteNamed, utf8 other ≠ utf8 name := by
    intro other member same
    obtain ⟨propNameRef, held⟩ := inv.byteHeld other member
    rw [same, absent] at held
    cases held
  refine ⟨?_, ?_, ?_, ?_, ?_⟩
  · intro key propNameRef member
    rcases List.mem_append.mp member with old | new
    · obtain ⟨other, asked, same, given⟩ := inv.byteKeyed key propNameRef old
      exact ⟨other, List.mem_append_left _ asked, same, List.mem_append_left _ given⟩
    · obtain ⟨rfl, rfl⟩ := Prod.mk.inj (List.mem_singleton.mp new)
      exact ⟨name, by simp, rfl, by simp⟩
  · intro other member
    rcases List.mem_append.mp member with old | new
    · obtain ⟨propNameRef, held⟩ := inv.byteHeld other old
      exact ⟨propNameRef, lookup_append_of_some held _⟩
    · obtain rfl := List.mem_singleton.mp new
      exact ⟨_, lookup_append_self absent _⟩
  · apply distinct_append inv.byteDistinct
    exact fun other member same => absurd same (unnamed other member)
  · exact fun other propNameRef member =>
      List.mem_append_left _ (inv.wideKeyed other propNameRef member)
  · intro other otherID member
    rcases List.mem_append.mp member with old | new
    · exact utf16_appended wrapper (inv.denotes other otherID old)
    · obtain ⟨rfl, rfl⟩ := Prod.mk.inj (List.mem_singleton.mp new)
      exact utf16_made.mpr reads

theorem Invariant.wideEntry {runtime : NodeApiJsiRuntime} (inv : Invariant runtime)
    {name : JsString} {wrapper : Wrapper JsValue}
    (reads : runtime.scripts.getNamedProperty runtime.wrappers.length wrapper =
      some (.string name)) :
    Invariant { runtime with
      wrappers := runtime.wrappers ++ [wrapper]
      utf16PropNameIDs := runtime.utf16PropNameIDs ++ [(name, runtime.wrappers.length)]
      returned := runtime.returned ++ [(name, runtime.wrappers.length)] } := by
  refine ⟨?_, inv.byteHeld, inv.byteDistinct, ?_, ?_⟩
  · intro key propNameRef member
    obtain ⟨other, asked, same, given⟩ := inv.byteKeyed key propNameRef member
    exact ⟨other, asked, same, List.mem_append_left _ given⟩
  · intro other propNameRef member
    rcases List.mem_append.mp member with old | new
    · exact List.mem_append_left _ (inv.wideKeyed other propNameRef old)
    · obtain ⟨rfl, rfl⟩ := Prod.mk.inj (List.mem_singleton.mp new)
      simp
  · intro other otherID member
    rcases List.mem_append.mp member with old | new
    · exact utf16_appended wrapper (inv.denotes other otherID old)
    · obtain ⟨rfl, rfl⟩ := Prod.mk.inj (List.mem_singleton.mp new)
      exact utf16_made.mpr reads

/-- Scripts change what bare wrappers answer. -/
theorem Invariant.rescripted {runtime : NodeApiJsiRuntime} (inv : Invariant runtime)
    {scripts : Scripts JsValue} (answers : Answers runtime scripts) :
    Invariant { runtime with scripts } := by
  refine ⟨inv.byteKeyed, inv.byteHeld, inv.byteDistinct, inv.wideKeyed, ?_⟩
  intro name propNameID member
  have denotes := inv.denotes name propNameID member
  rw [utf16_eq_some] at denotes ⊢
  obtain ⟨wrapper, held, read⟩ := Option.bind_eq_some_iff.mp denotes
  refine Option.bind_eq_some_iff.mpr ⟨wrapper, held, ?_⟩
  cases wrapper with
  | own value => exact read
  | bare => exact answers (name, propNameID) member held

/-! ## Creations -/

theorem fromBytes_kept {runtime : NodeApiJsiRuntime} (inv : Invariant runtime) {name : JsString}
    (distinct : BytesDistinct runtime name) :
    ∃ after, finishBytes runtime name (runtime.internBytes (utf8 name) name) = .ok after ∧
      Invariant after := by
  unfold NodeApiJsiRuntime.internBytes
  cases found : runtime.propNameIDs.lookup (utf8 name) with
  | some propNameRef =>
    obtain ⟨other, asked, same, given⟩ := inv.byteKeyed _ _ (mem_of_lookup found)
    obtain rfl := distinct.1 other asked same
    exact ⟨_, rfl, (inv.byteName found distinct.1).record (inv.denotes _ _ given)⟩
  | none =>
    rcases makePropName_assigned (distinct.2 found) with thrown | ⟨wrapper, reads, made⟩
    · exact ⟨runtime, by rw [thrown]; rfl, inv⟩
    · exact ⟨_, by rw [made]; rfl, inv.byteEntry found reads⟩

theorem fromUtf16_kept {runtime : NodeApiJsiRuntime} (inv : Invariant runtime) {name : JsString}
    (assigns : runtime.utf16PropNameIDs.lookup name = none → Assigns runtime name) :
    ∃ after, finish runtime name (runtime.createPropNameIDFromUtf16 name) = .ok after ∧
      Invariant after := by
  unfold NodeApiJsiRuntime.createPropNameIDFromUtf16
  cases found : runtime.utf16PropNameIDs.lookup name with
  | some propNameRef =>
    have given := inv.wideKeyed _ _ (mem_of_lookup found)
    exact ⟨_, rfl, inv.record (inv.denotes _ _ given)⟩
  | none =>
    rcases makePropName_assigned (assigns found) with thrown | ⟨wrapper, reads, made⟩
    · exact ⟨runtime, by rw [thrown]; rfl, inv⟩
    · exact ⟨_, by rw [made]; rfl, inv.wideEntry reads⟩

/-- The name just returned is not the one asked for. -/
theorem not_faithful_of_last {after : NodeApiJsiRuntime} (name : JsString)
    (propNameID : Nat) (last : (name, propNameID) ∈ after.returned)
    (other : after.utf16 propNameID ≠ some name) : ¬ NamesFaithful (.ok after) :=
  fun faithful => other (faithful.denotes name propNameID last)

/-- Another string of the same form is in the table, or the new object does not
have the name, or its wrapper does not. -/
theorem fromBytes_refused {runtime : NodeApiJsiRuntime} (inv : Invariant runtime)
    {name : JsString} (refused : ¬ BytesDistinct runtime name) :
    ¬ NamesFaithful (finishBytes runtime name (runtime.internBytes (utf8 name) name)) := by
  unfold NodeApiJsiRuntime.internBytes
  cases found : runtime.propNameIDs.lookup (utf8 name) with
  | some propNameRef =>
    obtain ⟨other, asked, same, given⟩ := inv.byteKeyed _ _ (mem_of_lookup found)
    have denotes := inv.denotes _ _ given
    have differs : other ≠ name := by
      rintro rfl
      apply refused
      refine ⟨fun third member equal => inv.byteDistinct third member other asked equal, ?_⟩
      intro absent
      rw [found] at absent
      cases absent
    apply not_faithful_of_last name propNameRef
    · simp
    · intro wrong
      exact differs (Option.some.inj (denotes.symm.trans wrong))
  | none =>
    have fresh : ∀ other ∈ runtime.byteNamed, utf8 other = utf8 name → other = name := by
      intro other member same
      obtain ⟨propNameRef, held⟩ := inv.byteHeld other member
      rw [same, found] at held
      cases held
    have lost : ¬ Assigns runtime name := fun assigns => refused ⟨fresh, fun _ => assigns⟩
    rcases makePropName_missing lost with failed | ⟨wrapper, missing, made⟩
    · rw [failed]
      exact id
    · rw [made]
      apply not_faithful_of_last name runtime.wrappers.length
      · simp
      · exact fun read => missing (utf16_made.mp read)

theorem fromUtf16_refused {runtime : NodeApiJsiRuntime} {name : JsString}
    (refused : ¬ (runtime.utf16PropNameIDs.lookup name = none → Assigns runtime name)) :
    ¬ NamesFaithful (finish runtime name (runtime.createPropNameIDFromUtf16 name)) := by
  obtain ⟨found, lost⟩ := Classical.not_imp.mp refused
  unfold NodeApiJsiRuntime.createPropNameIDFromUtf16
  rw [found]
  rcases makePropName_missing lost with failed | ⟨wrapper, missing, made⟩
  · rw [failed]
    exact id
  · rw [made]
    apply not_faithful_of_last name runtime.wrappers.length
    · simp
    · exact fun read => missing (utf16_made.mp read)

/-- A bare wrapper answers with another value than its name. -/
theorem rescripted_refused {runtime : NodeApiJsiRuntime} {scripts : Scripts JsValue}
    (refused : ¬ Answers runtime scripts) : ¬ NamesFaithful (.ok { runtime with scripts }) := by
  simp only [Answers, not_forall] at refused
  obtain ⟨⟨name, propNameID⟩, member, bare, other⟩ := refused
  intro faithful
  have denotes := faithful.denotes name propNameID member
  rw [utf16_eq_some] at denotes
  obtain ⟨wrapper, held, read⟩ := Option.bind_eq_some_iff.mp denotes
  cases bare.symm.trans held
  exact other read

/-! ## Runs -/

theorem fromAscii_bytes {runtime : NodeApiJsiRuntime} {str : List UInt8}
    (ascii : ∀ byte ∈ str, byte < 0x80) :
    runtime.createPropNameIDFromAscii str =
      runtime.internBytes (utf8 (str.map UInt8.toUInt16)) (str.map UInt8.toUInt16) := by
  rw [utf8, utf8Encode_widened ascii]
  rfl

theorem fromUtf8_bytes (runtime : NodeApiJsiRuntime) (text : List Char) :
    runtime.createPropNameIDFromUtf8 text =
      runtime.internBytes (utf8 (utf16Encode text)) (utf16Encode text) := by
  rw [utf8, decodeLossy_utf16Encode]
  rfl

theorem call_kept (runtime : NodeApiJsiRuntime) (action : Action)
    (outcome : Except Failure NodeApiJsiRuntime) (inv : Invariant runtime)
    (admitted : KeysDistinct runtime action) (called : call runtime action = some outcome) :
    NamesFaithful outcome ∧ ∀ next, outcome = .ok next → Invariant next := by
  suffices kept : ∃ next, outcome = .ok next ∧ Invariant next by
    obtain ⟨next, rfl, held⟩ := kept
    refine ⟨held.faithful, ?_⟩
    rintro other ⟨⟩
    exact held
  cases action with
  | fromAscii str =>
    simp only [call, Option.ite_none_right_eq_some, Option.some.injEq] at called
    obtain ⟨ascii, rfl⟩ := called
    rw [fromAscii_bytes (by simpa using ascii)]
    exact fromBytes_kept inv admitted
  | fromUtf8 text =>
    obtain rfl := Option.some.inj called
    rw [fromUtf8_bytes]
    exact fromBytes_kept inv admitted
  | fromUtf16 name =>
    obtain rfl := Option.some.inj called
    exact fromUtf16_kept inv admitted
  | fromString str =>
    obtain rfl := Option.some.inj called
    exact fromBytes_kept inv admitted
  | fromPropNameString index =>
    simp only [call] at called
    split at called
    · cases called
    · obtain ⟨name, denotes, rfl⟩ := Option.map_eq_some_iff.mp called
      exact ⟨_, rfl, inv.record denotes⟩
  | defineOnObjectPrototype name inherited =>
    obtain rfl := Option.some.inj called
    exact ⟨_, rfl, inv.byteKeyed, inv.byteHeld, inv.byteDistinct, inv.wideKeyed, inv.denotes⟩
  | definePrimitiveProperty scripts =>
    obtain rfl := Option.some.inj called
    exact ⟨_, rfl, inv.rescripted admitted⟩

theorem call_refused (runtime : NodeApiJsiRuntime) (action : Action)
    (outcome : Except Failure NodeApiJsiRuntime) (inv : Invariant runtime)
    (refused : ¬ KeysDistinct runtime action) (called : call runtime action = some outcome) :
    ¬ NamesFaithful outcome := by
  cases action with
  | fromAscii str =>
    simp only [call, Option.ite_none_right_eq_some, Option.some.injEq] at called
    obtain ⟨ascii, rfl⟩ := called
    rw [fromAscii_bytes (by simpa using ascii)]
    exact fromBytes_refused inv refused
  | fromUtf8 text =>
    obtain rfl := Option.some.inj called
    rw [fromUtf8_bytes]
    exact fromBytes_refused inv refused
  | fromUtf16 name =>
    obtain rfl := Option.some.inj called
    exact fromUtf16_refused refused
  | fromString str =>
    obtain rfl := Option.some.inj called
    exact fromBytes_refused inv refused
  | fromPropNameString index => exact absurd trivial refused
  | defineOnObjectPrototype name inherited => exact absurd trivial refused
  | definePrimitiveProperty scripts =>
    obtain rfl := Option.some.inj called
    exact rescripted_refused refused

theorem start_invariant : Invariant propNameProgram.start := by
  constructor <;> simp [propNameProgram]

/-- Along every history of creations the names are faithful as long as, and only as
long as, the keys tell the strings apart, every new name can be assigned, and what scripts
make of the property "X" leaves the names as they are. -/
theorem names_faithful_iff (trace : List Action) (outcome : Except Failure NodeApiJsiRuntime)
    (ran : propNameProgram.run trace = some outcome) :
    propNameProgram.SafeAlong NamesFaithful propNameProgram.start trace ↔
      propNameProgram.Meets KeysDistinct propNameProgram.start trace :=
  Program.safeAlong_iff_meets Invariant (fun _ inv => inv.faithful) call_kept call_refused trace
    propNameProgram.start outcome start_invariant ran

instance (runtime : NodeApiJsiRuntime) (name : JsString) : Decidable (Assigns runtime name) :=
  match names : (runtime.objectPrototype name).ownNames name with
  | none => .isTrue (by simp [Assigns, names])
  | some props => decidable_of_iff
      (runtime.scripts.ReadsAs runtime.wrappers.length (element props 0) (.string name))
      (by simp [Assigns, names])

instance (runtime : NodeApiJsiRuntime) (name : JsString) : Decidable (BytesDistinct runtime name) :=
  inferInstanceAs (Decidable (_ ∧ _))

instance (runtime : NodeApiJsiRuntime) (scripts : Scripts JsValue) :
    Decidable (Answers runtime scripts) :=
  inferInstanceAs (Decidable (∀ entry ∈ runtime.returned, _ → _))

instance (runtime : NodeApiJsiRuntime) (action : Action) :
    Decidable (KeysDistinct runtime action) :=
  match action with
  | .fromAscii str => inferInstanceAs (Decidable (BytesDistinct runtime (str.map UInt8.toUInt16)))
  | .fromUtf8 text => inferInstanceAs (Decidable (BytesDistinct runtime (utf16Encode text)))
  | .fromUtf16 name => inferInstanceAs
      (Decidable (runtime.utf16PropNameIDs.lookup name = none → Assigns runtime name))
  | .fromString str => inferInstanceAs (Decidable (BytesDistinct runtime str))
  | .fromPropNameString _ => .isTrue trivial
  | .defineOnObjectPrototype _ _ => .isTrue trivial
  | .definePrimitiveProperty scripts => inferInstanceAs (Decidable (Answers runtime scripts))

/-- The letter A through each of the entry points. -/
theorem names_faithful_letter :
    propNameProgram.SafeAlong NamesFaithful propNameProgram.start
      [.fromAscii [0x41], .fromUtf8 ['A'], .fromUtf16 [0x41], .fromString [0x41]] := by
  apply (names_faithful_iff [.fromAscii [0x41], .fromUtf8 ['A'], .fromUtf16 [0x41],
    .fromString [0x41]] _ rfl).mpr
  decide

/-- Scripts have put an accessor "X" on `Object.prototype`, the getter of which gives
"X" for every wrapper. -/
def accessorX : Scripts JsValue where
  assignment _ := .intercepted
  inherited _ := some (.string [0x58])

/-- Two lone surrogates share a key, "__proto__" is not an own name, and the wrapper of a
letter answers with another one. -/
theorem names_confused :
    ¬ propNameProgram.SafeAlong NamesFaithful propNameProgram.start
        [.fromString [0xD800], .fromString [0xD801]] ∧
      ¬ propNameProgram.SafeAlong NamesFaithful propNameProgram.start
        [.fromUtf16 protoName] ∧
      ¬ propNameProgram.SafeAlong NamesFaithful propNameProgram.start
        [.definePrimitiveProperty accessorX, .fromAscii [0x41]] := by
  refine ⟨fun along => ?_, fun along => ?_, fun along => ?_⟩
  · have faithful : Faithful _ :=
      along [.fromString [0xD800], .fromString [0xD801]] [] (.ok _) rfl rfl
    have denotes := faithful.denotes [0xD801] 0 (by decide)
    revert denotes
    decide
  · have faithful : Faithful _ := along [.fromUtf16 protoName] [] (.ok _) rfl rfl
    have denotes := faithful.denotes protoName 0 (by decide)
    revert denotes
    decide
  · have faithful : Faithful _ :=
      along [.definePrimitiveProperty accessorX, .fromAscii [0x41]] [] (.ok _) rfl rfl
    have denotes := faithful.denotes [0x41] 0 (by decide)
    revert denotes
    decide

end V8Jsi.PropNames
