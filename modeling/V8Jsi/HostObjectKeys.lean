import Mathlib.Data.List.Perm.Basic
import Mathlib.Data.List.Sort
import V8Jsi.ArrayIndex
import V8Jsi.HostObjectTraps
import V8Jsi.Lib.Distinct

set_option autoImplicit false

/- The keys of a host object: `hostObjectOwnKeysTrap` of NodeApiJsiRuntime.cpp. Keys are
told apart by the pointers that `PropNameID`s hold. The pointers denote strings and symbols,
or other values where a name could not be made or scripts answer for its wrapper. -/
namespace V8Jsi.HostObjectKeys

open ArrayIndex Distinct PrimitiveProperty
open HostObjectTraps (PropertyKey)
open PropNames (JsString JsValue NodeApiJsiRuntime element utf8)

/-- What a `PropNameID` points to: a string of the runtime or a symbol. -/
inductive KeyPointer
  | string (propNameRef : Nat)
  | symbol (pointer : Nat)
  deriving DecidableEq, Repr

/-- The wrappers of names, in the runtime, and those of symbols. The trap reads each of them
once, so that scripts which run meanwhile are part of what they answer. -/
structure Pointers where
  runtime : NodeApiJsiRuntime
  symbolScripts : Scripts JsValue := {}
  symbols : List (Wrapper JsValue) := []

/-- `none` where the read fails, which ends the process. -/
def Pointers.getNodeApiValue (pointers : Pointers) : KeyPointer → Option JsValue
  | .string propNameRef => pointers.runtime.getNodeApiValue propNameRef
  | .symbol pointer =>
      pointers.symbols[pointer]?.bind (pointers.symbolScripts.getNamedProperty pointer)

/-- A value as a key of a property, `none` for one that is not a key as it stands. -/
def propertyKey : JsValue → Option PropertyKey
  | .string units => some (.string units)
  | .symbol identity => some (.symbol identity)
  | .undefined | .other _ => none

def Pointers.denotes (pointers : Pointers) (pointer : KeyPointer) : Option PropertyKey :=
  (pointers.getNodeApiValue pointer).bind propertyKey

def Pointers.holds (pointers : Pointers) : KeyPointer → Prop
  | .string propNameRef => propNameRef < pointers.runtime.wrappers.length
  | .symbol pointer => pointer < pointers.symbols.length

instance (pointers : Pointers) (pointer : KeyPointer) : Decidable (pointers.holds pointer) :=
  match pointer with
  | .string _ => inferInstanceAs (Decidable (_ < _))
  | .symbol _ => inferInstanceAs (Decidable (_ < _))

/-- What the trap works on once `HostObject::getPropertyNames` has returned. The own keys
of an object are distinct, and the target has the symbol of the host object. -/
structure Enumeration where
  pointers : Pointers
  hostObjectSymbol : Nat
  targetOwnKeys : List PropertyKey
  hostOwnKeys : List KeyPointer
  targetDistinct : targetOwnKeys.Nodup
  targetMarked : .symbol hostObjectSymbol ∈ targetOwnKeys
  hostHeld : ∀ pointer ∈ hostOwnKeys, pointers.holds pointer

/-- `crash` where the property "X" of a wrapper cannot be assigned or read. -/
inductive Failure
  | javaScript
  | native (message : String)
  | crash
  deriving DecidableEq, Repr

def addPropNameId (ownKeys : List KeyPointer) (propNameId : KeyPointer) :
    Except Failure (List KeyPointer) :=
  if propNameId ∈ ownKeys then .error (.native "Target has non-unique keys")
  else .ok (ownKeys ++ [propNameId])

/-- `createPropNameIDFromString` or `createPropNameIDFromSymbol` for a key of the target.
A string is looked up in the table of names. A symbol always has a pointer of its own, which
stays on the stack. -/
def createPropNameID (pointers : Pointers) : PropertyKey → Except Failure (Pointers × KeyPointer)
  | .string units =>
      match pointers.runtime.createPropNameIDFromString units with
      | .error .javaScript => .error .javaScript
      | .error .setNamedProperty => .error .crash
      | .ok (runtime, propNameRef) => .ok ({ pointers with runtime }, .string propNameRef)
  | .symbol identity =>
      .ok ({ pointers with symbols := pointers.symbols ++ [.own (.symbol identity)] },
        .symbol pointers.symbols.length)

/-- The loop over the keys of the target. `uniqueOwnKeys` has the elements of `ownKeys`. -/
def readTargetKeys (hostObjectSymbol : Nat) : List PropertyKey → Pointers → List KeyPointer →
    Except Failure (Pointers × List KeyPointer)
  | [], pointers, ownKeys => .ok (pointers, ownKeys)
  | key :: rest, pointers, ownKeys =>
      if key = .symbol hostObjectSymbol then readTargetKeys hostObjectSymbol rest pointers ownKeys
      else
        match createPropNameID pointers key with
        | .error failure => .error failure
        | .ok (pointers, propNameId) =>
            match addPropNameId ownKeys propNameId with
            | .error failure => .error failure
            | .ok ownKeys => readTargetKeys hostObjectSymbol rest pointers ownKeys

def readHostKeys (ownKeys : List KeyPointer) : List KeyPointer → List KeyPointer
  | [] => ownKeys
  | propNameId :: rest =>
      if propNameId ∈ ownKeys then readHostKeys ownKeys rest
      else readHostKeys (ownKeys ++ [propNameId]) rest

def indexOf : Option PropertyKey → Option UInt32
  | some (.string units) => toArrayIndex (utf8 units)
  | _ => none

def indexKeys (keys : List (Option PropertyKey)) : List (UInt32 × Option PropertyKey) :=
  keys.filterMap fun key => (indexOf key).map fun index => (index, key)

def nonIndexKeys (keys : List (Option PropertyKey)) : List (Option PropertyKey) :=
  keys.filter fun key => (indexOf key).isNone

/-- Indexed properties stand before named ones. Keys of one index are the same string, so
that it does not matter how they are sorted. -/
def arrange (keys : List (Option PropertyKey)) : List (Option PropertyKey) :=
  ((indexKeys keys).insertionSort fun left right => left.1 ≤ right.1).map Prod.snd ++
    nonIndexKeys keys

/-- The values of the keys. -/
def readKeys (pointers : Pointers) (ownKeys : List KeyPointer) :
    Except Failure (List (Option PropertyKey)) :=
  match ownKeys.mapM pointers.getNodeApiValue with
  | none => .error .crash
  | some values => .ok (values.map propertyKey)

/-- The keys of the target are read when it has more than the symbol. -/
def hostObjectOwnKeysTrap (enumeration : Enumeration) :
    Except Failure (List (Option PropertyKey)) :=
  let read :=
    if enumeration.targetOwnKeys.length > 1 then
      readTargetKeys enumeration.hostObjectSymbol enumeration.targetOwnKeys enumeration.pointers []
    else .ok (enumeration.pointers, [])
  match read with
  | .error failure => .error failure
  | .ok (pointers, ownKeys) =>
      (readKeys pointers (readHostKeys ownKeys enumeration.hostOwnKeys)).map arrange

/-! ## What the keys should be -/

def Enumeration.targetNames (enumeration : Enumeration) : List PropertyKey :=
  enumeration.targetOwnKeys.filter (· ≠ .symbol enumeration.hostObjectSymbol)

def Enumeration.hostNames (enumeration : Enumeration) : List PropertyKey :=
  enumeration.hostOwnKeys.filterMap enumeration.pointers.denotes

/-- An array index as a key. -/
def indexKey (index : Nat) : PropertyKey := .string (indexName index)

/-- The array indices in ascending order, and then the other names of the target and of the
host object as they first occur. -/
def InOrder (targetNames hostNames keys : List PropertyKey) : Prop :=
  ∃ (indices : List Nat) (named : List PropertyKey), keys = indices.map indexKey ++ named ∧
    indices.Pairwise (· < ·) ∧ (∀ index ∈ indices, index < 2 ^ 32 - 1) ∧
    (∀ key ∈ named, ∀ index < 2 ^ 32 - 1, key ≠ indexKey index) ∧
    named.Sublist (targetNames ++ unseen targetNames hostNames)

/-- The trap returns each name of the target and of the host object once, in order. -/
def Enumerates (enumeration : Enumeration) : Prop :=
  ∃ keys : List PropertyKey,
    hostObjectOwnKeysTrap enumeration = .ok (keys.map some) ∧
    keys.Nodup ∧
    (∀ key, key ∈ keys ↔ key ∈ enumeration.targetNames ∨ key ∈ enumeration.hostNames) ∧
    InOrder enumeration.targetNames enumeration.hostNames keys

/-- The table of names has this string under its UTF-8 form, or nothing there and the
string can be made a name that is read back from whichever wrapper it gets. -/
def Spelled (runtime : NodeApiJsiRuntime) (units : JsString) : Prop :=
  (∀ propNameRef, runtime.propNameIDs.lookup (utf8 units) = some propNameRef →
    runtime.utf16 propNameRef = some units) ∧
  (runtime.propNameIDs.lookup (utf8 units) = none →
    ∃ props, (runtime.objectPrototype units).ownNames units = some props ∧
      ∀ wrapper ≥ runtime.wrappers.length,
        runtime.scripts.ReadsAs wrapper (element props 0) (.string units))

/-- One pointer for each key, as far as the target and the host object are concerned. -/
structure Enumerable (enumeration : Enumeration) : Prop where
  targetSpelled : ∀ units, .string units ∈ enumeration.targetOwnKeys →
    Spelled enumeration.pointers.runtime units
  targetForms : ∀ left right, .string left ∈ enumeration.targetOwnKeys →
    .string right ∈ enumeration.targetOwnKeys → utf8 left = utf8 right → left = right
  hostDenotes : ∀ pointer ∈ enumeration.hostOwnKeys, enumeration.pointers.denotes pointer ≠ none
  hostDistinct : ∀ left ∈ enumeration.hostOwnKeys, ∀ right ∈ enumeration.hostOwnKeys,
    enumeration.pointers.denotes left = enumeration.pointers.denotes right → left = right
  hostShares : ∀ units, .string units ∈ enumeration.targetOwnKeys →
    ∀ pointer ∈ enumeration.hostOwnKeys,
      enumeration.pointers.denotes pointer = some (.string units) →
      ∃ propNameRef, pointer = .string propNameRef ∧
        enumeration.pointers.runtime.propNameIDs.lookup (utf8 units) = some propNameRef
  hostSymbols : ∀ identity, .symbol identity ∈ enumeration.targetNames →
    ∀ pointer ∈ enumeration.hostOwnKeys,
      enumeration.pointers.denotes pointer ≠ some (.symbol identity)

/-- The table of names has strings with the UTF-8 form they are looked up by, as long as no
setter of `Object.prototype` makes another name of a name, and scripts leave the property "X"
of wrappers alone. -/
structure Regular (runtime : NodeApiJsiRuntime) : Prop where
  entries : ∀ bytes propNameRef, runtime.propNameIDs.lookup bytes = some propNameRef →
    ∃ value, runtime.wrappers[propNameRef]? = some (.own value) ∧
      (value = .undefined ∨ ∃ units, value = .string units ∧ utf8 units = bytes)
  assigned : ∀ units props first, (runtime.objectPrototype units).ownNames units = some props →
    props[0]? = some first → utf8 first = utf8 units
  unscripted : ∀ wrapper ≥ runtime.wrappers.length, runtime.scripts.assignment wrapper = .own

/-! ## The order of the keys -/

theorem indexOf_some_iff (key : PropertyKey) (index : UInt32) :
    indexOf (some key) = some index ↔ index.toNat < 2 ^ 32 - 1 ∧ key = indexKey index.toNat := by
  cases key with
  | string units =>
    rw [indexOf, toArrayIndex_utf8_iff, indexKey, PropertyKey.string.injEq]
  | symbol identity => simp [indexOf, indexKey]

theorem indexOf_isNone_iff (key : PropertyKey) :
    (indexOf (some key)).isNone = true ↔ ∀ index < 2 ^ 32 - 1, key ≠ indexKey index := by
  rw [Option.isNone_iff_eq_none, Option.eq_none_iff_forall_ne_some]
  constructor
  · intro missing index small same
    apply missing (UInt32.ofNat index)
    rw [indexOf_some_iff, UInt32.toNat_ofNat_of_lt' (Nat.lt_of_lt_of_le small (by decide))]
    exact ⟨small, same⟩
  · intro different index found
    rw [indexOf_some_iff] at found
    exact different _ found.1 found.2

theorem mem_indexKeys (keys : List (Option PropertyKey)) (index : UInt32)
    (key : Option PropertyKey) :
    (index, key) ∈ indexKeys keys ↔ key ∈ keys ∧ indexOf key = some index := by
  rw [indexKeys, List.mem_filterMap]
  constructor
  · rintro ⟨other, inside, found⟩
    obtain ⟨_, read, same⟩ := Option.map_eq_some_iff.mp found
    cases same
    exact ⟨inside, read⟩
  · rintro ⟨inside, read⟩
    exact ⟨key, inside, by rw [read]; rfl⟩

theorem indexKeys_map_snd (keys : List (Option PropertyKey)) :
    (indexKeys keys).map Prod.snd = keys.filter fun key => (indexOf key).isSome := by
  induction keys with
  | nil => rfl
  | cons key rest ih =>
    rw [indexKeys, List.filterMap_cons, List.filter_cons]
    cases read : indexOf key with
    | none =>
      rw [Option.map_none]
      exact ih
    | some index =>
      rw [Option.map_some]
      exact congrArg (key :: ·) ih

theorem arrange_perm (keys : List (Option PropertyKey)) : (arrange keys).Perm keys := by
  have sorted := (List.perm_insertionSort (fun left right => left.1 ≤ right.1)
    (indexKeys keys)).map Prod.snd
  rw [indexKeys_map_snd] at sorted
  have parts := List.filter_append_perm (fun key => (indexOf key).isSome) keys
  refine ((sorted.append_right _).trans ?_ : (arrange keys).Perm keys)
  have others : (keys.filter fun key => !(indexOf key).isSome) = nonIndexKeys keys := by
    rw [nonIndexKeys]
    congr 1
    funext key
    exact Option.not_isSome _
  rwa [others] at parts

/-- The part of the arranged keys that are not indices. -/
theorem nonIndexKeys_arrange (keys : List (Option PropertyKey)) :
    nonIndexKeys (arrange keys) = nonIndexKeys keys := by
  rw [arrange]
  have first : nonIndexKeys (((indexKeys keys).insertionSort fun left right =>
      left.1 ≤ right.1).map Prod.snd) = [] := by
    rw [nonIndexKeys, List.filter_eq_nil_iff]
    intro key inside
    obtain ⟨⟨index, _⟩, sorted, rfl⟩ := List.mem_map.mp inside
    rw [List.mem_insertionSort, mem_indexKeys] at sorted
    simp [sorted.2]
  rw [nonIndexKeys, List.filter_append, ← nonIndexKeys, first, List.nil_append, nonIndexKeys,
    List.filter_filter]
  simp

/-- Distinct keys are put in order. -/
theorem arrange_ordered (names : List PropertyKey) (distinct : names.Nodup) :
    ∃ (indices : List Nat) (named : List PropertyKey),
      arrange (names.map some) = (indices.map indexKey ++ named).map some ∧
      indices.Pairwise (· < ·) ∧ (∀ index ∈ indices, index < 2 ^ 32 - 1) ∧
      (∀ key ∈ named, ∀ index < 2 ^ 32 - 1, key ≠ indexKey index) ∧
      named.Sublist names := by
  have sorted := List.pairwise_insertionSort
    (fun left right : UInt32 × Option PropertyKey => left.1 ≤ right.1) (indexKeys (names.map some))
  have nodup : (indexKeys (names.map some)).Nodup := by
    apply List.Nodup.of_map Prod.snd
    rw [indexKeys_map_snd]
    exact (distinct.map fun _ _ same => Option.some.inj same).filter _
  have sortedNodup := (List.perm_insertionSort
    (fun left right : UInt32 × Option PropertyKey => left.1 ≤ right.1)
    (indexKeys (names.map some))).nodup_iff.mpr nodup
  have entry : ∀ pair ∈ (indexKeys (names.map some)).insertionSort
      (fun left right => left.1 ≤ right.1),
      pair.1.toNat < 2 ^ 32 - 1 ∧ pair.2 = some (indexKey pair.1.toNat) := by
    rintro ⟨index, key⟩ inside
    rw [List.mem_insertionSort, mem_indexKeys] at inside
    obtain ⟨name, -, rfl⟩ := List.mem_map.mp inside.1
    have read := (indexOf_some_iff name index).mp inside.2
    exact ⟨read.1, congrArg some read.2⟩
  refine ⟨((indexKeys (names.map some)).insertionSort
      fun left right => left.1 ≤ right.1).map fun pair => pair.1.toNat,
    names.filter fun key => (indexOf (some key)).isNone, ?_, ?_, ?_, ?_, List.filter_sublist⟩
  · rw [arrange, List.map_append, List.map_map, List.map_map, nonIndexKeys, List.filter_map]
    congr 1
    exact List.map_congr_left fun pair inside => (entry pair inside).2
  · rw [List.pairwise_map]
    refine ((List.Pairwise.and_mem.mp sorted).and sortedNodup).imp ?_
    rintro left right ⟨⟨leftInside, rightInside, le⟩, different⟩
    have least : left.1.toNat ≤ right.1.toNat := UInt32.le_iff_toNat_le.mp le
    rcases Nat.lt_or_eq_of_le least with less | same
    · exact less
    · apply absurd _ different
      rw [Prod.ext_iff, (entry left leftInside).2, (entry right rightInside).2, same]
      exact ⟨UInt32.toNat_inj.mp same, rfl⟩
  · intro index inside
    obtain ⟨pair, here, rfl⟩ := List.mem_map.mp inside
    exact (entry pair here).1
  · intro key inside
    exact (indexOf_isNone_iff key).mp (List.mem_filter.mp inside).2

/-- What is in order is in that order: the keys that are not indices are those of the names. -/
theorem nonIndexKeys_of_ordered {names keys named : List PropertyKey} {indices : List Nat}
    (split : keys = indices.map indexKey ++ named) (distinct : names.Nodup)
    (keysDistinct : keys.Nodup) (complete : ∀ key, key ∈ keys ↔ key ∈ names)
    (small : ∀ index ∈ indices, index < 2 ^ 32 - 1)
    (others : ∀ key ∈ named, ∀ index < 2 ^ 32 - 1, key ≠ indexKey index)
    (order : named.Sublist names) :
    keys.filter (fun key => (indexOf (some key)).isNone) =
      names.filter fun key => (indexOf (some key)).isNone := by
  have first : (indices.map indexKey).filter (fun key => (indexOf (some key)).isNone) = [] := by
    rw [List.filter_eq_nil_iff]
    intro key inside
    obtain ⟨index, here, rfl⟩ := List.mem_map.mp inside
    rw [indexOf_isNone_iff]
    intro different
    exact different index (small index here) rfl
  have rest : named.filter (fun key => (indexOf (some key)).isNone) = named := by
    rw [List.filter_eq_self]
    intro key inside
    exact (indexOf_isNone_iff key).mpr (others key inside)
  have here : keys.filter (fun key => (indexOf (some key)).isNone) = named := by
    rw [split, List.filter_append, first, rest, List.nil_append]
  have sub : named.Sublist (names.filter fun key => (indexOf (some key)).isNone) := by
    rw [← rest]
    exact order.filter _
  have same : (keys.filter fun key => (indexOf (some key)).isNone).Perm
      (names.filter fun key => (indexOf (some key)).isNone) :=
    ((List.perm_ext_iff_of_nodup keysDistinct distinct).mpr complete).filter _
  rw [here] at same ⊢
  exact sub.eq_of_length same.length_eq

/-! ## The keys of the target -/

/-- Pointers that were there before keep what they denote, and names their pointers. -/
structure Extends (before after : Pointers) : Prop where
  prototype : after.runtime.objectPrototype = before.runtime.objectPrototype
  scripts : after.runtime.scripts = before.runtime.scripts
  symbolScripts : after.symbolScripts = before.symbolScripts
  wrappers : before.runtime.wrappers <+: after.runtime.wrappers
  table : before.runtime.propNameIDs <+: after.runtime.propNameIDs
  symbols : before.symbols <+: after.symbols

theorem Extends.refl (pointers : Pointers) : Extends pointers pointers :=
  ⟨rfl, rfl, rfl, List.prefix_rfl, List.prefix_rfl, List.prefix_rfl⟩

theorem Extends.trans {first second third : Pointers} (early : Extends first second)
    (late : Extends second third) : Extends first third :=
  ⟨late.prototype.trans early.prototype, late.scripts.trans early.scripts,
    late.symbolScripts.trans early.symbolScripts, early.wrappers.trans late.wrappers,
    early.table.trans late.table, early.symbols.trans late.symbols⟩

theorem Extends.wrapper {before after : Pointers} (grown : Extends before after)
    {propNameRef : Nat} (held : propNameRef < before.runtime.wrappers.length) :
    after.runtime.wrappers[propNameRef]? = before.runtime.wrappers[propNameRef]? := by
  obtain ⟨made, more⟩ := grown.wrappers
  rw [← more, List.getElem?_append_left held]

theorem Extends.symbol {before after : Pointers} (grown : Extends before after) {pointer : Nat}
    (held : pointer < before.symbols.length) :
    after.symbols[pointer]? = before.symbols[pointer]? := by
  obtain ⟨made, more⟩ := grown.symbols
  rw [← more, List.getElem?_append_left held]

theorem Extends.denotes {before after : Pointers} (grown : Extends before after)
    {pointer : KeyPointer} (held : before.holds pointer) :
    after.denotes pointer = before.denotes pointer := by
  cases pointer with
  | string propNameRef =>
    simp only [Pointers.denotes, Pointers.getNodeApiValue, NodeApiJsiRuntime.getNodeApiValue,
      grown.wrapper held, grown.scripts]
  | symbol pointer =>
    simp only [Pointers.denotes, Pointers.getNodeApiValue, grown.symbol held, grown.symbolScripts]

theorem Extends.lookup {before after : Pointers} (grown : Extends before after)
    {bytes : List UInt8} {propNameRef : Nat}
    (found : before.runtime.propNameIDs.lookup bytes = some propNameRef) :
    after.runtime.propNameIDs.lookup bytes = some propNameRef := by
  obtain ⟨made, more⟩ := grown.table
  rw [← more, List.lookup_append, found]
  rfl

theorem Extends.absent {before after : Pointers} (grown : Extends before after)
    {bytes : List UInt8} (missing : after.runtime.propNameIDs.lookup bytes = none) :
    before.runtime.propNameIDs.lookup bytes = none := by
  cases early : before.runtime.propNameIDs.lookup bytes with
  | none => rfl
  | some propNameRef =>
    rw [grown.lookup early] at missing
    cases missing

/-- A name that the table has denotes a string when it is read as that. -/
theorem denotes_of_utf16 {pointers : Pointers} {propNameRef : Nat} {units : JsString}
    (read : pointers.runtime.utf16 propNameRef = some units) :
    pointers.denotes (.string propNameRef) = some (.string units) := by
  rw [Pointers.denotes, Pointers.getNodeApiValue, PropNames.utf16_eq_some.mp read]
  rfl

theorem utf16_of_denotes {pointers : Pointers} {propNameRef : Nat} {units : JsString}
    (denoted : pointers.denotes (.string propNameRef) = some (.string units)) :
    pointers.runtime.utf16 propNameRef = some units := by
  obtain ⟨value, read, key⟩ := Option.bind_eq_some_iff.mp denoted
  rw [PropNames.utf16_eq_some]
  cases value with
  | string other =>
    cases key
    exact read
  | undefined | symbol _ | other _ => cases key

/-- A string of the target has the pointer of the table, or a new one that enters it. -/
theorem createPropNameID_string {pointers after : Pointers} {units : JsString}
    {pointer : KeyPointer}
    (created : createPropNameID pointers (.string units) = .ok (after, pointer)) :
    (∃ propNameRef, pointers.runtime.propNameIDs.lookup (utf8 units) = some propNameRef ∧
        after = pointers ∧ pointer = .string propNameRef) ∨
      (∃ props wrapper, pointers.runtime.propNameIDs.lookup (utf8 units) = none ∧
        (pointers.runtime.objectPrototype units).ownNames units = some props ∧
        pointers.runtime.scripts.setNamedProperty pointers.runtime.wrappers.length
          (element props 0) = some wrapper ∧
        pointer = .string pointers.runtime.wrappers.length ∧
        after = { pointers with
          runtime := { pointers.runtime with
            wrappers := pointers.runtime.wrappers ++ [wrapper]
            propNameIDs := pointers.runtime.propNameIDs ++
              [(utf8 units, pointers.runtime.wrappers.length)] } }) := by
  rw [createPropNameID, NodeApiJsiRuntime.createPropNameIDFromString,
    NodeApiJsiRuntime.internBytes] at created
  cases found : pointers.runtime.propNameIDs.lookup (utf8 units) with
  | some propNameRef =>
    rw [found] at created
    cases created
    exact .inl ⟨propNameRef, rfl, rfl, rfl⟩
  | none =>
    rw [found] at created
    rcases PropNames.makePropName_cases pointers.runtime units with
      ⟨-, thrown⟩ | ⟨props, names, ⟨-, failed⟩ | ⟨wrapper, stored, made⟩⟩
    · rw [thrown] at created
      cases created
    · rw [failed] at created
      cases created
    · rw [made] at created
      cases created
      exact .inr ⟨props, wrapper, rfl, names, stored, rfl, rfl⟩

/-- The pointer that the loop has found or made for a key. -/
def Given (initial current : Pointers) : PropertyKey → KeyPointer → Prop
  | .string units, pointer => ∃ propNameRef, pointer = .string propNameRef ∧
      current.runtime.propNameIDs.lookup (utf8 units) = some propNameRef ∧
      (initial.runtime.propNameIDs.lookup (utf8 units) = some propNameRef ∨
        initial.runtime.propNameIDs.lookup (utf8 units) = none ∧
          initial.runtime.wrappers.length ≤ propNameRef ∧
          ∃ props wrapper, (initial.runtime.objectPrototype units).ownNames units = some props ∧
            initial.runtime.scripts.setNamedProperty propNameRef (element props 0) =
              some wrapper ∧
            current.runtime.wrappers[propNameRef]? = some wrapper)
  | .symbol identity, pointer => ∃ index, pointer = .symbol index ∧
      initial.symbols.length ≤ index ∧
      current.symbols[index]? = some (.own (.symbol identity))

theorem Given.later {initial current next : Pointers} (grown : Extends current next)
    {key : PropertyKey} {pointer : KeyPointer} (given : Given initial current key pointer) :
    Given initial next key pointer := by
  cases key with
  | string units =>
    obtain ⟨propNameRef, same, found, origin⟩ := given
    refine ⟨propNameRef, same, grown.lookup found, ?_⟩
    rcases origin with early | ⟨absent, new, props, wrapper, names, stored, held⟩
    · exact .inl early
    · refine .inr ⟨absent, new, props, wrapper, names, stored, ?_⟩
      rw [grown.wrapper (List.getElem?_eq_some_iff.mp held).1, held]
  | symbol identity =>
    obtain ⟨index, same, new, value⟩ := given
    refine ⟨index, same, new, ?_⟩
    rw [grown.symbol (List.getElem?_eq_some_iff.mp value).1, value]

/-- The loop over the keys of the target, between two of them. -/
structure Progress (initial : Pointers) (names : List PropertyKey) (current : Pointers)
    (ownKeys : List KeyPointer) : Prop where
  grown : Extends initial current
  entries : ∀ bytes propNameRef, current.runtime.propNameIDs.lookup bytes = some propNameRef →
    initial.runtime.propNameIDs.lookup bytes = none →
    .string propNameRef ∈ ownKeys ∧ ∃ units, .string units ∈ names ∧ utf8 units = bytes
  distinct : ownKeys.Nodup
  given : List.Forall₂ (Given initial current) names ownKeys

theorem Progress.start (initial : Pointers) : Progress initial [] initial [] := by
  refine ⟨Extends.refl initial, ?_, List.nodup_nil, .nil⟩
  intro bytes propNameRef found absent
  rw [absent] at found
  cases found

/-- One key more, for which the table has at most its own entry more. -/
theorem Progress.add {initial current next : Pointers} {names : List PropertyKey}
    {ownKeys : List KeyPointer} {key : PropertyKey} {pointer : KeyPointer}
    (progress : Progress initial names current ownKeys) (grown : Extends current next)
    (new : pointer ∉ ownKeys) (given : Given initial next key pointer)
    (entries : ∀ bytes propNameRef,
      next.runtime.propNameIDs.lookup bytes = some propNameRef →
      current.runtime.propNameIDs.lookup bytes = some propNameRef ∨
        pointer = .string propNameRef ∧ ∃ units, key = .string units ∧ utf8 units = bytes) :
    Progress initial (names ++ [key]) next (ownKeys ++ [pointer]) := by
  refine ⟨progress.grown.trans grown, ?_, ?_, ?_⟩
  · intro bytes propNameRef found absent
    rcases entries bytes propNameRef found with early | ⟨rfl, units, rfl, form⟩
    · obtain ⟨inside, units, named, form⟩ := progress.entries bytes propNameRef early absent
      exact ⟨List.mem_append_left _ inside, units, List.mem_append_left _ named, form⟩
    · exact ⟨by simp, units, by simp, form⟩
  · rw [← List.concat_eq_append]
    exact progress.distinct.concat new
  · exact List.rel_append (progress.given.imp fun _ _ => Given.later grown) (.cons given .nil)

theorem Progress.step {initial current next : Pointers} {names : List PropertyKey}
    {ownKeys : List KeyPointer} {key : PropertyKey} {pointer : KeyPointer}
    (progress : Progress initial names current ownKeys)
    (created : createPropNameID current key = .ok (next, pointer)) (new : pointer ∉ ownKeys) :
    Progress initial (names ++ [key]) next (ownKeys ++ [pointer]) := by
  cases key with
  | string units =>
    rcases createPropNameID_string created with
      ⟨propNameRef, found, rfl, rfl⟩ | ⟨props, wrapper, absent, names, stored, rfl, rfl⟩
    · refine progress.add (Extends.refl _) new ⟨propNameRef, rfl, found, .inl ?_⟩
        fun _ _ early => .inl early
      cases origin : initial.runtime.propNameIDs.lookup (utf8 units) with
      | none => exact absurd (progress.entries _ _ found origin).1 new
      | some other => exact (progress.grown.lookup origin).symm.trans found
    · refine progress.add ⟨rfl, rfl, rfl, List.prefix_append _ _, List.prefix_append _ _,
          List.prefix_rfl⟩ new
        ⟨_, rfl, PropNames.lookup_append_self absent _, .inr ⟨progress.grown.absent absent,
          progress.grown.wrappers.length_le, props, wrapper, ?_, ?_, by simp⟩⟩ ?_
      · rw [← progress.grown.prototype]
        exact names
      · rw [← progress.grown.scripts]
        exact stored
      · intro bytes propNameRef found
        rw [List.lookup_append] at found
        cases early : current.runtime.propNameIDs.lookup bytes with
        | some other =>
          rw [early, Option.some_or] at found
          exact .inl found
        | none =>
          rw [early, Option.none_or] at found
          have entry := PropNames.mem_of_lookup found
          rw [List.mem_singleton] at entry
          cases entry
          exact .inr ⟨rfl, units, rfl, rfl⟩
  | symbol identity =>
    cases created
    exact progress.add ⟨rfl, rfl, rfl, List.prefix_rfl, List.prefix_rfl, List.prefix_append _ _⟩ new
      ⟨_, rfl, progress.grown.symbols.length_le, by simp⟩ fun _ _ early => .inl early

/-- What the loop has done when it ends. -/
theorem readTargetKeys_progress (hostObjectSymbol : Nat) (initial final : Pointers)
    (keys : List KeyPointer) (rest : List PropertyKey) :
    ∀ (names : List PropertyKey) (current : Pointers) (ownKeys : List KeyPointer),
      Progress initial names current ownKeys →
      readTargetKeys hostObjectSymbol rest current ownKeys = .ok (final, keys) →
      Progress initial (names ++ rest.filter (· ≠ .symbol hostObjectSymbol)) final keys := by
  induction rest with
  | nil =>
    intro names current ownKeys progress done
    cases done
    rwa [List.filter_nil, List.append_nil]
  | cons key rest ih =>
    intro names current ownKeys progress done
    rw [readTargetKeys] at done
    by_cases marked : key = .symbol hostObjectSymbol
    · rw [if_pos marked] at done
      have later := ih names current ownKeys progress done
      rwa [List.filter_cons_of_neg (by simp [marked])]
    · rw [if_neg marked] at done
      cases created : createPropNameID current key with
      | error failure =>
        rw [created] at done
        cases done
      | ok result =>
        obtain ⟨next, pointer⟩ := result
        rw [created] at done
        dsimp only at done
        rw [addPropNameId] at done
        by_cases seen : pointer ∈ ownKeys
        · rw [if_pos seen] at done
          cases done
        · rw [if_neg seen] at done
          have later := ih _ next _ (progress.step created seen) done
          rw [List.append_assoc, List.singleton_append] at later
          rwa [List.filter_cons_of_pos (by simp [marked])]

/-- A pointer that was found or made for a string that is spelled so denotes it. -/
theorem Given.denotes {initial current : Pointers} (grown : Extends initial current)
    {key : PropertyKey} {pointer : KeyPointer} (given : Given initial current key pointer)
    (spelled : ∀ units, key = .string units → Spelled initial.runtime units) :
    current.denotes pointer = some key := by
  cases key with
  | string units =>
    obtain ⟨propNameRef, rfl, -, early | fresh⟩ := given
    · have read := (spelled units rfl).1 propNameRef early
      have held := PropNames.getNodeApiValue_inside (PropNames.utf16_eq_some.mp read)
      have kept : current.denotes (.string propNameRef) = _ := grown.denotes held
      rw [kept, denotes_of_utf16 read]
    · obtain ⟨absent, new, props, wrapper, names, stored, held⟩ := fresh
      obtain ⟨others, made, readsAs⟩ := (spelled units rfl).2 absent
      rw [names] at made
      cases made
      obtain ⟨wrapped, wraps, read⟩ := (readsAs_iff ..).mp (readsAs propNameRef new)
      obtain rfl := Option.some.inj (wraps.symm.trans stored)
      rw [Pointers.denotes, Pointers.getNodeApiValue, NodeApiJsiRuntime.getNodeApiValue, held,
        grown.scripts, Option.bind_some, read]
      rfl
  | symbol identity =>
    obtain ⟨index, rfl, -, held⟩ := given
    rw [Pointers.denotes, Pointers.getNodeApiValue, held]
    rfl

theorem Progress.denotes {initial current : Pointers} {names : List PropertyKey}
    {ownKeys : List KeyPointer} (progress : Progress initial names current ownKeys)
    (spelled : ∀ units, .string units ∈ names → Spelled initial.runtime units) :
    ownKeys.map current.denotes = names.map some := by
  have grown := progress.grown
  have given := progress.given
  clear progress
  induction given with
  | nil => rfl
  | cons first rest ih =>
    rw [List.map_cons, List.map_cons, ih fun units inside => spelled units (.tail _ inside),
      first.denotes grown fun units same => spelled units (same ▸ .head _)]

/-- The pointer of a key that is next is new, when strings are spelled as they are and have
forms of their own. -/
theorem Progress.next {initial current : Pointers} {names : List PropertyKey}
    {ownKeys : List KeyPointer} (progress : Progress initial names current ownKeys)
    {key : PropertyKey} (first : key ∉ names)
    (spelled : ∀ units, .string units ∈ names ++ [key] → Spelled initial.runtime units)
    (forms : ∀ left right, .string left ∈ names ++ [key] → .string right ∈ names ++ [key] →
      utf8 left = utf8 right → left = right) :
    ∃ next pointer, createPropNameID current key = .ok (next, pointer) ∧ pointer ∉ ownKeys := by
  have denoted := progress.denotes fun units inside => spelled units (List.mem_append_left _ inside)
  have some_of_mem {pointer : KeyPointer} (inside : pointer ∈ ownKeys) :
      ∃ name ∈ names, current.denotes pointer = some name := by
    have image := List.mem_map_of_mem (f := current.denotes) inside
    rw [denoted] at image
    obtain ⟨name, here, same⟩ := List.mem_map.mp image
    exact ⟨name, here, same.symm⟩
  cases key with
  | string units =>
    have here : PropertyKey.string units ∈ names ++ [.string units] := by simp
    rw [createPropNameID, NodeApiJsiRuntime.createPropNameIDFromString,
      NodeApiJsiRuntime.internBytes]
    cases found : current.runtime.propNameIDs.lookup (utf8 units) with
    | some propNameRef =>
      refine ⟨_, _, rfl, fun inside => ?_⟩
      cases early : initial.runtime.propNameIDs.lookup (utf8 units) with
      | none =>
        obtain ⟨-, other, named, form⟩ := progress.entries _ _ found early
        have same := forms other units (List.mem_append_left _ named) here form
        rw [same] at named
        exact first named
      | some other =>
        obtain rfl := Option.some.inj ((progress.grown.lookup early).symm.trans found)
        have read := (spelled units here).1 other early
        have held := PropNames.getNodeApiValue_inside (PropNames.utf16_eq_some.mp read)
        obtain ⟨name, named, denotes⟩ := some_of_mem inside
        have kept : current.denotes (.string other) = _ := progress.grown.denotes held
        rw [kept, denotes_of_utf16 read] at denotes
        cases denotes
        exact first named
    | none =>
      obtain ⟨props, names, readsAs⟩ := (spelled units here).2 (progress.grown.absent found)
      obtain ⟨wrapper, stored, -⟩ := (readsAs_iff ..).mp
        (readsAs current.runtime.wrappers.length progress.grown.wrappers.length_le)
      rw [← progress.grown.prototype] at names
      rw [← progress.grown.scripts] at stored
      refine ⟨_, _, by rw [NodeApiJsiRuntime.makePropName, names]; dsimp only; rw [stored]; rfl,
        fun inside => ?_⟩
      obtain ⟨name, -, denotes⟩ := some_of_mem inside
      simp [Pointers.denotes, Pointers.getNodeApiValue,
        NodeApiJsiRuntime.getNodeApiValue] at denotes
  | symbol identity =>
    refine ⟨_, _, rfl, fun inside => ?_⟩
    obtain ⟨name, -, denotes⟩ := some_of_mem inside
    simp [Pointers.denotes, Pointers.getNodeApiValue] at denotes

theorem readTargetKeys_succeeds (hostObjectSymbol : Nat) (initial : Pointers)
    (rest : List PropertyKey) :
    ∀ (names : List PropertyKey) (current : Pointers) (ownKeys : List KeyPointer),
      Progress initial names current ownKeys →
      (names ++ rest.filter (· ≠ .symbol hostObjectSymbol)).Nodup →
      (∀ units, .string units ∈ names ++ rest.filter (· ≠ .symbol hostObjectSymbol) →
        Spelled initial.runtime units) →
      (∀ left right, .string left ∈ names ++ rest.filter (· ≠ .symbol hostObjectSymbol) →
        .string right ∈ names ++ rest.filter (· ≠ .symbol hostObjectSymbol) →
        utf8 left = utf8 right → left = right) →
      ∃ final keys, readTargetKeys hostObjectSymbol rest current ownKeys = .ok (final, keys) := by
  induction rest with
  | nil =>
    intro names current ownKeys _ _ _ _
    exact ⟨current, ownKeys, rfl⟩
  | cons key rest ih =>
    intro names current ownKeys progress distinct spelled forms
    rw [readTargetKeys]
    by_cases marked : key = .symbol hostObjectSymbol
    · rw [List.filter_cons_of_neg (by simp [marked])] at distinct spelled forms
      rw [if_pos marked]
      exact ih names current ownKeys progress distinct spelled forms
    · rw [List.filter_cons_of_pos (by simp [marked]), ← List.singleton_append,
        ← List.append_assoc] at distinct spelled forms
      have sub {other : PropertyKey} (inside : other ∈ names ++ [key]) :=
        List.mem_append_left (rest.filter (· ≠ .symbol hostObjectSymbol)) inside
      have first : key ∉ names := fun inside =>
        (List.nodup_append.mp (List.nodup_append.mp distinct).1).2.2 key inside key (by simp) rfl
      obtain ⟨next, pointer, created, new⟩ := progress.next first
        (fun units inside => spelled units (sub inside))
        (fun left right leftInside rightInside => forms left right (sub leftInside)
          (sub rightInside))
      rw [if_neg marked, created]
      dsimp only
      rw [addPropNameId, if_neg new]
      exact ih _ next _ (progress.step created new) distinct spelled forms

end V8Jsi.HostObjectKeys
