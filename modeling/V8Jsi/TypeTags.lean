import Mathlib.Data.List.DropRight
import Mathlib.Logic.Function.Basic
import V8Jsi.BigIntText

set_option autoImplicit false

/- `napi_type_tag_object` and `napi_check_object_type_tag` of js_native_api_v8.cc. An object has its
tag in a BigInt under a private key, and an external has it in its `ExternalWrapper`. -/
namespace V8Jsi.TypeTags

open BigIntText

structure NapiTypeTag where
  lower : UInt64
  upper : UInt64
  deriving DecidableEq, Repr

inductive NapiStatus
  | ok
  | invalidArg
  | pendingException
  deriving DecidableEq, Repr

/-- What a `napi_value` is. A primitive is not one of `undefined` and `null`. -/
inductive Value
  | object (address : Nat)
  | external (address : Nat)
  | primitive
  | nullish
  deriving DecidableEq, Repr

/-! ## BigInt words -/

theorem normalised_rdropWhile (words : List UInt64) :
    (words.rdropWhile (· = 0)).getLast? ≠ some 0 := by
  intro zero
  obtain ⟨nonempty, last⟩ := List.mem_getLast?_eq_getLast zero
  exact List.rdropWhile_last_not _ words nonempty (by simp [← last])

/-- `v8::BigInt::NewFromWords`. There is no negative zero. -/
def newFromWords (signBit : Bool) (words : List UInt64) : BigInt where
  signBit := signBit && !(words.rdropWhile (· = 0)).isEmpty
  words := words.rdropWhile (· = 0)
  normalised := normalised_rdropWhile words

/-- `ToWordsArray`: the sign, how many words there are, and those that fit the buffer. -/
def toWordsArray (value : BigInt) (wordCount : Nat) : Bool × Nat × List UInt64 :=
  (value.signBit, value.words.length, value.words.take wordCount)

/-! ## The functions -/

structure ExternalWrapper where
  typeTag : NapiTypeTag := ⟨0, 0⟩
  hasTag : Bool := false
  deriving DecidableEq, Repr

/-- The private properties `type_tag` of the objects, the wrappers of the externals, and whether an
exception is pending. -/
structure Env where
  privates : Nat → Option BigInt := fun _ => none
  wrappers : Nat → ExternalWrapper := fun _ => {}
  lastException : Bool := false

namespace ExternalWrapper

/-- A null `type_tag` is read, which `none` stands for, unless there is a tag already. -/
def setTypeTag (wrapper : ExternalWrapper) (typeTag : Option NapiTypeTag) :
    Option (Bool × ExternalWrapper) :=
  if wrapper.hasTag then some (false, wrapper)
  else typeTag.map fun typeTag => (true, { typeTag, hasTag := true })

def checkTypeTag (wrapper : ExternalWrapper) (typeTag : Option NapiTypeTag) : Option Bool :=
  if wrapper.hasTag then
    typeTag.map fun typeTag =>
      typeTag.lower = wrapper.typeTag.lower && typeTag.upper = wrapper.typeTag.upper
  else some false

end ExternalWrapper

/-- The `TryCatch` of the preamble keeps the exception of `ToObject`. -/
def napiTypeTagObject (env : Env) (objectOrExternal : Option Value)
    (typeTag : Option NapiTypeTag) : Option (NapiStatus × Env) :=
  if env.lastException then some (.pendingException, env)
  else
    match objectOrExternal with
    | none => some (.invalidArg, env)
    | some (.external address) => do
        let (tagged, wrapper) ← (env.wrappers address).setTypeTag typeTag
        let env := { env with wrappers := Function.update env.wrappers address wrapper }
        return (if tagged then .ok else .invalidArg, env)
    | some .nullish => some (.pendingException, { env with lastException := true })
    | some .primitive =>
        -- the tag goes to an object that `ToObject` has made
        some (if typeTag.isNone then .invalidArg else .ok, env)
    | some (.object address) =>
        match typeTag with
        | none => some (.invalidArg, env)
        | some typeTag =>
            if (env.privates address).isSome then some (.invalidArg, env)
            else
              let tag := newFromWords false [typeTag.lower, typeTag.upper]
              some (.ok, { env with
                privates := Function.update env.privates address (some tag) })

/-- The comparison of the words of a BigInt with a tag. -/
def compareTag (value : BigInt) (typeTag : NapiTypeTag) : Bool :=
  let (sign, size, words) := toWordsArray value 2
  if sign then false
  else if size = 2 then words[0]? = some typeTag.lower && words[1]? = some typeTag.upper
  else if size = 1 then words[0]? = some typeTag.lower && typeTag.upper = 0
  else if size = 0 then typeTag.lower = 0 && typeTag.upper = 0
  else false

/-- The result is set only with the status `ok`. -/
def napiCheckObjectTypeTag (env : Env) (objectOrExternal : Option Value)
    (typeTag : Option NapiTypeTag) : Option (NapiStatus × Option Bool × Env) :=
  if env.lastException then some (.pendingException, none, env)
  else
    match objectOrExternal with
    | none => some (.invalidArg, none, env)
    | some (.external address) => do
        let result ← (env.wrappers address).checkTypeTag typeTag
        return (.ok, some result, env)
    | some .nullish => some (.pendingException, none, { env with lastException := true })
    | some .primitive =>
        some (if typeTag.isNone then (.invalidArg, none, env) else (.ok, some false, env))
    | some (.object address) =>
        match typeTag with
        | none => some (.invalidArg, none, env)
        | some typeTag =>
            match env.privates address with
            | none => some (.ok, some false, env)
            | some value => some (.ok, some (compareTag value typeTag), env)

inductive Command
  | tag (value : Option Value) (typeTag : Option NapiTypeTag)
  | check (value : Option Value) (typeTag : Option NapiTypeTag)
  | clearException
  deriving DecidableEq, Repr

def step (env : Env) : Command → Option ((NapiStatus × Option Bool) × Env)
  | .tag value typeTag =>
      (napiTypeTagObject env value typeTag).map fun (status, env) => ((status, none), env)
  | .check value typeTag =>
      (napiCheckObjectTypeTag env value typeTag).map fun (status, result, env) =>
        ((status, result), env)
  | .clearException => some ((.ok, none), { env with lastException := false })

def run (env : Env) : List Command → Option (List (NapiStatus × Option Bool) × Env)
  | [] => some ([], env)
  | command :: commands => do
      let (answer, env) ← step env command
      let (answers, env) ← run env commands
      return (answer :: answers, env)

/-! ## Tags that are written once -/

structure Tags where
  tags : Value → Option NapiTypeTag := fun _ => none
  lastException : Bool := false

/-- Primitives keep no tag. -/
def Value.keepsTag : Value → Bool
  | .object _ | .external _ => true
  | .primitive | .nullish => false

namespace Tags

/-- The same checks for every kind of value, but that a null tag of an external is not allowed. -/
def access (state : Tags) (value : Option Value) (typeTag : Option NapiTypeTag)
    (given : Value → NapiTypeTag → (NapiStatus × Option Bool) × Tags) :
    Option ((NapiStatus × Option Bool) × Tags) :=
  if state.lastException then some ((.pendingException, none), state)
  else
    match value, typeTag with
    | none, _ => some ((.invalidArg, none), state)
    | some .nullish, _ => some ((.pendingException, none), { state with lastException := true })
    | some (.external _), none => none
    | some _, none => some ((.invalidArg, none), state)
    | some value, some typeTag => some (given value typeTag)

def step (state : Tags) : Command → Option ((NapiStatus × Option Bool) × Tags)
  | .tag value typeTag => state.access value typeTag fun value typeTag =>
      if !value.keepsTag then ((.ok, none), state)
      else if (state.tags value).isSome then ((.invalidArg, none), state)
      else ((.ok, none), { state with tags := Function.update state.tags value (some typeTag) })
  | .check value typeTag => state.access value typeTag fun value typeTag =>
      ((.ok, some (state.tags value = some typeTag)), state)
  | .clearException => some ((.ok, none), { state with lastException := false })

def run (state : Tags) : List Command → Option (List (NapiStatus × Option Bool) × Tags)
  | [] => some ([], state)
  | command :: commands => do
      let (answer, state) ← state.step command
      let (answers, state) ← state.run commands
      return (answer :: answers, state)

end Tags

/-! ## The two places of a tag -/

def tagBigInt (typeTag : NapiTypeTag) : BigInt := newFromWords false [typeTag.lower, typeTag.upper]

/-- High words that are zero are dropped. -/
theorem tagBigInt_words (typeTag : NapiTypeTag) :
    (tagBigInt typeTag).words =
      if typeTag.upper ≠ 0 then [typeTag.lower, typeTag.upper]
      else if typeTag.lower ≠ 0 then [typeTag.lower] else [] := by
  rw [tagBigInt, newFromWords]
  by_cases upper : typeTag.upper = 0
  · by_cases lower : typeTag.lower = 0 <;> simp [List.rdropWhile, upper, lower]
  · simp [List.rdropWhile, upper]

theorem compareTag_tagBigInt (typeTag other : NapiTypeTag) :
    compareTag (tagBigInt typeTag) other = decide (typeTag = other) := by
  have sign : (tagBigInt typeTag).signBit = false := rfl
  obtain ⟨lower, upper⟩ := typeTag
  obtain ⟨lower', upper'⟩ := other
  rw [compareTag, toWordsArray, sign, tagBigInt_words]
  by_cases high : upper = 0
  · by_cases low : lower = 0
    · subst high low
      simp [eq_comm]
    · subst high
      simp [low, eq_comm]
  · simp [high]

@[simp] def wrapperOf : Option NapiTypeTag → ExternalWrapper
  | none => {}
  | some typeTag => { typeTag, hasTag := true }

/-- The tags are where the functions look for them. -/
structure Stores (env : Env) (state : Tags) : Prop where
  lastException : env.lastException = state.lastException
  object : ∀ address, env.privates address = (state.tags (.object address)).map tagBigInt
  external : ∀ address, env.wrappers address = wrapperOf (state.tags (.external address))
  other : ∀ value, value.keepsTag = false → state.tags value = none

theorem Stores.pending {env : Env} {state : Tags} (stores : Stores env state) (pending : Bool) :
    Stores { env with lastException := pending } { state with lastException := pending } :=
  ⟨rfl, stores.object, stores.external, stores.other⟩

theorem Stores.keeps {env : Env} {state : Tags} (stores : Stores env state) {value : Value}
    (keepsTag : value.keepsTag = true) (typeTag : NapiTypeTag) :
    ∀ other : Value, other.keepsTag = false →
      Function.update state.tags value (some typeTag) other = none := by
  intro other keeps
  have different : other ≠ value := by
    rintro rfl
    rw [keepsTag] at keeps
    cases keeps
  rw [Function.update_of_ne different]
  exact stores.other other keeps

theorem Stores.tag_object {env : Env} {state : Tags} (stores : Stores env state) (address : Nat)
    (typeTag : NapiTypeTag) :
    Stores
      { env with privates := Function.update env.privates address (some (tagBigInt typeTag)) }
      { state with tags := Function.update state.tags (.object address) (some typeTag) } := by
  refine ⟨stores.lastException, fun x => ?_, fun x => ?_, stores.keeps rfl typeTag⟩
  · obtain rfl | other := eq_or_ne x address
    · simp
    · have apart : Value.object x ≠ .object address := by simpa using other
      simp [Function.update_of_ne other, Function.update_of_ne apart, stores.object x]
  · have apart : Value.external x ≠ .object address := by simp
    simpa [Function.update_of_ne apart] using stores.external x

theorem Stores.tag_external {env : Env} {state : Tags} (stores : Stores env state) (address : Nat)
    (typeTag : NapiTypeTag) :
    Stores
      { env with wrappers := Function.update env.wrappers address { typeTag, hasTag := true } }
      { state with tags := Function.update state.tags (.external address) (some typeTag) } := by
  refine ⟨stores.lastException, fun x => ?_, fun x => ?_, stores.keeps rfl typeTag⟩
  · have apart : Value.object x ≠ .external address := by simp
    simpa [Function.update_of_ne apart] using stores.object x
  · obtain rfl | other := eq_or_ne x address
    · simp
    · have apart : Value.external x ≠ .external address := by simpa using other
      simpa [Function.update_of_ne other, Function.update_of_ne apart] using stores.external x

theorem Stores.tag {env : Env} {state after : Tags} {value : Option Value}
    {typeTag : Option NapiTypeTag} {answer : NapiStatus × Option Bool} (stores : Stores env state)
    (stepped : state.step (.tag value typeTag) = some (answer, after)) :
    ∃ next, TypeTags.step env (.tag value typeTag) = some (answer, next) ∧ Stores next after := by
  obtain ⟨privates, wrappers, pending⟩ := env
  obtain ⟨tags, _⟩ := state
  obtain rfl := stores.lastException
  cases pending with
  | true =>
    cases stepped
    exact ⟨_, rfl, stores⟩
  | false =>
    match value, typeTag with
    | none, typeTag | some .primitive, none | some .primitive, some _ | some (.object _), none =>
      cases stepped
      exact ⟨_, rfl, stores⟩
    | some .nullish, typeTag =>
      cases stepped
      exact ⟨_, rfl, stores.pending true⟩
    | some (.external address), none => cases stepped
    | some (.object address), some typeTag =>
      have stored : privates address = (tags (.object address)).map tagBigInt :=
        stores.object address
      cases tagged : tags (.object address) with
      | none =>
        rw [tagged, Option.map_none] at stored
        simp only [Tags.step, Tags.access, tagged] at stepped
        cases stepped
        refine ⟨_, ?_, stores.tag_object address typeTag⟩
        simp only [TypeTags.step, napiTypeTagObject, stored]
        rfl
      | some old =>
        rw [tagged, Option.map_some] at stored
        simp only [Tags.step, Tags.access, tagged] at stepped
        cases stepped
        refine ⟨_, ?_, stores⟩
        simp only [TypeTags.step, napiTypeTagObject, stored]
        rfl
    | some (.external address), some typeTag =>
      have stored : wrappers address = wrapperOf (tags (.external address)) :=
        stores.external address
      cases tagged : tags (.external address) with
      | none =>
        rw [tagged, wrapperOf] at stored
        simp only [Tags.step, Tags.access, tagged] at stepped
        cases stepped
        refine ⟨_, ?_, stores.tag_external address typeTag⟩
        simp only [TypeTags.step, napiTypeTagObject, stored]
        rfl
      | some old =>
        rw [tagged, wrapperOf] at stored
        simp only [Tags.step, Tags.access, tagged] at stepped
        cases stepped
        refine ⟨_, ?_, stores⟩
        have same : Function.update wrappers address { typeTag := old, hasTag := true } =
            wrappers := by rw [← stored, Function.update_eq_self]
        simp [TypeTags.step, napiTypeTagObject, stored, ExternalWrapper.setTypeTag, same]

theorem Stores.check {env : Env} {state after : Tags} {value : Option Value}
    {typeTag : Option NapiTypeTag} {answer : NapiStatus × Option Bool} (stores : Stores env state)
    (stepped : state.step (.check value typeTag) = some (answer, after)) :
    ∃ next, TypeTags.step env (.check value typeTag) = some (answer, next) ∧
      Stores next after := by
  obtain ⟨privates, wrappers, pending⟩ := env
  obtain ⟨tags, _⟩ := state
  obtain rfl := stores.lastException
  cases pending with
  | true =>
    cases stepped
    exact ⟨_, rfl, stores⟩
  | false =>
    match value, typeTag with
    | none, typeTag | some .primitive, none | some (.object _), none =>
      cases stepped
      exact ⟨_, rfl, stores⟩
    | some .nullish, typeTag =>
      cases stepped
      exact ⟨_, rfl, stores.pending true⟩
    | some (.external address), none => cases stepped
    | some .primitive, some typeTag =>
      have untagged : tags .primitive = none := stores.other .primitive rfl
      simp only [Tags.step, Tags.access, untagged] at stepped
      cases stepped
      exact ⟨_, rfl, stores⟩
    | some (.object address), some typeTag =>
      have stored : privates address = (tags (.object address)).map tagBigInt :=
        stores.object address
      cases tagged : tags (.object address) with
      | none =>
        rw [tagged, Option.map_none] at stored
        simp only [Tags.step, Tags.access, tagged] at stepped
        cases stepped
        refine ⟨_, ?_, stores⟩
        simp only [TypeTags.step, napiCheckObjectTypeTag, stored]
        rfl
      | some old =>
        rw [tagged, Option.map_some] at stored
        simp only [Tags.step, Tags.access, tagged] at stepped
        cases stepped
        refine ⟨_, ?_, stores⟩
        simp [TypeTags.step, napiCheckObjectTypeTag, stored, compareTag_tagBigInt]
    | some (.external address), some typeTag =>
      have stored : wrappers address = wrapperOf (tags (.external address)) :=
        stores.external address
      cases tagged : tags (.external address) with
      | none =>
        rw [tagged, wrapperOf] at stored
        simp only [Tags.step, Tags.access, tagged] at stepped
        cases stepped
        refine ⟨_, ?_, stores⟩
        simp only [TypeTags.step, napiCheckObjectTypeTag, stored]
        rfl
      | some old =>
        rw [tagged, wrapperOf] at stored
        simp only [Tags.step, Tags.access, tagged] at stepped
        cases stepped
        refine ⟨_, ?_, stores⟩
        obtain ⟨lower, upper⟩ := typeTag
        obtain ⟨lower', upper'⟩ := old
        simp [TypeTags.step, napiCheckObjectTypeTag, stored, ExternalWrapper.checkTypeTag,
          eq_comm]

theorem Stores.step {env : Env} {state after : Tags} {command : Command}
    {answer : NapiStatus × Option Bool} (stores : Stores env state)
    (stepped : state.step command = some (answer, after)) :
    ∃ next, TypeTags.step env command = some (answer, next) ∧ Stores next after := by
  cases command with
  | tag value typeTag => exact stores.tag stepped
  | check value typeTag => exact stores.check stepped
  | clearException =>
    cases stepped
    exact ⟨_, rfl, stores.pending false⟩

theorem Stores.run {commands : List Command} {env : Env} {state after : Tags}
    {answers : List (NapiStatus × Option Bool)} (stores : Stores env state)
    (ran : state.run commands = some (answers, after)) :
    ∃ next, TypeTags.run env commands = some (answers, next) ∧ Stores next after := by
  induction commands generalizing env state answers with
  | nil =>
    cases ran
    exact ⟨env, rfl, stores⟩
  | cons command commands ih =>
    simp only [Tags.run, Option.bind_eq_bind, Option.bind_eq_some_iff] at ran
    obtain ⟨⟨answer, middle⟩, stepped, ⟨later, last⟩, ran, result⟩ := ran
    cases result
    obtain ⟨next, stepped, stores⟩ := stores.step stepped
    obtain ⟨final, ran, stores⟩ := ih stores ran
    exact ⟨final, by simp [TypeTags.run, stepped, ran], stores⟩

theorem Stores.empty : Stores {} {} := ⟨rfl, fun _ => rfl, fun _ => rfl, fun _ _ => rfl⟩

/-- Any calls, on objects, externals and other values, that never pass a null pointer for the tag of
an external: a tag is written once, and a check says whether it is that tag. -/
theorem type_tags_exact (commands : List Command) (answers : List (NapiStatus × Option Bool))
    (state : Tags) (ran : Tags.run {} commands = some (answers, state)) :
    ∃ env, run {} commands = some (answers, env) ∧
      (∀ address, env.privates address = (state.tags (.object address)).map tagBigInt) ∧
      ∀ address, env.wrappers address = wrapperOf (state.tags (.external address)) := by
  obtain ⟨env, ran, stores⟩ := Stores.empty.run ran
  exact ⟨env, ran, stores.object, stores.external⟩

/-- An object has a tag without its high word, an external another, and both are asked. -/
theorem type_tags_exact_twice :
    ∃ env, run {} [.tag (some (.object 0)) (some ⟨7, 0⟩), .tag (some (.external 0)) (some ⟨0, 7⟩),
        .tag (some (.object 0)) (some ⟨0, 7⟩), .check (some (.object 0)) (some ⟨7, 0⟩),
        .check (some (.external 0)) (some ⟨7, 0⟩)] =
      some ([(.ok, none), (.ok, none), (.invalidArg, none), (.ok, some true),
        (.ok, some false)], env) := by
  obtain ⟨env, ran, -⟩ := type_tags_exact [.tag (some (.object 0)) (some ⟨7, 0⟩),
    .tag (some (.external 0)) (some ⟨0, 7⟩), .tag (some (.object 0)) (some ⟨0, 7⟩),
    .check (some (.object 0)) (some ⟨7, 0⟩), .check (some (.external 0)) (some ⟨7, 0⟩)] _ _ rfl
  exact ⟨env, ran⟩

end V8Jsi.TypeTags
