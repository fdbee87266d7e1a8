import Mathlib.Logic.Function.Basic
import V8Jsi.Lib.Outcome
import V8Jsi.V8Exceptions

set_option autoImplicit false

/- Compiling and running scripts with a store for code caches: `ExecuteString`,
`prepareJavaScript2` and `evaluatePreparedJavaScript2` of V8JsiRuntime.cpp over the
`V8ScriptCache` of v8_api.cpp. -/
namespace V8Jsi.ScriptCache

open Outcome V8Exceptions

/-- The text of a script. -/
abbrev Source : Type := List Char

/-- V8 compiles and runs a script by its text, whatever code cache it is given; a code
cache that it does not accept is only left out of use. -/
structure V8 (Script : Type) where
  engine : Engine
  compile : Source → Except JsValue Script
  run : Script → Except JsValue JsValue
  accepts : Source → List UInt8 → Bool
  createCodeCache : Script → List UInt8
  cachedDataVersionTag : UInt64

structure ScriptSignature where
  url : List Char
  version : UInt64
  deriving DecidableEq, Repr

structure JSRuntimeSignature where
  runtimeName : List Char
  version : UInt64
  deriving DecidableEq, Repr

structure Key where
  scriptSignature : ScriptSignature
  runtimeSignature : JSRuntimeSignature
  prepareTag : List Char
  deriving DecidableEq, Repr

/-- The store behind the callbacks of `V8ScriptCache`. -/
abbrev PreparedScriptStore : Type := Key → Option (List UInt8)

/-- An empty buffer counts as none. -/
def tryGetPreparedScript (store : PreparedScriptStore) (key : Key) : Option (List UInt8) :=
  match store key with
  | some buffer => if buffer.length ≠ 0 then some buffer else none
  | none => none

def persistPreparedScript (store : PreparedScriptStore) (key : Key) (preparedScript : List UInt8) :
    PreparedScriptStore :=
  Function.update store key (some preparedScript)

inductive CompileOptions
  | noCompileOptions
  | consumeCodeCache
  | eagerCompile
  deriving DecidableEq, Repr

structure V8PreparedJavaScript (Script : Type) where
  key : Key
  buffer : List UInt8
  sourceBuffer : Source
  script : Script

section

variable {Script : Type}

def scriptKey (v8 : V8 Script) (sourceURL : List Char) (hash : UInt64) : Key where
  scriptSignature := ⟨sourceURL, hash⟩
  runtimeSignature := ⟨['V', '8'], v8.cachedDataVersionTag⟩
  prepareTag := ['p', 'e', 'r', 'f']

/-- `ReportException` always throws. -/
def report {α : Type} (v8 : V8 Script) (realm : Realm) (exception : JsValue) : Except Raised α :=
  .error (reportException v8.engine realm exception)

/-- The store is null when none was configured. -/
def executeString (v8 : V8 Script) (realm : Realm) (store : Option PreparedScriptStore)
    (source : Source) (sourceURL : List Char) (hash : UInt64) :
    Except Raised (JsValue × Option PreparedScriptStore) :=
  let key := scriptKey v8 sourceURL hash
  let cache := store.bind (tryGetPreparedScript · key)
  let options : CompileOptions :=
    if cache.isSome then .consumeCodeCache else .noCompileOptions
  match v8.compile source with
  | .error exception => report v8 realm exception
  | .ok script =>
      match v8.run script with
      | .error exception => report v8 realm exception
      | .ok result =>
          match store with
          | some entries =>
              if options ≠ .consumeCodeCache then
                .ok (result, some (persistPreparedScript entries key (v8.createCodeCache script)))
              else .ok (result, store)
          | none => .ok (result, none)

/-- The script, with the options it was compiled with. The second attempt stands behind
`ReportException`. -/
def compileOrRebuild (v8 : V8 Script) (realm : Realm) (options : CompileOptions)
    (source : Source) : Except Raised (Option (Script × CompileOptions)) :=
  match v8.compile source with
  | .ok script => .ok (some (script, options))
  | .error exception => do
      report v8 realm exception
      if options = .consumeCodeCache then
        match v8.compile source with
        | .ok script => return some (script, .eagerCompile)
        | .error second => do
            report v8 realm second
            return none
      else throw .aborted

def prepareJavaScript2 (v8 : V8 Script) (realm : Realm) (store : Option PreparedScriptStore)
    (source : Source) (sourceURL : List Char) (hash : UInt64) :
    Except Raised (Option (V8PreparedJavaScript Script) × Option PreparedScriptStore) := do
  let key := scriptKey v8 sourceURL hash
  let cache := store.bind (tryGetPreparedScript · key)
  let options : CompileOptions :=
    if cache.isSome then .consumeCodeCache else .noCompileOptions
  match ← compileOrRebuild v8 realm options source with
  | none => return (none, store)
  | some (script, options) =>
      let codeCache := v8.createCodeCache script
      let store := store.map fun entries =>
        if options = .eagerCompile then persistPreparedScript entries key codeCache else entries
      return (some ⟨key, codeCache, source, script⟩, store)

def evaluatePreparedJavaScript2 (v8 : V8 Script) (realm : Realm)
    (prepared : V8PreparedJavaScript Script) : Except Raised JsValue :=
  match v8.run prepared.script with
  | .error exception => report v8 realm exception
  | .ok result => .ok result

/-- `evaluateJavaScript`, which hashes the source. -/
def evaluateJavaScript (v8 : V8 Script) (realm : Realm) (murmurhash : Source → UInt64)
    (store : Option PreparedScriptStore) (source : Source) (sourceURL : List Char) :
    Except Raised (JsValue × Option PreparedScriptStore) :=
  executeString v8 realm store source sourceURL (murmurhash source)

def prepare (v8 : V8 Script) (realm : Realm) (murmurhash : Source → UInt64)
    (store : Option PreparedScriptStore) (source : Source) (sourceURL : List Char) :
    Except Raised (Option (V8PreparedJavaScript Script) × Option PreparedScriptStore) :=
  prepareJavaScript2 v8 realm store source sourceURL (murmurhash source)

/-! ## Convergence -/

/-- A call for the source would find a code cache that V8 accepts. -/
def Served (v8 : V8 Script) (source : Source) (key : Key) (store : PreparedScriptStore) : Prop :=
  ∃ cache, tryGetPreparedScript store key = some cache ∧ v8.accepts source cache = true

/-- What V8 documents of its code caches: those of a script are accepted for its source. -/
structure CodeCacheDocumented (v8 : V8 Script) : Prop where
  nonempty : ∀ script, v8.createCodeCache script ≠ []
  accepted : ∀ source script, v8.compile source = .ok script →
    v8.accepts source (v8.createCodeCache script) = true

theorem served_persist {v8 : V8 Script} (documented : CodeCacheDocumented v8) {source : Source}
    {script : Script} (compiled : v8.compile source = .ok script) (key : Key)
    (store : PreparedScriptStore) :
    Served v8 source key (persistPreparedScript store key (v8.createCodeCache script)) := by
  refine ⟨v8.createCodeCache script, ?_, documented.accepted source script compiled⟩
  have filled : (v8.createCodeCache script).length ≠ 0 := by
    rw [Ne, List.length_eq_zero_iff]
    exact documented.nonempty script
  simp only [tryGetPreparedScript, persistPreparedScript, Function.update_self, ne_eq, filled,
    not_false_eq_true, ↓reduceIte]

/-- A successful evaluation writes the code cache if it found none. -/
theorem executeString_store {v8 : V8 Script} {realm : Realm} {entries : PreparedScriptStore}
    {store : Option PreparedScriptStore} {source : Source} {sourceURL : List Char} {hash : UInt64}
    {result : JsValue}
    (succeeded : executeString v8 realm (some entries) source sourceURL hash =
      .ok (result, store)) :
    ∃ script, v8.compile source = .ok script ∧
      store = some (if tryGetPreparedScript entries (scriptKey v8 sourceURL hash) = none then
        persistPreparedScript entries (scriptKey v8 sourceURL hash) (v8.createCodeCache script)
      else entries) := by
  unfold executeString at succeeded
  cases compiled : v8.compile source with
  | error exception =>
    simp only [compiled] at succeeded
    cases succeeded
  | ok script =>
    refine ⟨script, rfl, ?_⟩
    cases ran : v8.run script with
    | error exception =>
      simp only [compiled, ran] at succeeded
      cases succeeded
    | ok value =>
      simp only [compiled, ran, Option.bind_some] at succeeded
      cases cache : tryGetPreparedScript entries (scriptKey v8 sourceURL hash) with
      | none =>
        simp only [cache, Option.isSome_none, Bool.false_eq_true, ↓reduceIte, ne_eq, reduceCtorEq,
          not_false_eq_true, Except.ok.injEq, Prod.mk.injEq] at succeeded
        simp only [↓reduceIte]
        exact succeeded.2.symm
      | some bytes =>
        simp only [cache, Option.isSome_some, ↓reduceIte, ne_eq, not_true_eq_false, Except.ok.injEq,
          Prod.mk.injEq] at succeeded
        simp only [reduceCtorEq, ↓reduceIte]
        exact succeeded.2.symm

/-- A successful preparation compiles the source, and never writes. -/
theorem prepareJavaScript2_inv {v8 : V8 Script} {realm : Realm}
    {store after : Option PreparedScriptStore} {source : Source} {sourceURL : List Char}
    {hash : UInt64} {prepared : Option (V8PreparedJavaScript Script)}
    (succeeded : prepareJavaScript2 v8 realm store source sourceURL hash =
      .ok (prepared, after)) :
    ∃ script, v8.compile source = .ok script ∧ after = store ∧
      prepared = some ⟨scriptKey v8 sourceURL hash, v8.createCodeCache script, source, script⟩ := by
  obtain ⟨compiled, rebuilt, finished⟩ := bind_ok_inv succeeded
  unfold compileOrRebuild at rebuilt
  cases first : v8.compile source with
  | error exception =>
    simp only [first] at rebuilt
    cases rebuilt
  | ok script =>
    simp only [first] at rebuilt
    obtain rfl := Except.ok.inj rebuilt
    have unwritten : (if (store.bind (tryGetPreparedScript · (scriptKey v8 sourceURL hash))).isSome
        then CompileOptions.consumeCodeCache else .noCompileOptions) ≠ .eagerCompile := by
      split
      · exact nofun
      · exact nofun
    simp only [unwritten, ↓reduceIte, pure_ok, Except.ok.injEq, Prod.mk.injEq, Option.map_id']
      at finished
    exact ⟨script, rfl, finished.2.symm, finished.1.symm⟩

/-- After a success the next call is served from an accepted code cache exactly when
the call found one itself, or, for an evaluation, when it found none at all. -/
theorem cache_converges_iff (v8 : V8 Script) (documented : CodeCacheDocumented v8)
    (realm : Realm) (murmurhash : Source → UInt64) (entries : PreparedScriptStore)
    (source : Source) (sourceURL : List Char) (key : Key)
    (same : key = scriptKey v8 sourceURL (murmurhash source)) :
    (∀ result store,
      evaluateJavaScript v8 realm murmurhash (some entries) source sourceURL = .ok (result, store) →
      ∃ after, store = some after ∧ (Served v8 source key after ↔
        tryGetPreparedScript entries key = none ∨ Served v8 source key entries)) ∧
    ∀ prepared store,
      prepare v8 realm murmurhash (some entries) source sourceURL = .ok (prepared, store) →
      ∃ after, store = some after ∧ (Served v8 source key after ↔ Served v8 source key entries) := by
  subst same
  constructor
  · intro result store succeeded
    obtain ⟨script, compiled, rfl⟩ := executeString_store succeeded
    refine ⟨_, rfl, ?_⟩
    by_cases absent :
        tryGetPreparedScript entries (scriptKey v8 sourceURL (murmurhash source)) = none
    · rw [ite_cond_eq_true _ _ (eq_true absent)]
      exact iff_of_true (served_persist documented compiled _ entries) (.inl absent)
    · rw [ite_cond_eq_false _ _ (eq_false absent)]
      exact (or_iff_right absent).symm
  · intro prepared store succeeded
    obtain ⟨script, compiled, rfl, -⟩ := prepareJavaScript2_inv succeeded
    exact ⟨entries, rfl, Iff.rfl⟩

end

/-- Scripts are their texts and have no result, and a code cache is accepted if it has
the length of the text in its first byte. -/
def lengthV8 : V8 Source where
  engine := plainEngine
  compile source := .ok source
  run _ := .ok .undefined
  accepts source cache := cache.head? == some source.length.toUInt8
  createCodeCache script := [script.length.toUInt8]
  cachedDataVersionTag := 1

theorem lengthV8_documented : CodeCacheDocumented lengthV8 where
  nonempty _ := List.cons_ne_nil _ _
  accepted source script compiled := by
    obtain rfl := Except.ok.inj compiled
    simp [lengthV8]

/-- The first evaluation of a script fills the store. -/
theorem cache_converges_first_evaluation :
    ∃ after, (∃ result, evaluateJavaScript lengthV8 { next := 0 } (fun _ => 5) (some fun _ => none)
        [';'] ['u'] = .ok (result, some after)) ∧
      Served lengthV8 [';'] (scriptKey lengthV8 ['u'] 5) after := by
  obtain ⟨after, same, served⟩ := (cache_converges_iff lengthV8 lengthV8_documented { next := 0 }
    (fun _ => 5) (fun _ => none) [';'] ['u'] _ rfl).1 .undefined _ rfl
  obtain rfl := Option.some.inj same
  exact ⟨_, ⟨_, rfl⟩, served.mpr (.inl rfl)⟩

/-- A code cache that V8 rejects stays in the store after an evaluation, and the store
stays empty after a preparation. -/
theorem cache_not_healed :
    (∃ result after, evaluateJavaScript lengthV8 { next := 0 } (fun _ => 5) (some fun _ => some [9])
        [';'] ['u'] = .ok (result, some after) ∧
      ¬ Served lengthV8 [';'] (scriptKey lengthV8 ['u'] 5) after) ∧
    ∃ prepared after, prepare lengthV8 { next := 0 } (fun _ => 5) (some fun _ => none)
        [';'] ['u'] = .ok (prepared, some after) ∧
      ¬ Served lengthV8 [';'] (scriptKey lengthV8 ['u'] 5) after := by
  refine ⟨⟨_, _, rfl, ?_⟩, _, _, rfl, ?_⟩
  · rintro ⟨cache, found, accepted⟩
    cases found
    cases accepted
  · rintro ⟨cache, found, -⟩
    cases found

end V8Jsi.ScriptCache
