import V8Jsi.ScriptCache

set_option autoImplicit false

/- The two ways of running a script through the C functions of v8_api.cpp:
`jsr_run_script`, and `jsr_create_prepared_script` followed by
`jsr_prepared_script_run`. -/
namespace V8Jsi.ScriptRuns

open Outcome V8Exceptions ScriptCache

inductive NapiStatus
  | ok
  | invalidArg
  | genericFailure
  | pendingException
  | cannotRunJs
  deriving DecidableEq, Repr

structure NodeApiEnv where
  lastException : Option JsValue := none
  canCallIntoJs : Bool := true
  isExperimental : Bool := false
  deriving DecidableEq, Repr

/-- A C function returns its status and the value it stores, or a C++ exception or an
abort goes through it. -/
inductive CallResult (α : Type)
  | returned (status : NapiStatus) (result : Option α) (env : NodeApiEnv)
  | escaped (raised : Raised)

/-- `NAPI_PREAMBLE`. -/
def preamble {α : Type} (env : NodeApiEnv) (body : CallResult α) : CallResult α :=
  if env.lastException ≠ none then .returned .pendingException none env
  else if env.canCallIntoJs = false then
    .returned (if env.isExperimental then .cannotRunJs else .pendingException) none env
  else body

section

variable {Script : Type}

/-- The `v8impl::TryCatch` of the preamble leaves the exception in the env. -/
def runScript (v8 : V8 Script) (env : NodeApiEnv) (source : Source) : CallResult JsValue :=
  preamble env <|
    match v8.compile source with
    | .error exception =>
        .returned .genericFailure none { env with lastException := some exception }
    | .ok script =>
        match v8.run script with
        | .error exception =>
            .returned .genericFailure none { env with lastException := some exception }
        | .ok result => .returned .ok (some result) env

/-- No source URL is a null pointer. -/
def createPreparedScript (v8 : V8 Script) (realm : Realm) (murmurhash : Source → UInt64)
    (store : Option PreparedScriptStore) (env : NodeApiEnv) (source : Source)
    (sourceUrl : Option (List Char)) : CallResult (Option (V8PreparedJavaScript Script)) :=
  preamble env <|
    match sourceUrl with
    | none => .returned .invalidArg none env
    | some url =>
        match prepareJavaScript2 v8 realm store source url (murmurhash source) with
        | .error raised => .escaped raised
        | .ok (preparedScript, _) => .returned .ok (some preparedScript) env

def runPreparedScript (v8 : V8 Script) (realm : Realm) (env : NodeApiEnv)
    (preparedScript : Option (V8PreparedJavaScript Script)) : CallResult JsValue :=
  preamble env <|
    match preparedScript with
    | none => .escaped .aborted
    | some prepared =>
        match evaluatePreparedJavaScript2 v8 realm prepared with
        | .error raised => .escaped raised
        | .ok scriptResult => .returned .ok (some scriptResult) env

/-- Create a prepared script and run it. -/
def createAndRun (v8 : V8 Script) (realm : Realm) (murmurhash : Source → UInt64)
    (store : Option PreparedScriptStore) (env : NodeApiEnv) (source : Source)
    (sourceUrl : Option (List Char)) : CallResult JsValue :=
  match createPreparedScript v8 realm murmurhash store env source sourceUrl with
  | .returned .ok (some preparedScript) env => runPreparedScript v8 realm env preparedScript
  | .returned status _ env => .returned status none env
  | .escaped raised => .escaped raised

/-! ## Agreement -/

/-- Both return napi_ok with the same value, or both fail with the same exception left
in the env. -/
inductive Agree : CallResult JsValue → CallResult JsValue → Prop
  | succeed (result : JsValue) (left right : NodeApiEnv) :
      Agree (.returned .ok (some result) left) (.returned .ok (some result) right)
  | fail (left right : NapiStatus) (before after : NodeApiEnv) (leftFails : left ≠ .ok)
      (rightFails : right ≠ .ok) (same : before.lastException = after.lastException) :
      Agree (.returned left none before) (.returned right none after)

theorem preamble_ready {α : Type} {env : NodeApiEnv} (clear : env.lastException = none)
    (running : env.canCallIntoJs = true) (body : CallResult α) : preamble env body = body := by
  simp only [preamble, clear, running, ne_eq, not_true_eq_false, Bool.true_eq_false, ↓reduceIte]

/-- Without the right to run scripts every function ends in the preamble. -/
theorem preamble_barred {env : NodeApiEnv}
    (barred : env.lastException ≠ none ∨ env.canCallIntoJs = false) :
    ∃ status, status ≠ .ok ∧ ∀ (α : Type) (body : CallResult α),
      preamble env body = .returned status none env := by
  by_cases pending : env.lastException ≠ none
  · refine ⟨.pendingException, nofun, fun α body => ?_⟩
    unfold preamble
    rw [ite_cond_eq_true _ _ (eq_true pending)]
  · have stopped := barred.resolve_left pending
    refine ⟨if env.isExperimental then .cannotRunJs else .pendingException, ?_, fun α body => ?_⟩
    · split
      · exact nofun
      · exact nofun
    · unfold preamble
      rw [ite_cond_eq_false _ _ (eq_false pending), ite_cond_eq_true _ _ (eq_true stopped)]

theorem createAndRun_barred {env : NodeApiEnv} {status : NapiStatus} (fails : status ≠ .ok)
    (ended : ∀ (α : Type) (body : CallResult α),
      preamble env body = .returned status none env)
    (v8 : V8 Script) (realm : Realm) (murmurhash : Source → UInt64)
    (store : Option PreparedScriptStore) (source : Source) (sourceUrl : Option (List Char)) :
    createAndRun v8 realm murmurhash store env source sourceUrl = .returned status none env := by
  unfold createAndRun createPreparedScript
  rw [ended]
  cases status with
  | ok => exact absurd rfl fails
  | invalidArg | genericFailure | pendingException | cannotRunJs => rfl

/-- Preparing a script that does not compile throws. -/
theorem prepareJavaScript2_error {v8 : V8 Script} {source : Source} {exception : JsValue}
    (rejected : v8.compile source = .error exception) (realm : Realm)
    (store : Option PreparedScriptStore) (url : List Char) (hash : UInt64) :
    prepareJavaScript2 v8 realm store source url hash =
      .error (reportException v8.engine realm exception) := by
  simp only [prepareJavaScript2, compileOrRebuild, rejected, report, error_bind]

theorem prepareJavaScript2_ok {v8 : V8 Script} {source : Source} {script : Script}
    (compiled : v8.compile source = .ok script) (realm : Realm)
    (store : Option PreparedScriptStore) (url : List Char) (hash : UInt64) :
    ∃ prepared after, prepareJavaScript2 v8 realm store source url hash =
      .ok (some prepared, after) ∧ prepared.script = script := by
  simp only [prepareJavaScript2, compileOrRebuild, compiled, ok_bind, pure_ok]
  exact ⟨_, _, rfl, rfl⟩

section

variable {v8 : V8 Script} {realm : Realm} {murmurhash : Source → UInt64}
  {store : Option PreparedScriptStore} {env : NodeApiEnv} {source : Source}

/-- One outcome for compiling and running. -/
theorem runScript_ready (clear : env.lastException = none) (running : env.canCallIntoJs = true) :
    runScript v8 env source =
      match v8.compile source >>= v8.run with
      | .error exception =>
          .returned .genericFailure none { env with lastException := some exception }
      | .ok result => .returned .ok (some result) env := by
  unfold runScript
  rw [preamble_ready clear running]
  cases v8.compile source with
  | error exception => rfl
  | ok script => rw [ok_bind]

/-- A prepared script does the same work, but its exceptions go on as C++ exceptions. -/
theorem createAndRun_ready (clear : env.lastException = none)
    (running : env.canCallIntoJs = true) (url : List Char) :
    createAndRun v8 realm murmurhash store env source (some url) =
      match v8.compile source >>= v8.run with
      | .error exception => .escaped (reportException v8.engine realm exception)
      | .ok result => .returned .ok (some result) env := by
  cases compiled : v8.compile source with
  | error exception =>
    simp only [createAndRun, createPreparedScript, preamble_ready clear running,
      prepareJavaScript2_error compiled, error_bind]
  | ok script =>
    obtain ⟨prepared, after, finished, rfl⟩ :=
      prepareJavaScript2_ok compiled realm store url (murmurhash source)
    simp only [createAndRun, createPreparedScript, runPreparedScript,
      preamble_ready clear running, finished, evaluatePreparedJavaScript2, report, ok_bind]
    cases v8.run prepared.script with
    | error exception => rfl
    | ok result => rfl

theorem createAndRun_null (clear : env.lastException = none) (running : env.canCallIntoJs = true) :
    createAndRun v8 realm murmurhash store env source none = .returned .invalidArg none env := by
  simp only [createAndRun, createPreparedScript, preamble_ready clear running]

end

/-- Scripts end the same way in both functions exactly when the env does not let any
script run, or a source URL is given and the script neither fails to compile nor
throws. -/
theorem script_runs_agree_iff (v8 : V8 Script) (realm : Realm) (murmurhash : Source → UInt64)
    (store : Option PreparedScriptStore) (env : NodeApiEnv) (source : Source)
    (sourceUrl : Option (List Char)) :
    Agree (runScript v8 env source)
        (createAndRun v8 realm murmurhash store env source sourceUrl) ↔
      (env.lastException ≠ none ∨ env.canCallIntoJs = false) ∨
        sourceUrl ≠ none ∧ ∃ script result, v8.compile source = .ok script ∧
          v8.run script = .ok result := by
  by_cases barred : env.lastException ≠ none ∨ env.canCallIntoJs = false
  · obtain ⟨status, fails, ended⟩ := preamble_barred barred
    apply iff_of_true _ (.inl barred)
    rw [createAndRun_barred fails ended, runScript, ended]
    exact .fail status status env env fails fails rfl
  · rw [or_iff_right barred]
    rw [not_or, not_not, Bool.not_eq_false] at barred
    obtain ⟨clear, running⟩ := barred
    rw [runScript_ready clear running]
    cases ran : v8.compile source >>= v8.run with
    | error exception =>
      -- The exception is in the env on one side only.
      apply iff_of_false
      · intro agree
        cases sourceUrl with
        | none =>
          rw [createAndRun_null clear running] at agree
          cases agree with
          | fail _ _ _ _ _ _ same =>
            rw [clear] at same
            cases same
        | some url =>
          rw [createAndRun_ready clear running, ran] at agree
          cases agree
      · intro finishes
        obtain ⟨script, result, compiled, finished⟩ := finishes.2
        rw [compiled, ok_bind, finished] at ran
        cases ran
    | ok result =>
      cases sourceUrl with
      | none =>
        rw [createAndRun_null clear running]
        apply iff_of_false
        · intro agree
          cases agree
        · intro finishes
          exact finishes.1 rfl
      | some url =>
        rw [createAndRun_ready clear running, ran]
        apply iff_of_true
        · exact .succeed result env env
        · obtain ⟨script, compiled, finished⟩ := bind_ok_inv ran
          exact ⟨Option.some_ne_none url, script, result, compiled, finished⟩

end

/-- Every script is a `throw` of the number 7. -/
def throwingV8 : V8 Source where
  engine := plainEngine
  compile source := .ok source
  run _ := .error (.number 7)
  accepts _ _ := true
  createCodeCache _ := [0]
  cachedDataVersionTag := 1

/-- A script that throws leaves its exception in the env one way, and a C++ exception
leaves the C function the other way. -/
theorem throwing_script_disagrees :
    ¬ Agree (runScript throwingV8 {} "throw 7".toList)
      (createAndRun throwingV8 { next := 0 } (fun _ => 5) none {} "throw 7".toList (some [])) := by
  intro agree
  cases agree

end V8Jsi.ScriptRuns
