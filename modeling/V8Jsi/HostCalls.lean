import V8Jsi.ScriptRuns

set_option autoImplicit false

/- Exceptions between C++ and JavaScript when host functions and JavaScript functions call each
other: `NodeApiJsiRuntime::call` and `jsiHostFunctionCallback` of NodeApiJsiRuntime.cpp over
`napi_call_function`, `napi_throw` and `CallIntoModule` of js_native_api_v8.cc and
js_native_api_v8.h. -/
namespace V8Jsi.HostCalls

open ScriptRuns

/-- What a C++ frame throws: a `jsi::JSError`, another `std::exception`, or something else. -/
inductive CppException (V : Type)
  | jsError (value : V)
  | native (what : String)
  | unknown
  deriving DecidableEq, Repr

mutual

/-- The code of a JavaScript function, which reads and writes the world, and calls host functions
with a `catch` around each. -/
inductive Script (V σ : Type)
  | ret (value : V)
  | throw (value : V)
  | access (write : σ → σ) (next : σ → Script V σ)
  | call (host : Host V σ) (onReturn onThrow : V → Script V σ)

/-- The body of a host function, with a `catch` around each call of a JavaScript function. It may
keep a string, a symbol or a BigInt that it gets, and release one that it got in any open scope,
0 being the innermost. -/
inductive Host (V σ : Type)
  | ret (value : V)
  | throw (exception : CppException V)
  | access (write : σ → σ) (next : σ → Host V σ)
  | keep (next : Host V σ)
  | release (scope : Nat) (next : Host V σ)
  | call (function : Script V σ) (onReturn : V → Host V σ)
      (onThrow : CppException V → Host V σ)

end

/-- What V8 does, and what `rewriteErrorMessage` and the constructor of `jsi::JSError` call when
they make the error of a value. -/
structure Engine (V σ : Type) where
  undefined : V
  newError : (code message : String) → σ → V × σ
  makeJSError : V → Host V σ

/-- What the code reads and writes, and for each open pointer scope, the innermost first, how many
of its values without a `napi_ref` are primitive and still in use. -/
structure Store (σ : Type) where
  world : σ
  pointerValueScopes : List Nat := []
  deriving DecidableEq, Repr

namespace Store

variable {σ : Type}

def write (store : Store σ) (write : σ → σ) : Store σ :=
  { store with world := write store.world }

def push (store : Store σ) : Store σ :=
  { store with pointerValueScopes := 0 :: store.pointerValueScopes }

def pop (store : Store σ) : Store σ :=
  { store with pointerValueScopes := store.pointerValueScopes.tail }

def keep (store : Store σ) : Store σ :=
  { store with pointerValueScopes := store.pointerValueScopes.modifyHead (· + 1) }

def release (store : Store σ) (scope : Nat) : Store σ :=
  { store with pointerValueScopes := store.pointerValueScopes.modify scope (· - 1) }

end Store

/-- The env and the runtime, as far as exceptions concern them. -/
structure Machine (V σ : Type) extends Store σ where
  lastException : Option V := none
  openHandleScopes : Int := 0
  openCallbackScopes : Int := 0
  hasPendingJSError : Bool := false
  canCallIntoJs : Bool := true
  isExperimental : Bool := false

inductive Completion (ε V σ : Type)
  | returned (value : V) (machine : Machine V σ)
  | threw (reason : ε) (machine : Machine V σ)
  | aborted

section

variable {V σ : Type}

/-! ## js_native_api_v8 -/

/-- `NAPI_PREAMBLE`. -/
def preamble (machine : Machine V σ) : Option NapiStatus :=
  if machine.lastException.isSome then some .pendingException
  else if machine.canCallIntoJs = false then
    some (if machine.isExperimental then .cannotRunJs else .pendingException)
  else none

/-- The exception is caught by the `TryCatch` of the preamble, whose destructor keeps it. -/
def napiThrow (error : V) (machine : Machine V σ) : NapiStatus × Machine V σ :=
  match preamble machine with
  | some status => (status, machine)
  | none => (.ok, { machine with lastException := some error })

def napiThrowError (engine : Engine V σ) (code msg : String) (machine : Machine V σ) :
    NapiStatus × Machine V σ :=
  match preamble machine with
  | some status => (status, machine)
  | none =>
      let (error, world) := engine.newError code msg machine.world
      (.ok, { machine with world, lastException := some error })

def napiGetAndClearLastException (engine : Engine V σ) (machine : Machine V σ) :
    V × Machine V σ :=
  (machine.lastException.getD engine.undefined, { machine with lastException := none })

/-- The status, the result and the env after it, or `none` when the process is gone. -/
def napiCallFunction (function : Machine V σ → Completion V V σ) (machine : Machine V σ) :
    Option (NapiStatus × Option V × Machine V σ) :=
  match preamble machine with
  | some status => some (status, none, machine)
  | none =>
      match function machine with
      | .returned value machine => some (.ok, some value, machine)
      | .threw value machine =>
          some (.pendingException, none, { machine with lastException := some value })
      | .aborted => none

/-- `FunctionCallbackWrapper::InvokeCallback` with `CallIntoModule`. -/
def invokeCallback (engine : Engine V σ) (cb : Machine V σ → Option (V × Machine V σ))
    (machine : Machine V σ) : Completion V V σ :=
  match cb machine with
  | none => .aborted
  | some (result, after) =>
      if after.openHandleScopes ≠ machine.openHandleScopes ∨
          after.openCallbackScopes ≠ machine.openCallbackScopes then .aborted
      else
        match after.lastException with
        | none => .returned result after
        | some value =>
            if after.canCallIntoJs then .threw value { after with lastException := none }
            else .returned engine.undefined { after with lastException := none }

/-! ## NodeApiJsiRuntime -/

/-- The value of the status in the enumeration of js_native_api_types.h, in hexadecimal. -/
def statusText : NapiStatus → String
  | .ok => "0"
  | .invalidArg => "1"
  | .genericFailure => "9"
  | .pendingException => "a"
  | .cannotRunJs => "17"

/-- `makeJSError` stands for the code that runs while the flag is set, which the exception of the
`throw` expression follows. -/
def throwJSException [DecidableEq V] (engine : Engine V σ)
    (makeJSError : V → Machine V σ → Completion (CppException V) V σ) (status : NapiStatus)
    (machine : Machine V σ) : Completion (CppException V) V σ :=
  let (jsError, machine) := napiGetAndClearLastException engine machine
  if machine.hasPendingJSError = false ∧
      (status = .pendingException ∨ jsError ≠ engine.undefined) then
    match makeJSError jsError { machine with hasPendingJSError := true } with
    | .returned _ machine => .threw (.jsError jsError) { machine with hasPendingJSError := false }
    | .threw exception machine => .threw exception { machine with hasPendingJSError := false }
    | .aborted => .aborted
  else
    .threw (.native s!"A call to Node-API returned error code 0x{statusText status}.") machine

/-- `createNodeApiRef` crashes when Node-API refuses to assign the property X, as it does while an
exception is pending. Scripts leave the X of `Object.prototype` alone. -/
def popPointerValueScope (machine : Machine V σ) : Option (Machine V σ) :=
  match machine.pointerValueScopes with
  | [] => none
  | held :: _ =>
      if held ≠ 0 ∧ (preamble machine).isSome then none
      else some { machine with toStore := machine.pop }

/-- The constructor and the destructor of `NodeApiScope` around a body. It pushes the pointer
scope twice. -/
def withNodeApiScope {ε : Type} (body : Machine V σ → Completion ε V σ) (machine : Machine V σ) :
    Completion ε V σ :=
  let close (machine : Machine V σ) : Option (Machine V σ) := do
    let machine ← popPointerValueScope machine
    let machine ← popPointerValueScope machine
    if machine.openHandleScopes = 0 then none
    else some { machine with openHandleScopes := machine.openHandleScopes - 1 }
  match body { machine with
    toStore := machine.push.push, openHandleScopes := machine.openHandleScopes + 1 } with
  | .returned value machine => (close machine).elim .aborted (.returned value)
  | .threw reason machine => (close machine).elim .aborted (.threw reason)
  | .aborted => .aborted

def callFunction [DecidableEq V] (engine : Engine V σ)
    (makeJSError : V → Machine V σ → Completion (CppException V) V σ)
    (function : Machine V σ → Completion V V σ) (machine : Machine V σ) :
    Completion (CppException V) V σ :=
  match napiCallFunction function machine with
  | none => .aborted
  | some (.ok, result, machine) => .returned (result.getD engine.undefined) machine
  | some (status, _, machine) => throwJSException engine makeJSError status machine

def runInMethodContext (methodName : String)
    (lambda : Machine V σ → Completion (CppException V) V σ) (machine : Machine V σ) :
    Completion (CppException V) V σ :=
  match lambda machine with
  | .returned value machine => .returned value machine
  | .threw (.jsError value) machine => .threw (.jsError value) machine
  | .threw (.native what) machine =>
      .threw (.native ("Exception in " ++ methodName ++ ": " ++ what)) machine
  | .threw .unknown machine =>
      .threw (.native ("Exception in " ++ methodName ++ ": <unknown>")) machine
  | .aborted => .aborted

/-- The results of `napi_throw` and `napi_throw_error` are not looked at. -/
def handleCallbackExceptions (engine : Engine V σ)
    (lambda : Machine V σ → Completion (CppException V) V σ) (machine : Machine V σ) :
    Option (V × Machine V σ) :=
  match lambda machine with
  | .returned value machine => some (value, machine)
  | .threw (.jsError value) machine => some (engine.undefined, (napiThrow value machine).2)
  | .threw (.native what) machine =>
      some (engine.undefined, (napiThrowError engine "Unknown" what machine).2)
  | .threw .unknown machine =>
      some (engine.undefined, (napiThrowError engine "Unknown" "Unexpected error" machine).2)
  | .aborted => none

def jsiHostFunctionCallback (engine : Engine V σ)
    (hostFunc : Machine V σ → Completion (CppException V) V σ) (machine : Machine V σ) :
    Option (V × Machine V σ) := do
  let (result, machine) ←
    handleCallbackExceptions engine (runInMethodContext "HostFunction" hostFunc)
      { machine with toStore := machine.push }
  return (result, ← popPointerValueScope machine)

section

variable [DecidableEq V] (engine : Engine V σ)
  (makeJSError : V → Machine V σ → Completion (CppException V) V σ)

mutual

def Script.exec : Script V σ → Machine V σ → Completion V V σ
  | .ret value, machine => .returned value machine
  | .throw value, machine => .threw value machine
  | .access write next, machine =>
      (next machine.world).exec { machine with toStore := machine.write write }
  | .call host onReturn onThrow, machine =>
      match invokeCallback engine (jsiHostFunctionCallback engine host.exec) machine with
      | .returned value machine => (onReturn value).exec machine
      | .threw value machine => (onThrow value).exec machine
      | .aborted => .aborted

def Host.exec : Host V σ → Machine V σ → Completion (CppException V) V σ
  | .ret value, machine => .returned value machine
  | .throw exception, machine => .threw exception machine
  | .access write next, machine =>
      (next machine.world).exec { machine with toStore := machine.write write }
  | .keep next, machine => next.exec { machine with toStore := machine.keep }
  | .release scope next, machine => next.exec { machine with toStore := machine.release scope }
  | .call function onReturn onThrow, machine =>
      match withNodeApiScope (callFunction engine makeJSError function.exec) machine with
      | .returned value machine => (onReturn value).exec machine
      | .threw exception machine => (onThrow exception).exec machine
      | .aborted => .aborted

end

end

/-- While one `jsi::JSError` is made no other is. -/
def makeJSError [DecidableEq V] (engine : Engine V σ) (jsError : V) :
    Machine V σ → Completion (CppException V) V σ :=
  (engine.makeJSError jsError).exec engine fun _ _ => .aborted

def Script.run [DecidableEq V] (engine : Engine V σ) (script : Script V σ) :
    Machine V σ → Completion V V σ :=
  script.exec engine (makeJSError engine)

def Host.run [DecidableEq V] (engine : Engine V σ) (host : Host V σ) :
    Machine V σ → Completion (CppException V) V σ :=
  host.exec engine (makeJSError engine)

/-! ## Exceptions without an env -/

/-- A C++ exception that leaves a host function. -/
def toJavaScript (engine : Engine V σ) : CppException V → Store σ → V × Store σ
  | .jsError value, store => (value, store)
  | .native what, store =>
      let (value, world) :=
        engine.newError "Unknown" ("Exception in HostFunction: " ++ what) store.world
      (value, { store with world })
  | .unknown, store =>
      let (value, world) :=
        engine.newError "Unknown" "Exception in HostFunction: <unknown>" store.world
      (value, { store with world })

section

variable (engine : Engine V σ) (toCpp : V → Store σ → Option (CppException V × Store σ))

mutual

/-- The call stack of one language with two kinds of exceptions. A host function that throws must
not keep a value that it got. -/
def Script.eval : Script V σ → Store σ → Option (Except V V × Store σ)
  | .ret value, store => some (.ok value, store)
  | .throw value, store => some (.error value, store)
  | .access write next, store => (next store.world).eval (store.write write)
  | .call host onReturn onThrow, store =>
      match host.eval store.push with
      | none => none
      | some (.ok value, store) => (onReturn value).eval store.pop
      | some (.error exception, store) =>
          if store.pointerValueScopes.head? = some 0 then
            let (value, store) := toJavaScript engine exception store.pop
            (onThrow value).eval store
          else none

def Host.eval : Host V σ → Store σ → Option (Except (CppException V) V × Store σ)
  | .ret value, store => some (.ok value, store)
  | .throw exception, store => some (.error exception, store)
  | .access write next, store => (next store.world).eval (store.write write)
  | .keep next, store => next.eval store.keep
  | .release scope next, store => next.eval (store.release scope)
  | .call function onReturn onThrow, store =>
      match function.eval store.push.push with
      | none => none
      | some (.ok value, store) => (onReturn value).eval store.pop.pop
      | some (.error value, store) =>
          match toCpp value store with
          | none => none
          | some (exception, store) => (onThrow exception).eval store.pop.pop

end

end

/-- An exception of JavaScript that reaches C++ while a `jsi::JSError` is made. -/
def refused (_ : V) (store : Store σ) : Option (CppException V × Store σ) :=
  some (.native "A call to Node-API returned error code 0xa.", store)

/-- An exception of JavaScript becomes the `jsi::JSError` of its value, unless making that fails. -/
def toJSError (engine : Engine V σ) (value : V) (store : Store σ) :
    Option (CppException V × Store σ) :=
  match (engine.makeJSError value).eval engine refused store with
  | none => none
  | some (.ok _, store) => some (.jsError value, store)
  | some (.error exception, store) => some (exception, store)

/-- A result in a machine that is otherwise unchanged. -/
def Completion.of {ε : Type} (machine : Machine V σ) :
    Option (Except ε V × Store σ) → Completion ε V σ
  | some (.ok value, store) => .returned value { machine with toStore := store }
  | some (.error reason, store) => .threw reason { machine with toStore := store }
  | none => .aborted

/-- No exception is pending, and the env takes calls into JavaScript. -/
structure Machine.Clear (hasPendingJSError : Bool) (machine : Machine V σ) : Prop where
  lastException : machine.lastException = none
  hasPendingJSError : machine.hasPendingJSError = hasPendingJSError
  canCallIntoJs : machine.canCallIntoJs = true
  openHandleScopes : 0 ≤ machine.openHandleScopes

/-! ## The pointer scopes -/

/-- How many pointer scopes are open. -/
def Store.depth (store : Store σ) : Nat := store.pointerValueScopes.length

@[simp] theorem depth_write (store : Store σ) (write : σ → σ) :
    (store.write write).depth = store.depth := rfl

@[simp] theorem depth_push (store : Store σ) : store.push.depth = store.depth + 1 := rfl

@[simp] theorem depth_pop (store : Store σ) : store.pop.depth = store.depth - 1 :=
  List.length_tail

@[simp] theorem depth_keep (store : Store σ) : store.keep.depth = store.depth :=
  List.length_modifyHead

@[simp] theorem depth_release (store : Store σ) (scope : Nat) :
    (store.release scope).depth = store.depth := List.length_modify ..

@[simp] theorem depth_toJavaScript (engine : Engine V σ) (exception : CppException V)
    (store : Store σ) : (toJavaScript engine exception store).2.depth = store.depth := by
  cases exception with
  | jsError value => rfl
  | native what => rfl
  | unknown => rfl

section

variable {engine : Engine V σ} {toCpp : V → Store σ → Option (CppException V × Store σ)}

mutual

/-- Every pointer scope that is opened is closed. -/
theorem Script.eval_depth (keeps : ∀ value store exception after,
      toCpp value store = some (exception, after) → after.depth = store.depth) :
    ∀ (script : Script V σ) {store after : Store σ} {result : Except V V},
      script.eval engine toCpp store = some (result, after) → after.depth = store.depth
  | .ret _, store, after, result, ran => by
      simp only [Script.eval, Option.some.injEq, Prod.mk.injEq] at ran
      rw [ran.2]
  | .throw _, store, after, result, ran => by
      simp only [Script.eval, Option.some.injEq, Prod.mk.injEq] at ran
      rw [ran.2]
  | .access write next, store, after, result, ran => by
      rw [Script.eval] at ran
      rw [Script.eval_depth keeps _ ran, depth_write]
  | .call host onReturn onThrow, store, after, result, ran => by
      rw [Script.eval] at ran
      split at ran
      · cases ran
      · rename_i value middle called
        have inside := Host.eval_depth keeps host called
        rw [Script.eval_depth keeps _ ran, depth_pop, inside, depth_push, Nat.add_sub_cancel]
      · rename_i exception middle called
        have inside := Host.eval_depth keeps host called
        split at ran
        · have thrown := (Script.eval_depth keeps (onThrow _) ran).trans
            (depth_toJavaScript engine exception middle.pop)
          rw [thrown, depth_pop, inside, depth_push, Nat.add_sub_cancel]
        · cases ran

theorem Host.eval_depth (keeps : ∀ value store exception after,
      toCpp value store = some (exception, after) → after.depth = store.depth) :
    ∀ (host : Host V σ) {store after : Store σ} {result : Except (CppException V) V},
      host.eval engine toCpp store = some (result, after) → after.depth = store.depth
  | .ret _, store, after, result, ran => by
      simp only [Host.eval, Option.some.injEq, Prod.mk.injEq] at ran
      rw [ran.2]
  | .throw _, store, after, result, ran => by
      simp only [Host.eval, Option.some.injEq, Prod.mk.injEq] at ran
      rw [ran.2]
  | .access write next, store, after, result, ran => by
      rw [Host.eval] at ran
      rw [Host.eval_depth keeps _ ran, depth_write]
  | .keep next, store, after, result, ran => by
      rw [Host.eval] at ran
      rw [Host.eval_depth keeps next ran, depth_keep]
  | .release scope next, store, after, result, ran => by
      rw [Host.eval] at ran
      rw [Host.eval_depth keeps next ran, depth_release]
  | .call function onReturn onThrow, store, after, result, ran => by
      rw [Host.eval] at ran
      split at ran
      · cases ran
      · rename_i value middle called
        have inside := Script.eval_depth keeps function called
        rw [Host.eval_depth keeps _ ran, depth_pop, depth_pop, inside]
        rfl
      · rename_i value middle called
        have inside := Script.eval_depth keeps function called
        split at ran
        · cases ran
        · rename_i exception thrown converted
          have same := keeps _ _ _ _ converted
          rw [Host.eval_depth keeps _ ran, depth_pop, depth_pop, same, inside]
          rfl

end

end

theorem depth_refused (value : V) (store : Store σ) (exception : CppException V)
    (after : Store σ) (ran : refused value store = some (exception, after)) :
    after.depth = store.depth := by
  simp only [refused, Option.some.injEq, Prod.mk.injEq] at ran
  rw [ran.2]

theorem depth_toJSError (engine : Engine V σ) (value : V) (store : Store σ)
    (exception : CppException V) (after : Store σ)
    (ran : toJSError engine value store = some (exception, after)) :
    after.depth = store.depth := by
  rw [toJSError] at ran
  split at ran
  · cases ran
  · rename_i result middle made
    obtain ⟨-, rfl⟩ := Prod.mk.inj (Option.some.inj ran)
    exact Host.eval_depth depth_refused _ made
  · rename_i result middle made
    obtain ⟨-, rfl⟩ := Prod.mk.inj (Option.some.inj ran)
    exact Host.eval_depth depth_refused _ made

/-! ## The crossing of one frame -/

theorem Machine.Clear.withStore {pending : Bool} {machine : Machine V σ}
    (clear : machine.Clear pending) (store : Store σ) :
    { machine with toStore := store }.Clear pending :=
  ⟨clear.lastException, clear.hasPendingJSError, clear.canCallIntoJs, clear.openHandleScopes⟩

/-- Inside the scopes of `NodeApiScope`. -/
theorem Machine.Clear.inScope {pending : Bool} {machine : Machine V σ}
    (clear : machine.Clear pending) :
    { machine with
      toStore := machine.push.push, openHandleScopes := machine.openHandleScopes + 1 }.Clear
        pending := by
  have nonneg := clear.openHandleScopes
  exact ⟨clear.lastException, clear.hasPendingJSError, clear.canCallIntoJs, by simp; omega⟩

/-- A host function called by JavaScript throws in JavaScript what it throws in C++. -/
theorem invokeCallback_host (engine : Engine V σ)
    (hostFunc : Machine V σ → Completion (CppException V) V σ) {pending : Bool}
    {machine : Machine V σ} (clear : machine.Clear pending)
    (outcome : Option (Except (CppException V) V × Store σ))
    (inside : ∀ result store, outcome = some (result, store) → store.depth = machine.depth + 1)
    (runs : hostFunc { machine with toStore := machine.push } = Completion.of machine outcome) :
    invokeCallback engine (jsiHostFunctionCallback engine hostFunc) machine =
      Completion.of machine (match outcome with
        | none => none
        | some (.ok value, store) => some (.ok value, store.pop)
        | some (.error exception, store) =>
            if store.pointerValueScopes.head? = some 0 then
              let (value, store) := toJavaScript engine exception store.pop
              some (.error value, store)
            else none) := by
  obtain ⟨start, last, handleScopes, callbackScopes, flag, canCall, experimental⟩ := machine
  obtain ⟨rfl, rfl, rfl, -⟩ := clear
  match outcome with
  | none =>
      simp only [Completion.of] at runs
      simp [invokeCallback, jsiHostFunctionCallback, handleCallbackExceptions, runInMethodContext,
        runs, Completion.of]
  | some (_, ⟨_, []⟩) =>
      have opened := inside _ _ rfl
      cases opened
  | some (.ok value, ⟨world, held :: scopes⟩) =>
      simp only [Completion.of] at runs
      simp [invokeCallback, jsiHostFunctionCallback, handleCallbackExceptions, runInMethodContext,
        runs, popPointerValueScope, preamble, Completion.of]
  | some (.error exception, ⟨world, held :: scopes⟩) =>
      simp only [Completion.of] at runs
      by_cases unused : held = 0
      · cases exception <;>
          simp [invokeCallback, jsiHostFunctionCallback, handleCallbackExceptions,
            runInMethodContext, runs, napiThrow, napiThrowError, preamble, popPointerValueScope,
            unused, Completion.of, toJavaScript, Store.pop]
      · cases exception <;>
          simp [invokeCallback, jsiHostFunctionCallback, handleCallbackExceptions,
            runInMethodContext, runs, napiThrow, napiThrowError, preamble, popPointerValueScope,
            unused, Completion.of]

/-- A JavaScript function called by C++ throws in C++ what it throws in JavaScript. -/
theorem callFunction_script [DecidableEq V] (engine : Engine V σ)
    (make : V → Machine V σ → Completion (CppException V) V σ)
    (toCpp : V → Store σ → Option (CppException V × Store σ))
    (function : Machine V σ → Completion V V σ) {pending : Bool} {machine : Machine V σ}
    (clear : machine.Clear pending)
    (crosses : ∀ {machine : Machine V σ} (value : V), machine.Clear pending →
      throwJSException engine make .pendingException { machine with lastException := some value } =
        Completion.of machine ((toCpp value machine.toStore).map fun (exception, store) =>
          (.error exception, store)))
    (outcome : Option (Except V V × Store σ))
    (depth : ∀ result store, outcome = some (result, store) → store.depth = machine.depth + 2)
    (keeps : ∀ value store exception after,
      toCpp value store = some (exception, after) → after.depth = store.depth)
    (runs : function { machine with
        toStore := machine.push.push, openHandleScopes := machine.openHandleScopes + 1 } =
      Completion.of { machine with
        toStore := machine.push.push, openHandleScopes := machine.openHandleScopes + 1 }
        outcome) :
    withNodeApiScope (callFunction engine make function) machine =
      Completion.of machine (match outcome with
        | none => none
        | some (.ok value, store) => some (.ok value, store.pop.pop)
        | some (.error value, store) =>
            match toCpp value store with
            | none => none
            | some (exception, store) => some (.error exception, store.pop.pop)) := by
  have inScope := clear.inScope
  obtain ⟨start, last, handleScopes, callbackScopes, flag, canCall, experimental⟩ := machine
  obtain ⟨rfl, rfl, rfl, nonneg⟩ := clear
  have opened : handleScopes + 1 ≠ 0 := by
    dsimp only at nonneg
    omega
  match outcome with
  | none =>
      simp only [Completion.of] at runs
      simp [withNodeApiScope, callFunction, napiCallFunction, preamble, runs, Completion.of]
  | some (_, ⟨_, []⟩) =>
      have two := depth _ _ rfl
      cases two
  | some (_, ⟨_, [_]⟩) =>
      have two := depth _ _ rfl
      cases two
  | some (.ok value, ⟨world, first :: second :: scopes⟩) =>
      simp only [Completion.of] at runs
      simp [withNodeApiScope, callFunction, napiCallFunction, preamble, runs, opened,
        popPointerValueScope, Completion.of, Store.pop]
  | some (.error value, ⟨world, first :: second :: scopes⟩) =>
      simp only [Completion.of] at runs
      have crossed := crosses value (inScope.withStore ⟨world, first :: second :: scopes⟩)
      dsimp only at crossed
      have same := keeps value ⟨world, first :: second :: scopes⟩
      match thrown : toCpp value ⟨world, first :: second :: scopes⟩ with
      | none =>
          rw [thrown] at crossed
          simp [withNodeApiScope, callFunction, napiCallFunction, preamble, runs, crossed, thrown,
            Completion.of]
      | some (_, ⟨_, []⟩) => cases same _ _ thrown
      | some (_, ⟨_, [_]⟩) => cases same _ _ thrown
      | some (exception, ⟨world', first' :: second' :: scopes'⟩) =>
          rw [thrown] at crossed
          simp [withNodeApiScope, callFunction, napiCallFunction, preamble, runs, crossed, thrown,
            opened, popPointerValueScope, Completion.of, Store.pop]

/-! ## Any nesting of frames -/

section

variable [DecidableEq V] {engine : Engine V σ}
  {make : V → Machine V σ → Completion (CppException V) V σ}
  {toCpp : V → Store σ → Option (CppException V × Store σ)} {pending : Bool}

/-- The block of `throwJSException` does what `toCpp` says. -/
structure Crosses (engine : Engine V σ)
    (make : V → Machine V σ → Completion (CppException V) V σ)
    (toCpp : V → Store σ → Option (CppException V × Store σ)) (pending : Bool) : Prop where
  throws : ∀ {machine : Machine V σ} (value : V), machine.Clear pending →
    throwJSException engine make .pendingException { machine with lastException := some value } =
      Completion.of machine ((toCpp value machine.toStore).map fun (exception, store) =>
        (.error exception, store))
  keeps : ∀ value store exception after,
    toCpp value store = some (exception, after) → after.depth = store.depth

mutual

theorem Script.exec_eq (crosses : Crosses engine make toCpp pending) :
    ∀ (script : Script V σ) {machine : Machine V σ}, machine.Clear pending →
      script.exec engine make machine =
        Completion.of machine (script.eval engine toCpp machine.toStore)
  | .ret value, machine, _ => by simp [Script.exec, Script.eval, Completion.of]
  | .throw value, machine, _ => by simp [Script.exec, Script.eval, Completion.of]
  | .access write next, machine, clear => by
      have rest := Script.exec_eq crosses (next machine.world)
        (clear.withStore (machine.write write))
      rw [Script.exec, Script.eval, rest]
      rfl
  | .call host onReturn onThrow, machine, clear => by
      have inside : ∀ result store, host.eval engine toCpp machine.push = some (result, store) →
          store.depth = machine.depth + 1 := fun _ _ ran => Host.eval_depth crosses.keeps host ran
      have called := invokeCallback_host engine _ clear _ inside
        (Host.exec_eq crosses host (clear.withStore machine.push))
      rw [Script.exec, Script.eval, called]
      -- the continuation runs in the machine that the callback leaves
      match host.eval engine toCpp machine.push with
      | none => rfl
      | some (.ok value, store) =>
          exact Script.exec_eq crosses (onReturn value) (clear.withStore store.pop)
      | some (.error exception, store) =>
          by_cases unused : store.pointerValueScopes.head? = some 0
          · simp only [unused, ↓reduceIte]
            exact Script.exec_eq crosses (onThrow _) (clear.withStore _)
          · simp only [unused, ↓reduceIte]
            rfl

theorem Host.exec_eq (crosses : Crosses engine make toCpp pending) :
    ∀ (host : Host V σ) {machine : Machine V σ}, machine.Clear pending →
      host.exec engine make machine =
        Completion.of machine (host.eval engine toCpp machine.toStore)
  | .ret value, machine, _ => by simp [Host.exec, Host.eval, Completion.of]
  | .throw exception, machine, _ => by simp [Host.exec, Host.eval, Completion.of]
  | .access write next, machine, clear => by
      have rest := Host.exec_eq crosses (next machine.world)
        (clear.withStore (machine.write write))
      rw [Host.exec, Host.eval, rest]
      rfl
  | .keep next, machine, clear => by
      rw [Host.exec, Host.eval, Host.exec_eq crosses next (clear.withStore machine.keep)]
      rfl
  | .release scope next, machine, clear => by
      rw [Host.exec, Host.eval,
        Host.exec_eq crosses next (clear.withStore (machine.release scope))]
      rfl
  | .call function onReturn onThrow, machine, clear => by
      have inside : ∀ result store,
          function.eval engine toCpp machine.push.push = some (result, store) →
            store.depth = machine.depth + 2 :=
        fun _ _ ran => Script.eval_depth crosses.keeps function ran
      have called := callFunction_script engine make toCpp _ clear crosses.throws _ inside
        crosses.keeps (Script.exec_eq crosses function clear.inScope)
      rw [Host.exec, Host.eval, called]
      match function.eval engine toCpp machine.push.push with
      | none => rfl
      | some (.ok value, store) =>
          exact Host.exec_eq crosses (onReturn value) (clear.withStore store.pop.pop)
      | some (.error value, store) =>
          dsimp only
          match toCpp value store with
          | none => rfl
          | some (exception, store) =>
              exact Host.exec_eq crosses (onThrow exception) (clear.withStore store.pop.pop)

end

end

/-- While a `jsi::JSError` is made, `throwJSException` makes no other. -/
theorem crosses_refused [DecidableEq V] (engine : Engine V σ)
    (make : V → Machine V σ → Completion (CppException V) V σ) :
    Crosses engine make refused true := by
  refine ⟨?_, depth_refused⟩
  intro machine value clear
  obtain ⟨start, last, handleScopes, callbackScopes, flag, canCall, experimental⟩ := machine
  obtain ⟨rfl, rfl, rfl, -⟩ := clear
  simp [throwJSException, napiGetAndClearLastException, refused, statusText, Completion.of]
  rfl

/-- Otherwise it makes the `jsi::JSError` of the value. -/
theorem crosses_toJSError [DecidableEq V] (engine : Engine V σ) :
    Crosses engine (makeJSError engine) (toJSError engine) false := by
  refine ⟨?_, depth_toJSError engine⟩
  intro machine value clear
  have inside : { machine with hasPendingJSError := true }.Clear true :=
    ⟨clear.lastException, rfl, clear.canCallIntoJs, clear.openHandleScopes⟩
  have made := Host.exec_eq (crosses_refused engine fun _ _ => .aborted) (engine.makeJSError value)
    inside
  obtain ⟨start, last, handleScopes, callbackScopes, flag, canCall, experimental⟩ := machine
  obtain ⟨rfl, rfl, rfl, -⟩ := clear
  dsimp only at made
  simp only [throwJSException, napiGetAndClearLastException, Option.getD_some, true_or, and_self,
    ↓reduceIte, makeJSError, toJSError]
  rw [made]
  match (engine.makeJSError value).eval engine refused start with
  | none => simp [Completion.of]
  | some (.ok result, store) => simp [Completion.of]
  | some (.error exception, store) => simp [Completion.of]

/-- However JavaScript and C++ call each other, an exception goes through the env like through one
call stack: each frame gets the value or the exception of the frame it has called, nothing of it
stays in the env and every scope is closed. The process aborts when a host function throws while a
primitive value that it got is still in use, and only then. -/
theorem nested_calls_exact [DecidableEq V] (engine : Engine V σ) (script : Script V σ)
    (host : Host V σ) {machine : Machine V σ} (clear : machine.Clear false) :
    script.run engine machine =
        Completion.of machine (script.eval engine (toJSError engine) machine.toStore) ∧
      host.run engine machine =
        Completion.of machine (host.eval engine (toJSError engine) machine.toStore) ∧
      (∀ result store,
        script.eval engine (toJSError engine) machine.toStore = some (result, store) →
          store.depth = machine.depth) ∧
      ∀ result store,
        host.eval engine (toJSError engine) machine.toStore = some (result, store) →
          store.depth = machine.depth :=
  ⟨Script.exec_eq (crosses_toJSError engine) script clear,
    Host.exec_eq (crosses_toJSError engine) host clear,
    fun _ _ => Script.eval_depth (depth_toJSError engine) script,
    fun _ _ => Host.eval_depth (depth_toJSError engine) host⟩

end

/-- JavaScript catches what a host function throws, which has caught what JavaScript threw. The
`message` of 7 throws while its error is made, and a string that is kept ends the process. -/
theorem nested_calls_exact_caught :
    let engine : Engine ℕ (List String) :=
      ⟨0, fun _ message log => (1, log ++ [message]),
        fun value => if value = 7 then .call (.throw 3) .ret .throw else .ret value⟩
    let caught : Script ℕ (List String) :=
      .call (.call (.throw 5) .ret fun _ => .keep (.release 0 (.throw (.native "no")))) .ret
        fun value => .ret (value + 1)
    let kept : Script ℕ (List String) := .call (.keep (.throw .unknown)) .ret .ret
    let host : Host ℕ (List String) := .call (.throw 7) .ret .throw
    caught.run engine { world := [] } =
        .returned 2 { world := ["Exception in HostFunction: no"] } ∧
      host.run engine { world := [] } =
        .threw (.native "A call to Node-API returned error code 0xa.") { world := [] } ∧
      kept.run engine { world := [] } = .aborted := by
  intro engine caught kept host
  have clear : Machine.Clear false { world := [] : Machine ℕ (List String) } :=
    ⟨rfl, rfl, rfl, by decide⟩
  exact ⟨(nested_calls_exact engine caught host clear).1,
    (nested_calls_exact engine caught host clear).2.1,
    (nested_calls_exact engine kept host clear).1⟩

end V8Jsi.HostCalls
