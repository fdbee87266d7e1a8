import Mathlib.Data.List.Infix
import V8Jsi.Lib.Raising
import V8Jsi.Lib.Unicode

set_option autoImplicit false

/- How `NodeApiJsiRuntime` turns a pending JavaScript exception into a C++ one:
`throwJSException` and `rewriteErrorMessage` of NodeApiJsiRuntime.cpp, with the
constructor of `jsi::JSError` in jsi.cpp. Every read of a property may run JavaScript
code, and std::string is a list of bytes. -/
namespace V8Jsi.NodeApiExceptions

open Raising Unicode

/-- `napi_valuetype` -/
inductive ValueType
  | undefined
  | null
  | boolean
  | number
  | string
  | symbol
  | object
  | function
  | external
  | bigint
  deriving DecidableEq, Repr

/-- Objects, functions and externals by their identity. -/
inductive JsValue
  | undefined
  | null
  | boolean (value : Bool)
  | number (bits : UInt64)
  | string (units : List UInt16)
  | symbol (identity : Nat)
  | bigInt (value : Int)
  | object (identity : Nat)
  | function (identity : Nat)
  | external (identity : Nat)
  deriving DecidableEq, Repr

def JsValue.valueType : JsValue → ValueType
  | .undefined => .undefined
  | .null => .null
  | .boolean _ => .boolean
  | .number _ => .number
  | .string _ => .string
  | .symbol _ => .symbol
  | .bigInt _ => .bigint
  | .object _ => .object
  | .function _ => .function
  | .external _ => .external

/-- `toJsiValue` makes a `jsi::Object` of the value. -/
def JsValue.isObject : JsValue → Bool
  | .object _ | .function _ | .external _ => true
  | .undefined | .null | .boolean _ | .number _ | .string _ | .symbol _ | .bigInt _ => false

/-- JavaScript code on a heap `σ`: what reading and assigning a property and calling a
function of one argument do, which is to return or to throw a value. -/
structure Engine (σ : Type) where
  global : JsValue
  get : σ → JsValue → List UInt16 → Except JsValue JsValue × σ
  set : σ → JsValue → List UInt16 → JsValue → Except JsValue Unit × σ
  call : σ → JsValue → JsValue → Except JsValue JsValue × σ
  newFromUtf8 : List UInt8 → List UInt16

/-- The exception pending in the environment, and the members of the runtime. -/
structure Runtime (σ : Type) where
  js : σ
  lastException : Option JsValue := none
  hasPendingJSError : Bool := false
  sourceURL : List UInt8 := []

structure JSError where
  value : JsValue
  message : List UInt8
  stack : List UInt8
  deriving DecidableEq, Repr

inductive Thrown
  | jsError (error : JSError)
  | jsiNativeException (message : List UInt8)
  deriving DecidableEq, Repr

abbrev Method (σ α : Type) : Type := EStateM Thrown (Runtime σ) α

def text (string : String) : List UInt8 := utf8Encode string.toList

def Thrown.what : Thrown → List UInt8
  | .jsError error => error.message ++ text "\n\n" ++ error.stack
  | .jsiNativeException message => message

def name (string : String) : List UInt16 := utf16Encode string.toList

/-- `napi_get_value_string_utf8`. -/
def utf8 (units : List UInt16) : List UInt8 := utf8Encode (decodeLossy units)

def napiInvalidArg : Nat := 1
def napiPendingException : Nat := 10

/-! ## Node-API -/

section

variable {σ : Type} (engine : Engine σ)

/-- A call that runs JavaScript. It is refused while an exception is pending, and an
exception thrown by the code becomes pending. -/
def callIntoJs {α : Type} (code : σ → Except JsValue α × σ) : Method σ (Except Nat α) := fun runtime =>
  match runtime.lastException with
  | some _ => .ok (.error napiPendingException) runtime
  | none =>
      match code runtime.js with
      | (.ok value, js) => .ok (.ok value) { runtime with js }
      | (.error exception, js) =>
          .ok (.error napiPendingException) { runtime with js, lastException := some exception }

def napiGetProperty (object : JsValue) (key : List UInt16) : Method σ (Except Nat JsValue) :=
  callIntoJs fun js => engine.get js object key

def napiSetProperty (object : JsValue) (key : List UInt16) (value : JsValue) :
    Method σ (Except Nat Unit) :=
  callIntoJs fun js => engine.set js object key value

def napiCallFunction (function argument : JsValue) : Method σ (Except Nat JsValue) :=
  callIntoJs fun js => engine.call js function argument

def napiGetAndClearLastException : Method σ JsValue := fun runtime =>
  .ok (runtime.lastException.getD .undefined) { runtime with lastException := none }

/-- A null `napi_value` is an invalid argument. -/
def napiTypeof : Option JsValue → Except Nat ValueType
  | none => .error napiInvalidArg
  | some value => .ok value.valueType

/-! ## Throwing -/

def errorCodeText (status : Nat) : List UInt8 :=
  text "A call to Node-API returned error code 0x" ++
    utf8Encode (Nat.toDigits 16 status) ++ text "."

/-- `AutoRestore` around code that throws. -/
def withPendingJSError {α : Type} (body : Method σ α) : Method σ α := fun runtime =>
  match body { runtime with hasPendingJSError := true } with
  | .ok value after => .ok value { after with hasPendingJSError := runtime.hasPendingJSError }
  | .error thrown after =>
      .error thrown { after with hasPendingJSError := runtime.hasPendingJSError }

/-- `throwJSException`, with what it does when no error is pending. -/
def throwJSExceptionWith {α : Type} (raise : JsValue → Method σ α) (status : Nat) :
    Method σ α := do
  let jsError ← napiGetAndClearLastException
  let runtime ← get
  if runtime.hasPendingJSError = false ∧
      (status = napiPendingException ∨ jsError.valueType ≠ .undefined) then
    withPendingJSError (raise jsError)
  else
    throw (.jsiNativeException (errorCodeText status))

/-- The call from inside `throwJSException`, where an error is pending. -/
def throwNested {α : Type} (status : Nat) : Method σ α :=
  throwJSExceptionWith (fun jsError => throw (.jsError ⟨jsError, [], []⟩)) status

/-- `CHECK_NAPI` -/
def checkNapi {α : Type} : Except Nat α → Method σ α
  | .ok value => pure value
  | .error status => throwNested status

def throwNativeException {α : Type} (errorMessage : String) : Method σ α :=
  throw (.jsiNativeException (text errorMessage))

def typeOf (value : Option JsValue) : Method σ ValueType := checkNapi (napiTypeof value)

def stringToStdString (stringValue : JsValue) : Method σ (List UInt8) := do
  let type ← typeOf (some stringValue)
  match type, stringValue with
  | .string, .string units => pure (utf8 units)
  | _, _ =>
      throwNativeException "Cannot convert a non JS string Node-API Value to a std::string."

def getProperty (object : JsValue) (key : List UInt16) : Method σ JsValue := do
  checkNapi (← napiGetProperty engine object key)

def setProperty (object : JsValue) (key : List UInt16) (value : JsValue) : Method σ Unit := do
  checkNapi (← napiSetProperty engine object key value)

/-! ## The messages of an error -/

def outOfStackSpace : List UInt8 := text "Out of stack space"

def maximumCallStack : List UInt8 := text "RangeError : Maximum call stack size exceeded"

def createStringUtf8 (value : List UInt8) : JsValue := .string (engine.newFromUtf8 value)

/-- The characters before the first zero byte. -/
def cString (string : List UInt8) : List UInt8 := string.takeWhile (· ≠ 0)

/-- The message of a stack overflow is replaced. -/
def replaceOverflow (jsError message : JsValue) : Method σ Unit := do
  if (← stringToStdString message) = outOfStackSpace then
    setProperty engine jsError (name "message") (createStringUtf8 engine maximumCallStack)

def replaceMessage (jsError message : JsValue) : Method σ (Option JsValue) := do
  if (← typeOf (some message)) = .string then
    replaceOverflow engine jsError message
  pure (some message)

/-- The first half of `rewriteErrorMessage`, with the `napi_value` it leaves in
`message`. -/
def rewriteMessage (jsError : JsValue) : Method σ (Option JsValue) := do
  match ← napiGetProperty engine jsError (name "message") with
  | .error _ =>
      let _ ← napiGetAndClearLastException
      pure none
  | .ok message => replaceMessage engine jsError message

/-- The stack with the URL behind it. -/
def stackWithURL (stackStr sourceURL : List UInt8) : List UInt8 :=
  stackStr ++ (sourceURL ++ [0x0A] ++ stackStr)

def addURL (jsError stack : JsValue) (sourceURL : List UInt8) : Method σ Unit := do
  let stackStr ← stringToStdString stack
  if ¬ sourceURL <:+: stackStr then
    setProperty engine jsError (name "stack")
      (createStringUtf8 engine (cString (stackWithURL stackStr sourceURL)))

/-- The second half. It asks for the type of the message where it means the stack. -/
def rewriteStack (jsError : JsValue) (message : Option JsValue) (sourceURL : List UInt8) :
    Method σ Unit := do
  match ← napiGetProperty engine jsError (name "stack") with
  | .error _ =>
      let _ ← napiGetAndClearLastException
  | .ok stack =>
      if (← typeOf message) = .string then
        addURL engine jsError stack sourceURL

def rewriteErrorMessage (jsError : JsValue) : Method σ Unit := do
  let message ← rewriteMessage engine jsError
  let runtime ← get
  if runtime.sourceURL ≠ [] then
    rewriteStack engine jsError message runtime.sourceURL

/-! ## `jsi::JSError` -/

def kindToString : JsValue → String
  | .undefined => "undefined"
  | .null => "null"
  | .boolean value => if value then "true" else "false"
  | .number _ => "a number"
  | .string _ => "a string"
  | .symbol _ => "a symbol"
  | .bigInt _ => "a bigint"
  | .function _ => "a function"
  | .object _ | .external _ => "an object"

def callGlobalFunction (function : String) (argument : JsValue) : Method σ JsValue := do
  let value ← getProperty engine engine.global (name function)
  if ¬ value.isObject then
    throwNativeException ("callGlobalFunction: JS global property '" ++ function ++ "' is " ++
      kindToString value ++ ", expected a Function")
  else if value.valueType ≠ .function then
    throwNativeException ("callGlobalFunction: JS global property '" ++ function ++
      "' is a non-callable Object, expected a Function")
  else checkNapi (← napiCallFunction engine value argument)

def stringOf (property : JsValue) : Method σ JsValue :=
  if property.valueType ≠ .undefined ∧ property.valueType ≠ .string then
    callGlobalFunction engine "String" property
  else pure property

/-- The text of the property, which stays empty when the property is undefined. -/
def propertyText (object : JsValue) (key : String) : Method σ (List UInt8) := do
  match ← stringOf engine (← getProperty engine object (name key)) with
  | .string units => pure (utf8 units)
  | .undefined => pure []
  | other => pure (text ("String(e." ++ key ++ ") is a " ++ kindToString other))

/-- `message_` and `stack_` of an error whose value is an object. -/
def objectTexts (value : JsValue) : Method σ (List UInt8 × List UInt8) := do
  let message ←
    try propertyText engine value "message"
    catch ex => pure (text "[Exception while creating message string: " ++ ex.what ++ text "]")
  try
    let stack ← propertyText engine value "stack"
    pure (message, stack)
  catch ex =>
    pure (text "[Exception while creating stack string: " ++ ex.what ++ text "]", [])

def valueText (value : JsValue) : Method σ (List UInt8) := do
  try
    match value with
    | .string units => pure (utf8 units)
    | _ =>
        match ← callGlobalFunction engine "String" value with
        | .string units => pure (utf8 units)
        | other => pure (text ("String(e) is a " ++ kindToString other))
  catch ex => pure (text "[Exception while creating message string: " ++ ex.what ++ text "]")

/-- `JSError(runtime, value)` -/
def makeJSError (value : JsValue) : Method σ JSError := do
  let texts ← (if value.isObject then objectTexts engine value else pure ([], []) : Method σ _)
  let message ← (if texts.1 = [] then valueText engine value else pure texts.1 : Method σ _)
  pure ⟨value, message, if texts.2 = [] then text "no stack" else texts.2⟩

/-- The block of `throwJSException` that throws a `jsi::JSError`. -/
def raise (jsError : JsValue) : Method σ Empty := do
  if jsError.valueType = .object then
    rewriteErrorMessage engine jsError
  throw (.jsError (← makeJSError engine jsError))

def throwJSException (status : Nat) : Method σ Empty := throwJSExceptionWith (raise engine) status

end

/-! ## Errors that can be rewritten -/

section

variable {σ : Type} (engine : Engine σ)

def readsOverflow : Except JsValue JsValue → Bool
  | .ok (.string units) => utf8 units = outOfStackSpace
  | _ => false

/-- Assigning the message of a stack overflow. -/
def assignMessage (js : σ) (jsError : JsValue) : Except JsValue Unit × σ :=
  engine.set js jsError (name "message") (createStringUtf8 engine maximumCallStack)

def assignStack (js : σ) (jsError : JsValue) (stackStr sourceURL : List UInt8) :
    Except JsValue Unit × σ :=
  engine.set js jsError (name "stack")
    (createStringUtf8 engine (cString (stackWithURL stackStr sourceURL)))

/-- The heap when the stack is read. -/
def afterMessage (js : σ) (jsError : JsValue) : σ :=
  let message := engine.get js jsError (name "message")
  if readsOverflow message.1 then (assignMessage engine message.2 jsError).2 else message.2

/-- A stack that can be read is a string that holds the URL already or can be assigned,
unless the message is not a string; and the message could be read. -/
def StackRewritable (js : σ) (jsError : JsValue) (message : Option JsValue)
    (sourceURL : List UInt8) : Prop :=
  ∀ stack, (engine.get js jsError (name "stack")).1 = .ok stack →
    ∃ value, message = some value ∧
      (value.valueType = .string → ∃ units, stack = .string units ∧
        (sourceURL <:+: utf8 units ∨
          (assignStack engine (engine.get js jsError (name "stack")).2 jsError (utf8 units)
            sourceURL).1 = .ok ()))

/-- The message of a stack overflow can be assigned, and the stack rewritten when
there is a URL. -/
structure Rewritable (js : σ) (jsError : JsValue) (sourceURL : List UInt8) : Prop where
  message : readsOverflow (engine.get js jsError (name "message")).1 = true →
    (assignMessage engine (engine.get js jsError (name "message")).2 jsError).1 = .ok ()
  stack : sourceURL ≠ [] →
    StackRewritable engine (afterMessage engine js jsError) jsError
      (engine.get js jsError (name "message")).1.toOption sourceURL

end

/-! ## While an error is pending -/

/-- The runtime inside `throwJSException`: no exception is left in the environment. -/
structure Clear {σ : Type} (runtime : Runtime σ) : Prop where
  cleared : runtime.lastException = none
  pending : runtime.hasPendingJSError = true

section

variable {σ α : Type} {engine : Engine σ}

section

variable {code : σ → Except JsValue α × σ} {runtime : Runtime σ}

theorem callIntoJs_ok (clear : Clear runtime) {value : α} {js : σ}
    (returned : code runtime.js = (.ok value, js)) :
    callIntoJs code runtime = .ok (.ok value) { runtime with js } := by
  simp only [callIntoJs, clear.cleared, returned]

theorem callIntoJs_threw (clear : Clear runtime) {exception : JsValue} {js : σ}
    (threw : code runtime.js = (.error exception, js)) :
    callIntoJs code runtime =
      .ok (.error napiPendingException) { runtime with js, lastException := some exception } := by
  simp only [callIntoJs, clear.cleared, threw]

theorem checked_ok (clear : Clear runtime) {value : α} {js : σ}
    (returned : code runtime.js = (.ok value, js)) :
    (callIntoJs code >>= checkNapi) runtime = .ok value { runtime with js } := by
  rw [bind_ok (callIntoJs_ok clear returned)]
  rfl

end

theorem stringToStdString_string (units : List UInt16) (runtime : Runtime σ) :
    stringToStdString (.string units) runtime = .ok (utf8 units) runtime := rfl

theorem setProperty_ok {object value : JsValue} {key : List UInt16} {runtime : Runtime σ}
    (clear : Clear runtime) (assigned : (engine.set runtime.js object key value).1 = .ok ()) :
    setProperty engine object key value runtime =
      .ok () { runtime with js := (engine.set runtime.js object key value).2 } :=
  checked_ok clear (Prod.ext assigned rfl)

section

variable {jsError : JsValue} {runtime : Runtime σ}

theorem replaceOverflow_ok {units : List UInt16} (clear : Clear runtime)
    (settable : utf8 units = outOfStackSpace →
      (assignMessage engine runtime.js jsError).1 = .ok ()) :
    replaceOverflow engine jsError (.string units) runtime =
      .ok () { runtime with
        js := if utf8 units = outOfStackSpace then (assignMessage engine runtime.js jsError).2
          else runtime.js } := by
  rw [replaceOverflow, bind_ok (stringToStdString_string units runtime)]
  by_cases overflow : utf8 units = outOfStackSpace
  · rw [if_pos overflow, if_pos overflow]
    exact setProperty_ok clear (settable overflow)
  · rw [if_neg overflow, if_neg overflow]
    rfl

theorem replaceMessage_string (units : List UInt16) :
    replaceMessage engine jsError (.string units) runtime =
      (replaceOverflow engine jsError (.string units) >>= fun _ => pure (some (.string units)))
        runtime := rfl

theorem rewriteMessage_read (clear : Clear runtime) {message : JsValue} {js : σ}
    (read : engine.get runtime.js jsError (name "message") = (.ok message, js)) :
    rewriteMessage engine jsError runtime =
      replaceMessage engine jsError message { runtime with js } :=
  bind_ok (callIntoJs_ok clear read)

theorem rewriteMessage_unread (clear : Clear runtime) {exception : JsValue} {js : σ}
    (read : engine.get runtime.js jsError (name "message") = (.error exception, js)) :
    rewriteMessage engine jsError runtime = .ok none { runtime with js } := by
  refine (bind_ok (callIntoJs_threw clear read)).trans ?_
  rw [clear.cleared]
  rfl

theorem rewriteMessage_ok (clear : Clear runtime)
    (settable : readsOverflow (engine.get runtime.js jsError (name "message")).1 = true →
      (assignMessage engine (engine.get runtime.js jsError (name "message")).2 jsError).1 =
        .ok ()) :
    rewriteMessage engine jsError runtime =
      .ok (engine.get runtime.js jsError (name "message")).1.toOption
        { runtime with js := afterMessage engine runtime.js jsError } := by
  cases read : engine.get runtime.js jsError (name "message") with
  | mk reply js =>
    rw [read] at settable
    cases reply with
    | error exception =>
      rw [rewriteMessage_unread clear read, afterMessage, read]
      rfl
    | ok message =>
      rw [rewriteMessage_read clear read, afterMessage, read]
      cases message with
      | string units =>
        have replaced : replaceOverflow engine jsError (.string units) { runtime with js } = _ :=
          replaceOverflow_ok ⟨clear.cleared, clear.pending⟩ fun overflow =>
            settable (decide_eq_true overflow)
        rw [replaceMessage_string, bind_ok replaced]
        by_cases overflow : utf8 units = outOfStackSpace
        · simp only [readsOverflow, overflow, decide_true, ↓reduceIte]
          rfl
        · simp only [readsOverflow, overflow, decide_false, ↓reduceIte, Bool.false_eq_true]
          rfl
      | undefined | null | boolean | number | symbol | bigInt | object | function | external => rfl

theorem rewriteStack_read (clear : Clear runtime) (message : Option JsValue)
    (sourceURL : List UInt8) {stack : JsValue} {js : σ}
    (read : engine.get runtime.js jsError (name "stack") = (.ok stack, js)) :
    rewriteStack engine jsError message sourceURL runtime =
      (typeOf message >>= fun type =>
        if type = .string then addURL engine jsError stack sourceURL else pure ())
        { runtime with js } :=
  bind_ok (callIntoJs_ok clear read)

theorem rewriteErrorMessage_after {message : Option JsValue} {middle : Runtime σ}
    (rewritten : rewriteMessage engine jsError runtime = .ok message middle) :
    rewriteErrorMessage engine jsError runtime =
      (if middle.sourceURL ≠ [] then rewriteStack engine jsError message middle.sourceURL
        else pure ()) middle :=
  bind_ok rewritten

end

end

/-! ## Throwing the error -/

/-- The status tells of an exception or the exception shows, and an object can be
rewritten. -/
def Crosses {σ : Type} (engine : Engine σ) (js : σ) (sourceURL : List UInt8) (exception : JsValue)
    (status : Nat) : Prop :=
  (status = napiPendingException ∨ exception ≠ .undefined) ∧
    (exception.valueType = .object → Rewritable engine js exception sourceURL)

section

variable {σ : Type} {engine : Engine σ} {exception : JsValue}

end

/-- An object whose message cannot be read, with a stack. -/
def guarded : Engine Unit where
  global := .undefined
  get _ _ key := (if key = name "message" then .error (.string []) else .ok (.string []), ())
  set _ _ _ _ := (.ok (), ())
  call _ _ _ := (.ok .undefined, ())
  newFromUtf8 _ := []

/-- An object with a message, whose stack is a number. -/
def numbered : Engine Unit where
  global := .undefined
  get _ _ key := (if key = name "message" then .ok (.string []) else .ok (.number 0), ())
  set _ _ _ _ := (.ok (), ())
  call _ _ _ := (.ok .undefined, ())
  newFromUtf8 _ := []

end V8Jsi.NodeApiExceptions
