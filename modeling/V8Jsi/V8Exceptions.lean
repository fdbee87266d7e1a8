import Mathlib.Data.List.Infix

set_option autoImplicit false

/- How the operations of `V8Runtime` report the JavaScript exceptions that end them:
V8JsiRuntime.cpp, with `jsi::JSError` of jsi.cpp and the way back through
`HostFunctionProxy::call` of V8JsiRuntime_impl.h. -/
namespace V8Jsi.V8Exceptions

/-- Objects by their identity. -/
inductive JsValue
  | undefined
  | null
  | boolean (value : Bool)
  | number (bits : UInt64)
  | string (units : List UInt16)
  | symbol (identity : Nat)
  | bigInt (value : Int)
  | object (identity : Nat)
  deriving DecidableEq, Repr

def JsValue.isObject : JsValue → Bool
  | .object _ => true
  | .undefined | .null | .boolean _ | .number _ | .string _ | .symbol _ | .bigInt _ => false

/-- What V8 tells about an exception: the text of its `Message`, which may be missing,
its stack trace and its conversion to a string. -/
structure Engine where
  message : JsValue → Option (List Char)
  stackTrace : JsValue → List Char
  description : JsValue → List Char

/-- The objects below `next` exist. `errorValue` is `none` as long as the global `Error`
is the built-in function, which makes a new object; otherwise it gives the value that a
`jsi::JSError` ends up with for a message. -/
structure Realm where
  next : Nat
  errorValue : Option (List Char → JsValue) := none

def Realm.Exists (realm : Realm) : JsValue → Prop
  | .object identity => identity < realm.next
  | .undefined | .null | .boolean _ | .number _ | .string _ | .symbol _ | .bigInt _ => True

/-- The end of an operation that does not return: the process is aborted, or a
`jsi::JSError` is thrown, with the exception that V8 still holds. -/
inductive Raised
  | aborted
  | jsError (value : JsValue) (pending : Option JsValue) (after : Realm)

/-- `jsi::JSError(runtime, message)` calls the global `Error`. -/
def Realm.newJSError (realm : Realm) (message : List Char) : JsValue × Realm :=
  match realm.errorValue with
  | none => (.object realm.next, { realm with next := realm.next + 1 })
  | some value => (value message, realm)

def contains (text part : List Char) : Bool := text.tails.any part.isPrefixOf

/-- "Uncaught Error: " is taken off. -/
def withoutUncaught (message : List Char) : List Char :=
  if "Uncaught Error:".toList.isPrefixOf message then message.drop 16 else message

def stackText (stackTrace : List Char) : List Char :=
  if stackTrace.length > 0 then stackTrace ++ ['\n'] else []

def overflowText : List Char := "Maximum call stack size exceeded".toList

/-- The error gets a `stack`, for which it has to be an object. After a stack overflow
it is a new object that is not an `Error`. -/
def reportException (engine : Engine) (realm : Realm) (exception : JsValue) : Raised :=
  match engine.message exception with
  | none =>
      let (value, after) := realm.newJSError (engine.description exception)
      .jsError value none after
  | some message =>
      if contains (stackText (engine.stackTrace exception)) overflowText then
        .jsError (.object realm.next) none { realm with next := realm.next + 1 }
      else
        let (value, after) := realm.newJSError (withoutUncaught message)
        if value.isObject then .jsError value none after else .aborted

/-! ## The operations

V8 replies with a result, or with the exception that user code threw. -/

section

variable {α : Type}

/-- The reply is received by a `v8::TryCatch`. -/
def reported (engine : Engine) (realm : Realm) (reply : Except JsValue α) : Except Raised α :=
  match reply with
  | .ok result => .ok result
  | .error exception => .error (reportException engine realm exception)

/-- There is no `v8::TryCatch`: V8 keeps the exception for the JavaScript code or the
`v8::TryCatch` around the operation, if there is one. -/
def failed (realm : Realm) (enclosed : Bool) (message : String) (exception : JsValue) : Raised :=
  let (value, after) := realm.newJSError message.toList
  .jsError value (if enclosed then some exception else none) after

/-- `ToLocalChecked` and `ToChecked`. -/
def toChecked (reply : Except JsValue α) : Except Raised α :=
  match reply with
  | .ok result => .ok result
  | .error _ => .error .aborted

def unlessFailed (realm : Realm) (enclosed : Bool) (message : String) (reply : Except JsValue α) :
    Except Raised α :=
  match reply with
  | .ok result => .ok result
  | .error exception => .error (failed realm enclosed message exception)

end

def evaluateJavaScript (engine : Engine) (realm : Realm) (reply : Except JsValue JsValue) :
    Except Raised JsValue :=
  reported engine realm reply

def call (engine : Engine) (realm : Realm) (reply : Except JsValue JsValue) :
    Except Raised JsValue :=
  reported engine realm reply

/-- A `jsi::JSError` is made that is never thrown. -/
def callAsConstructor (engine : Engine) (realm : Realm) (reply : Except JsValue JsValue) :
    Except Raised JsValue :=
  match reply with
  | .ok newObject => .ok newObject
  | .error exception =>
      let (_, after) := realm.newJSError "Object construction failed!!".toList
      .error (reportException engine after exception)

def getPropertyByString (reply : Except JsValue JsValue) : Except Raised JsValue :=
  toChecked reply

def getPropertyByPropNameID (realm : Realm) (enclosed : Bool) (reply : Except JsValue JsValue) :
    Except Raised JsValue :=
  unlessFailed realm enclosed "V8Runtime::getProperty failed." reply

def hasPropertyByString (realm : Realm) (enclosed : Bool) (reply : Except JsValue Bool) :
    Except Raised Bool :=
  unlessFailed realm enclosed "V8Runtime::hasPropertyValue failed." reply

def hasPropertyByPropNameID (realm : Realm) (enclosed : Bool) (reply : Except JsValue Bool) :
    Except Raised Bool :=
  unlessFailed realm enclosed "V8Runtime::hasPropertyValue failed." reply

def instanceOf (reply : Except JsValue Bool) : Except Raised Bool :=
  toChecked reply

inductive Operation
  | evaluateJavaScript
  | call
  | callAsConstructor
  | getPropertyByString
  | getPropertyByPropNameID
  | hasPropertyByString
  | hasPropertyByPropNameID
  | setPropertyByString
  | setPropertyByPropNameID
  | instanceOf
  deriving DecidableEq, Repr

/-- A script has put something in the place of `Error` that leads back to the value. -/
def Restores (realm : Realm) (message : List Char) (exception : JsValue) : Prop :=
  ∃ value, realm.errorValue = some value ∧ value message = exception

section

variable {engine : Engine} {realm : Realm} {exception : JsValue}

/-- Nothing is taken out of the realm. -/
structure Extends (before after : Realm) : Prop where
  next : before.next ≤ after.next
  errorValue : after.errorValue = before.errorValue

theorem Extends.trans {before middle after : Realm} (first : Extends before middle)
    (second : Extends middle after) : Extends before after :=
  ⟨first.next.trans second.next, second.errorValue.trans first.errorValue⟩

theorem Extends.restores {after : Realm} (extends_ : Extends realm after) (message : List Char) :
    Restores after message exception ↔ Restores realm message exception := by
  rw [Restores, extends_.errorValue, Restores]

/-- What an operation ends with: the process is lost, or a `jsi::JSError` is thrown that
holds the exception itself under the condition. -/
inductive Ends (realm : Realm) (exception : JsValue) (condition : Prop)
    (pending : Option JsValue) : Raised → Prop
  | aborted (lost : ¬ condition) : Ends realm exception condition pending .aborted
  | jsError (value : JsValue) (after : Realm) (extends_ : Extends realm after)
      (same : value = exception ↔ condition) :
      Ends realm exception condition pending (.jsError value pending after)

end

/-- An engine that describes every exception alike. -/
def plainEngine : Engine where
  message _ := some "Uncaught Error: x".toList
  stackTrace _ := []
  description _ := []

end V8Jsi.V8Exceptions
