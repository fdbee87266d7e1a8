import V8Jsi.Lib.Heap
import V8Jsi.Lib.Outcome
import V8Jsi.Lib.Runs

set_option autoImplicit false

/- `NodeApiRefCountedPointerValue`, the stack of pointer scopes and the pending
deletions of NodeApiJsiRuntime.cpp. Objects and `napi_ref`s are addresses of two
heaps. Each operation is one step, and Node-API calls succeed. -/
namespace V8Jsi.PointerValue

open Runs Heaps

inductive NodeApiPointerValueKind
  | object
  | weakObject
  | string
  | stringPropNameID
  | symbol
  | bigInt
  deriving DecidableEq, Repr

/-- `value` says that `value_` is not null. -/
structure NodeApiRefCountedPointerValue where
  value : Bool
  ref : Option Nat := none
  refCount : Nat
  pointerKind : NodeApiPointerValueKind
  canBeDeletedFromStack : Bool := false
  deriving DecidableEq, Repr

/-- Accesses to deleted objects and references, an iterator past the end of
`stackValues_`, and the crash of a failed check. -/
inductive Failure
  | object (fault : Fault)
  | reference (fault : Fault)
  | stackRange
  | checkFailed
  deriving DecidableEq, Repr

/-- The objects, and the strength with which each `napi_ref` was created. -/
structure Store where
  objects : Heap NodeApiRefCountedPointerValue := {}
  references : Heap Nat := {}
  deriving DecidableEq, Repr

namespace Store

def read (store : Store) (p : Nat) : Except Failure NodeApiRefCountedPointerValue :=
  (store.objects.read p).mapError .object

def write (store : Store) (p : Nat) (value : NodeApiRefCountedPointerValue) :
    Except Failure Store := do
  let objects ← (store.objects.write p value).mapError .object
  return { store with objects }

def delete (store : Store) (p : Nat) : Except Failure Store := do
  let objects ← (store.objects.delete p).mapError .object
  return { store with objects }

def napiDeleteReference (store : Store) (ref : Nat) : Except Failure Store := do
  let references ← (store.references.delete ref).mapError .reference
  return { store with references }

/-- Primitive values are wrapped in an object first; weak references do not keep
their object alive. -/
def createNodeApiRef (store : Store) (p : Nat) : Except Failure Store := do
  let this ← store.read p
  if !this.value then throw .checkFailed
  else if this.ref ≠ none then throw .checkFailed
  else
    let initialRefCount := if this.pointerKind = .weakObject then 0 else 1
    { store with references := store.references.alloc initialRefCount }.write p
      { this with ref := some store.references.next }

/-- The end of `deleteStackValue`. -/
def clearStackValue (store : Store) (p : Nat) : Except Failure Store := do
  let this ← store.read p
  let store ← if this.refCount ≠ 0 ∧ this.ref = none then store.createNodeApiRef p else pure store
  let this ← store.read p
  store.write p { this with value := false }

/-- After `delete this` the function runs on. -/
def deleteStackValue (store : Store) (p : Nat) : Except Failure Store := do
  let this ← store.read p
  if !this.value then throw .checkFailed
  else
    let store ← if this.canBeDeletedFromStack then store.delete p else pure store
    store.clearStackValue p

/-- The end of `deleteNodeApiRef`. -/
def deleteUnlessOnStack (store : Store) (p : Nat) : Except Failure Store := do
  let this ← store.read p
  if this.value then store.write p { this with canBeDeletedFromStack := true }
  else store.delete p

def deleteNodeApiRef (store : Store) (p : Nat) : Except Failure Store := do
  let this ← store.read p
  match this.ref with
  | some ref =>
      let store ← store.napiDeleteReference ref
      let store ← store.write p { this with ref := none }
      store.deleteUnlessOnStack p
  | none => store.deleteUnlessOnStack p

end Store

/-- Two pools: releases are added to the selected one, the JS thread empties the
other. -/
structure NodeApiPendingDeletions where
  pool0 : List Nat := []
  pool1 : List Nat := []
  poolSelector : Bool := false
  deriving DecidableEq, Repr

namespace NodeApiPendingDeletions

def pool (deletions : NodeApiPendingDeletions) : Bool → List Nat
  | false => deletions.pool0
  | true => deletions.pool1

def setPool (deletions : NodeApiPendingDeletions) (pool : List Nat) :
    Bool → NodeApiPendingDeletions
  | false => { deletions with pool0 := pool }
  | true => { deletions with pool1 := pool }

def selected (deletions : NodeApiPendingDeletions) : List Nat :=
  deletions.pool deletions.poolSelector

def addPointerValueToDelete (deletions : NodeApiPendingDeletions) (p : Nat) :
    NodeApiPendingDeletions :=
  deletions.setPool (deletions.selected ++ [p]) deletions.poolSelector

def deletePointerValues (deletions : NodeApiPendingDeletions) (store : Store) :
    Except Failure (NodeApiPendingDeletions × Store) :=
  if deletions.selected.isEmpty then .ok (deletions, store)
  else do
    let switched := { deletions with poolSelector := !deletions.poolSelector }
    let store ← (switched.pool !switched.poolSelector).foldlM Store.deleteNodeApiRef store
    return (switched.setPool [] !switched.poolSelector, store)

end NodeApiPendingDeletions

/-- `held` records the references that jsi pointers and holders own. -/
structure NodeApiJsiRuntime where
  store : Store := {}
  stackScopes : List Nat := []
  stackValues : List Nat := []
  pendingDeletions : NodeApiPendingDeletions := {}
  held : List Nat := []
  deriving DecidableEq, Repr

namespace NodeApiJsiRuntime

def int32Max : Nat := 0x7FFFFFFF

def addStackValue (runtime : NodeApiJsiRuntime) (p : Nat) : NodeApiJsiRuntime :=
  { runtime with stackValues := runtime.stackValues ++ [p] }

def make (runtime : NodeApiJsiRuntime) (pointerKind : NodeApiPointerValueKind)
    (initialRefCount : Nat) : NodeApiJsiRuntime :=
  let p := runtime.store.objects.next
  let objects := runtime.store.objects.alloc
    { value := true, refCount := initialRefCount, pointerKind }
  { runtime with
    store := { runtime.store with objects }
    held := List.replicate initialRefCount p ++ runtime.held }.addStackValue p

def clone (runtime : NodeApiJsiRuntime) (p : Nat) : Except Failure NodeApiJsiRuntime := do
  let this ← runtime.store.read p
  let refCount := this.refCount + 1
  if ¬ (refCount > 1) then throw .checkFailed
  else if ¬ (refCount < int32Max) then throw .checkFailed
  else
    let store ← runtime.store.write p { this with refCount }
    return { runtime with store, held := p :: runtime.held }

/-- A weak reference gives no value once its object has been collected. -/
def getValue (runtime : NodeApiJsiRuntime) (p : Nat) (collected : Bool) :
    Except Failure NodeApiJsiRuntime := do
  let this ← runtime.store.read p
  if this.value then return runtime
  else
    match this.ref with
    | none => return runtime
    | some _ =>
        if this.pointerKind = .weakObject ∧ collected then return runtime
        else
          let store ← runtime.store.write p { this with value := true }
          return { runtime with store }.addStackValue p

/-- The last release hands the object over to the pending deletions. -/
def invalidate (runtime : NodeApiJsiRuntime) (p : Nat) : Except Failure NodeApiJsiRuntime := do
  let this ← runtime.store.read p
  if this.refCount = 0 then throw .checkFailed
  else
    let store ← runtime.store.write p { this with refCount := this.refCount - 1 }
    let released := { runtime with store, held := runtime.held.erase p }
    if this.refCount - 1 = 0 then
      return { released with
        pendingDeletions := runtime.pendingDeletions.addPointerValueToDelete p }
    else return released

def deletePointerValues (runtime : NodeApiJsiRuntime) : Except Failure NodeApiJsiRuntime := do
  let (pendingDeletions, store) ← runtime.pendingDeletions.deletePointerValues runtime.store
  return { runtime with store, pendingDeletions }

def pushPointerValueScope (runtime : NodeApiJsiRuntime) : NodeApiJsiRuntime :=
  { runtime with stackScopes := runtime.stackValues.length :: runtime.stackScopes }

def popPointerValueScope (runtime : NodeApiJsiRuntime) : Except Failure NodeApiJsiRuntime :=
  match runtime.stackScopes with
  | [] => throw .checkFailed
  | newStackSize :: stackScopes =>
      if newStackSize > runtime.stackValues.length then throw .stackRange
      else do
        let store ← (runtime.stackValues.drop newStackSize).foldlM Store.deleteStackValue
          runtime.store
        { runtime with
          store
          stackScopes
          stackValues := runtime.stackValues.take newStackSize }.deletePointerValues

end NodeApiJsiRuntime

inductive Action
  | pushPointerValueScope
  | popPointerValueScope
  | make (pointerKind : NodeApiPointerValueKind) (initialRefCount : Nat)
  | clone (p : Nat)
  | getValue (p : Nat) (collected : Bool)
  | invalidate (p : Nat)
  | deletePointerValues
  deriving DecidableEq, Repr

/-- Scopes are well nested, and a pointer is used by whoever holds it. -/
def call (runtime : NodeApiJsiRuntime) : Action → Option (Except Failure NodeApiJsiRuntime)
  | .pushPointerValueScope => some (.ok runtime.pushPointerValueScope)
  | .popPointerValueScope =>
      if runtime.stackScopes ≠ [] then some runtime.popPointerValueScope else none
  | .make pointerKind initialRefCount =>
      if 1 ≤ initialRefCount then some (.ok (runtime.make pointerKind initialRefCount)) else none
  | .clone p => if p ∈ runtime.held then some (runtime.clone p) else none
  | .getValue p collected =>
      if p ∈ runtime.held then some (runtime.getValue p collected) else none
  | .invalidate p => if p ∈ runtime.held then some (runtime.invalidate p) else none
  | .deletePointerValues => some runtime.deletePointerValues

def nodeApiJsiRuntime : Program NodeApiJsiRuntime Action Failure where
  start := {}
  call := call

end V8Jsi.PointerValue
