import V8Jsi.Lib.Heap
import V8Jsi.Lib.Outcome
import V8Jsi.Lib.Runs
import V8Jsi.ScriptRuns

set_option autoImplicit false

/- The references of one living env: `Reference` and `ReferenceWithFinalizer` of
js_native_api_v8.cc, the calls that make and use them, the weak callbacks of the garbage
collector, and the queue of `NodeApiEnv::DrainFinalizerQueue`. The callback of the user runs
between a `Finalize` and its return, and may make any of the calls. -/
namespace V8Jsi.NapiReference

open Runs Heaps Outcome ScriptRuns

inductive ValueKind
  | object
  | symbol
  | other
  deriving DecidableEq, Repr

/-- `v8::Persistent` in its three states. -/
inductive Persistent (V : Type)
  | empty
  | strong (value : V)
  | weak (value : V)
  deriving DecidableEq, Repr

def Persistent.isEmpty {V : Type} : Persistent V → Bool
  | .empty => true
  | .strong _ | .weak _ => false

inductive ReferenceOwnership
  | kRuntime
  | kUserland
  deriving DecidableEq, Repr

/-- The finalizer is `none` for a `Reference` and a `ReferenceWithData`. In a
`ReferenceWithFinalizer` it says whether the callback has not been reset. -/
structure Reference (V : Type) where
  persistent : Persistent V
  refcount : UInt32
  ownership : ReferenceOwnership
  canBeWeak : Bool
  finalizer : Option Bool
  deriving DecidableEq, Repr

structure Answer (V : Type) where
  status : NapiStatus
  count : UInt32 := 0
  value : Option V := none
  deriving DecidableEq, Repr

/-- The fields from `collected` on are a history that the code does not keep: the values that
the collector took, the value of every address, the addresses that the user was given and has
not deleted, those made with a callback, and what became of the callbacks. A frame is a
`Finalize` whose callback runs, with its `deleteMe`. -/
structure Env (V : Type) where
  references : Heap (Reference V) := {}
  reflist : List Nat := []
  finalizingReflist : List Nat := []
  pendingFinalizers : List Nat := []
  isExperimental : Bool := false
  wrapper : V → Option Nat := fun _ => none
  frames : List (Nat × Bool) := []
  answer : Answer V := ⟨.ok, 0, none⟩
  collected : List V := []
  targets : List V := []
  handles : List Nat := []
  withCallback : List Nat := []
  called : List Nat := []
  cancelled : List Nat := []

section

variable {V : Type}

/-! ## `Reference` -/

def canBeHeldWeakly (kindOf : V → ValueKind) (value : V) : Bool :=
  kindOf value = .object || kindOf value = .symbol

/-- V8 does not take the call for an empty handle. -/
def Reference.setWeak (this : Reference V) : Reference V :=
  match this.persistent with
  | .empty => this
  | .strong value | .weak value =>
      { this with persistent := if this.canBeWeak then .weak value else .empty }

def Reference.clearWeak (this : Reference V) : Reference V :=
  match this.persistent with
  | .weak value => { this with persistent := .strong value }
  | .strong _ | .empty => this

def Reference.ref (this : Reference V) : Reference V × UInt32 :=
  if this.persistent.isEmpty then (this, 0)
  else
    let this := { this with refcount := this.refcount + 1 }
    (if this.refcount = 1 ∧ this.canBeWeak then this.clearWeak else this, this.refcount)

def Reference.unref (this : Reference V) : Reference V × UInt32 :=
  if this.persistent.isEmpty ∨ this.refcount = 0 then (this, 0)
  else
    let this := { this with refcount := this.refcount - 1 }
    (if this.refcount = 0 then this.setWeak else this, this.refcount)

def Reference.get (this : Reference V) : Option V :=
  match this.persistent with
  | .empty => none
  | .strong value | .weak value => some value

theorem Reference.setWeak_fields (this : Reference V) :
    this.setWeak.ownership = this.ownership ∧ this.setWeak.finalizer = this.finalizer := by
  unfold Reference.setWeak
  split <;> exact ⟨rfl, rfl⟩

theorem Reference.clearWeak_fields (this : Reference V) :
    this.clearWeak.ownership = this.ownership ∧ this.clearWeak.finalizer = this.finalizer := by
  unfold Reference.clearWeak
  split <;> exact ⟨rfl, rfl⟩

theorem Reference.ref_fields (this : Reference V) :
    this.ref.1.ownership = this.ownership ∧ this.ref.1.finalizer = this.finalizer := by
  rw [Reference.ref]
  split
  · exact ⟨rfl, rfl⟩
  · dsimp only
    split
    · exact Reference.clearWeak_fields _
    · exact ⟨rfl, rfl⟩

theorem Reference.unref_fields (this : Reference V) :
    this.unref.1.ownership = this.ownership ∧ this.unref.1.finalizer = this.finalizer := by
  rw [Reference.unref]
  split
  · exact ⟨rfl, rfl⟩
  · dsimp only
    split
    · exact Reference.setWeak_fields _
    · exact ⟨rfl, rfl⟩

namespace Env

def put (env : Env V) (address : Nat) (reference : Reference V) : Env V :=
  { env with references := env.references.set address (some reference) }

def unlink (env : Env V) (address : Nat) : Env V :=
  { env with
    reflist := env.reflist.filter (· ≠ address)
    finalizingReflist := env.finalizingReflist.filter (· ≠ address) }

def dequeueFinalizer (env : Env V) (address : Nat) : Env V :=
  { env with pendingFinalizers := env.pendingFinalizers.filter (· ≠ address) }

/-- `Reference::New` and its two variants, with the constructor and `Link`. -/
def newReference (kindOf : V → ValueKind) (env : Env V) (value : V) (initialRefcount : UInt32)
    (ownership : ReferenceOwnership) (finalizer : Option Bool) : Env V :=
  let reference : Reference V :=
    { persistent := .strong value
      refcount := initialRefcount
      ownership
      canBeWeak := canBeHeldWeakly kindOf value
      finalizer }
  let reference := if initialRefcount = 0 then reference.setWeak else reference
  let address := env.references.next
  { env with
    references := env.references.alloc reference
    reflist := if finalizer = none then address :: env.reflist else env.reflist
    finalizingReflist :=
      if finalizer = none then env.finalizingReflist else address :: env.finalizingReflist
    targets := env.targets ++ [value]
    handles := if ownership = .kUserland then address :: env.handles else env.handles
    withCallback := if finalizer = some true then address :: env.withCallback
      else env.withCallback }

/-- `delete` of a reference. -/
def destroy (env : Env V) (address : Nat) : Except Fault (Env V) := do
  let this ← env.references.read address
  let env := (env.dequeueFinalizer address).unlink address
  let references ← env.references.delete address
  return { env with
    references
    cancelled := if this.finalizer = some true then address :: env.cancelled else env.cancelled }

def leave (env : Env V) (address : Nat) (deleteMe : Bool) : Except Fault (Env V) :=
  if deleteMe then env.destroy address else .ok env

/-- `Reference::Finalize`, up to the callback of the user when there is one. The collector
runs the callback at once. -/
def finalize (env : Env V) (address : Nat) (inGcFinalizer : Bool) : Except Fault (Env V) := do
  let this ← env.references.read address
  let deleteMe := this.ownership = .kRuntime
  let this := { this with persistent := .empty }
  if this.finalizer = some true then
    let env := (env.put address { this with finalizer := some false }).unlink address
    let env := { env with called := address :: env.called }
    if inGcFinalizer then env.leave address deleteMe
    else return { env with frames := (address, decide deleteMe) :: env.frames }
  else ((env.put address this).unlink address).leave address deleteMe

/-- `Reference::WeakCallback`. -/
def weakCallback (env : Env V) (address : Nat) : Except Fault (Env V) := do
  let this ← env.references.read address
  let env := env.put address { this with persistent := .empty }
  if this.finalizer = none then env.finalize address false
  else if env.isExperimental then env.finalize address true
  else return { env with pendingFinalizers := address :: env.pendingFinalizers }

/-- The collector at one handle. -/
def visit [DecidableEq V] (value : V) (env : Env V) (address : Nat) : Except Fault (Env V) :=
  match env.references.get? address with
  | some reference =>
      if reference.persistent = .weak value then env.weakCallback address else .ok env
  | none => .ok env

/-- The collector takes a value that is not held, and calls back for every weak handle. -/
def collect [DecidableEq V] (env : Env V) (value : V) : Except Fault (Env V) :=
  let env :=
    { env with
      collected := value :: env.collected
      wrapper := Function.update env.wrapper value none }
  (List.range env.references.next).foldlM (visit value) env

/-! ## Calls -/

def answered (env : Env V) (answer : Answer V) : Except Fault (Env V) := .ok { env with answer }

def napiCreateReference (kindOf : V → ValueKind) (env : Env V) (value : V)
    (initialRefcount : UInt32) : Except Fault (Env V) :=
  if env.isExperimental = false ∧ kindOf value = .other then env.answered ⟨.invalidArg, 0, none⟩
  else (env.newReference kindOf value initialRefcount .kUserland none).answered ⟨.ok, 0, none⟩

/-- The user gives up the handle. -/
def napiDeleteReference (env : Env V) (ref : Nat) : Except Fault (Env V) := do
  let env ← env.destroy ref
  { env with handles := env.handles.filter (· ≠ ref) }.answered ⟨.ok, 0, none⟩

def napiReferenceRef (env : Env V) (ref : Nat) : Except Fault (Env V) := do
  let reference ← env.references.read ref
  (env.put ref reference.ref.1).answered ⟨.ok, reference.ref.2, none⟩

def napiReferenceUnref (env : Env V) (ref : Nat) : Except Fault (Env V) := do
  let reference ← env.references.read ref
  if reference.refcount = 0 then env.answered ⟨.genericFailure, 0, none⟩
  else (env.put ref reference.unref.1).answered ⟨.ok, reference.unref.2, none⟩

def napiGetReferenceValue (env : Env V) (ref : Nat) : Except Fault (Env V) := do
  let reference ← env.references.read ref
  env.answered ⟨.ok, 0, reference.get⟩

/-- `Wrap`, with an address for the result or without, and with a callback or without. -/
def wrap [DecidableEq V] (kindOf : V → ValueKind) (env : Env V) (jsObject : V)
    (result finalizeCb : Bool) : Except Fault (Env V) :=
  if kindOf jsObject ≠ .object then env.answered ⟨.invalidArg, 0, none⟩
  else if env.wrapper jsObject ≠ none then env.answered ⟨.invalidArg, 0, none⟩
  else if result ∧ ¬ finalizeCb then env.answered ⟨.invalidArg, 0, none⟩
  else
    let address := env.references.next
    let env := env.newReference kindOf jsObject 0 (if result then .kUserland else .kRuntime)
      (if finalizeCb then some true else none)
    { env with wrapper := Function.update env.wrapper jsObject (some address) }.answered
      ⟨.ok, 0, none⟩

/-- `Unwrap` with `KeepWrap`; it reads the data of the reference. -/
def unwrap (kindOf : V → ValueKind) (env : Env V) (jsObject : V) : Except Fault (Env V) :=
  if kindOf jsObject ≠ .object then env.answered ⟨.invalidArg, 0, none⟩
  else
    match env.wrapper jsObject with
    | none => env.answered ⟨.invalidArg, 0, none⟩
    | some address => do
        let _ ← env.references.read address
        env.answered ⟨.ok, 0, none⟩

/-- `Unwrap` with `RemoveWrap`. -/
def removeWrap [DecidableEq V] (kindOf : V → ValueKind) (env : Env V) (jsObject : V) :
    Except Fault (Env V) :=
  if kindOf jsObject ≠ .object then env.answered ⟨.invalidArg, 0, none⟩
  else
    match env.wrapper jsObject with
    | none => env.answered ⟨.invalidArg, 0, none⟩
    | some address => do
        let reference ← env.references.read address
        let env := { env with wrapper := Function.update env.wrapper jsObject none }
        if reference.ownership = .kUserland then
          let reset := env.put address
            { reference with finalizer := reference.finalizer.map fun _ => false }
          { reset with
            cancelled := if reference.finalizer = some true then address :: env.cancelled
              else env.cancelled }.answered ⟨.ok, 0, none⟩
        else do
          let env ← env.destroy address
          env.answered ⟨.ok, 0, none⟩

end Env

/-! ## Runs -/

/-- What the user, the collector and the host do. -/
inductive Action (V : Type)
  | createReference (value : V) (initialRefcount : UInt32)
  | deleteReference (ref : Nat)
  | ref (ref : Nat)
  | unref (ref : Nat)
  | getValue (ref : Nat)
  | wrap (jsObject : V) (result finalizeCb : Bool)
  | unwrap (jsObject : V)
  | removeWrap (jsObject : V)
  | collect (value : V)
  | drain (ref : Nat)
  | finalizerReturns
  deriving DecidableEq, Repr

/-- Some reference keeps the value from being collected. -/
def Env.holds [DecidableEq V] (env : Env V) (value : V) : Bool :=
  env.references.cells.any fun cell =>
    cell.any fun reference => reference.persistent = .strong value

/-- A call takes a value that has not been collected, the collector one that no reference
holds, and the queue gives out its entries in any order. -/
def Env.call [DecidableEq V] (kindOf : V → ValueKind) (env : Env V) :
    Action V → Option (Except Fault (Env V))
  | .createReference value initialRefcount =>
      if value ∈ env.collected then none
      else some (env.napiCreateReference kindOf value initialRefcount)
  | .deleteReference ref => some (env.napiDeleteReference ref)
  | .ref ref => some (env.napiReferenceRef ref)
  | .unref ref => some (env.napiReferenceUnref ref)
  | .getValue ref => some (env.napiGetReferenceValue ref)
  | .wrap jsObject result finalizeCb =>
      if jsObject ∈ env.collected then none
      else some (env.wrap kindOf jsObject result finalizeCb)
  | .unwrap jsObject =>
      if jsObject ∈ env.collected then none else some (env.unwrap kindOf jsObject)
  | .removeWrap jsObject =>
      if jsObject ∈ env.collected then none else some (env.removeWrap kindOf jsObject)
  | .collect value =>
      if value ∈ env.collected ∨ env.holds value then none else some (env.collect value)
  | .drain ref =>
      if ref ∈ env.pendingFinalizers then some ((env.dequeueFinalizer ref).finalize ref false)
      else none
  | .finalizerReturns =>
      match env.frames with
      | [] => none
      | (address, deleteMe) :: frames => some ({ env with frames }.leave address deleteMe)

def references [DecidableEq V] (kindOf : V → ValueKind) (isExperimental : Bool) :
    Program (Env V) (Action V) Fault :=
  { start := { isExperimental }, call := Env.call kindOf }

/-- The user uses a reference only until it deletes it, and does not delete the one of an
object that is still wrapped. -/
def Proper (env : Env V) : Action V → Prop
  | .deleteReference ref => ref ∈ env.handles ∧ ∀ jsObject, env.wrapper jsObject ≠ some ref
  | .ref ref | .unref ref | .getValue ref => ref ∈ env.handles
  | _ => True

end

end V8Jsi.NapiReference
