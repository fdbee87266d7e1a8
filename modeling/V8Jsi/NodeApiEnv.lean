import V8Jsi.Lib.Heap
import V8Jsi.Lib.Outcome
import V8Jsi.Lib.Runs

set_option autoImplicit false

/- The reference counts of `NodeApiEnv` and `V8RuntimeEnv` in v8_api.cpp and
js_native_api_v8.h, for one runtime. Its object is the one cell of a heap of its
own, the envs are the cells of another. -/
namespace V8Jsi.V8Api

open Runs Heaps

/-- A set of finalizers. Running the first one posts further finalizers on the
same env. -/
inductive Finalizers
  | none
  | queued (posts rest : Finalizers)
  deriving DecidableEq, Repr

namespace Finalizers

def size : Finalizers → Nat
  | none => 0
  | queued posts rest => posts.size + rest.size + 1

def append : Finalizers → Finalizers → Finalizers
  | none, more => more
  | queued posts rest, more => queued posts (rest.append more)

end Finalizers

structure NodeApiEnv where
  refs : Nat := 1
  isDestructing : Bool := false
  isFinalizationScheduled : Bool := false
  pendingFinalizers : Finalizers := .none
  reflist : Finalizers := .none
  deriving DecidableEq, Repr

structure V8RuntimeEnv where
  moduleEnvList : List Nat
  rootEnv : Option Nat
  deriving DecidableEq, Repr

inductive Failure
  | env (fault : Fault)
  | runtime (fault : Fault)
  | nullRootEnv
  | outOfFuel
  deriving DecidableEq, Repr

/-- `tasks` holds the env of each task given to `SetImmediate` that has not run.
`outstanding` records the references that others own, and `wrapper` that
`jsr_delete_runtime` has not been called. -/
structure World where
  envs : Heap NodeApiEnv := ⟨[some {}]⟩
  runtime : Heap V8RuntimeEnv := ⟨[some { moduleEnvList := [0], rootEnv := some 0 }]⟩
  tasks : List Nat := []
  outstanding : List Nat := []
  wrapper : Bool := true
  deriving DecidableEq, Repr

namespace World

def readEnv (world : World) (env : Nat) : Except Failure NodeApiEnv :=
  (world.envs.read env).mapError .env

def writeEnv (world : World) (env : Nat) (value : NodeApiEnv) : Except Failure World := do
  let envs ← (world.envs.write env value).mapError .env
  return { world with envs }

def deleteEnv (world : World) (env : Nat) : Except Failure World := do
  let envs ← (world.envs.delete env).mapError .env
  return { world with envs }

def readRuntime (world : World) : Except Failure V8RuntimeEnv :=
  (world.runtime.read 0).mapError .runtime

def writeRuntime (world : World) (value : V8RuntimeEnv) : Except Failure World := do
  let runtime ← (world.runtime.write 0 value).mapError .runtime
  return { world with runtime }

def deleteRuntime (world : World) : Except Failure World := do
  let runtime ← (world.runtime.delete 0).mapError .runtime
  return { world with runtime }

def createNodeApi (world : World) : Except Failure World := do
  let runtime ← world.readRuntime
  { world with envs := world.envs.alloc {} }.writeRuntime
    { runtime with moduleEnvList := runtime.moduleEnvList ++ [world.envs.next] }

def setImmediate (world : World) (env : Nat) : Except Failure World := do
  let _ ← world.readRuntime
  return { world with tasks := world.tasks ++ [env] }

def enqueueFinalizer (world : World) (env : Nat) (posts : Finalizers) :
    Except Failure World := do
  let this ← world.readEnv env
  let pendingFinalizers := this.pendingFinalizers.append (.queued posts .none)
  if !this.isFinalizationScheduled && !this.isDestructing then
    let world ← world.writeEnv env { this with
      pendingFinalizers
      isFinalizationScheduled := true
      refs := this.refs + 1 }
    world.setImmediate env
  else world.writeEnv env { this with pendingFinalizers }

/-- The body of a finalizer. -/
def postAll (world : World) (env : Nat) : Finalizers → Except Failure World
  | .none => .ok world
  | .queued posts rest => do
      let world ← world.enqueueFinalizer env posts
      world.postAll env rest

/-- Each turn runs one finalizer, so that fuel above their number suffices. -/
def drainLoop : Nat → World → Nat → Except Failure World
  | 0, _, _ => .error .outOfFuel
  | fuel + 1, world, env => do
      let this ← world.readEnv env
      match this.pendingFinalizers with
      | .none => return world
      | .queued posts rest =>
          let world ← world.writeEnv env { this with pendingFinalizers := rest }
          let world ← world.postAll env posts
          drainLoop fuel world env

def drainFinalizerQueue (world : World) (env : Nat) : Except Failure World := do
  let this ← world.readEnv env
  drainLoop (this.pendingFinalizers.size + 1) world env

/-- `RefTracker::FinalizeAll` over the references the env still tracks. -/
def finalizeAll (world : World) (env : Nat) : Finalizers → Except Failure World
  | .none => .ok world
  | .queued posts rest => do
      let this ← world.readEnv env
      let world ← world.writeEnv env { this with reflist := rest }
      let world ← world.postAll env posts
      world.finalizeAll env rest

/-- The end of `NodeApiEnv::DeleteMe`, up to the deletion of the runtime. -/
def destroy (world : World) (env : Nat) : Except Failure World := do
  let world ← world.drainFinalizerQueue env
  let this ← world.readEnv env
  let world ← world.finalizeAll env this.reflist
  world.deleteEnv env

def unrefWith (deleteMe : World → Nat → Except Failure World) (world : World) (env : Nat) :
    Except Failure World := do
  let this ← world.readEnv env
  let world ← world.writeEnv env { this with refs := this.refs - 1 }
  if this.refs - 1 = 0 then deleteMe world env else return world

/-- Removing the root env drops the reference that the runtime has on every other
env. The result says whether the runtime is to be deleted. -/
def removeModuleEnvWith (deleteMe : World → Nat → Except Failure World) (world : World)
    (env : Nat) : Except Failure (World × Bool) := do
  let this ← world.readRuntime
  if env ∉ this.moduleEnvList then return (world, false)
  else
    let moduleEnvList := this.moduleEnvList.erase env
    if this.rootEnv = some env then
      let world ← world.writeRuntime { moduleEnvList, rootEnv := none }
      let world ← moduleEnvList.foldlM (unrefWith deleteMe) world
      return (world, true)
    else
      let world ← world.writeRuntime { this with moduleEnvList }
      return (world, false)

/-- `DeleteMe` of the root env calls `DeleteMe` of module envs, which call no
other: the fuel bounds this nesting. -/
def deleteMe : Nat → World → Nat → Except Failure World
  | 0, _, _ => .error .outOfFuel
  | fuel + 1, world, env => do
      let this ← world.readEnv env
      let world ← world.writeEnv env { this with isDestructing := true }
      let (world, shouldDeleteRuntime) ← removeModuleEnvWith (deleteMe fuel) world env
      let world ← world.destroy env
      if shouldDeleteRuntime then world.deleteRuntime else return world

def unref (world : World) (env : Nat) : Except Failure World := unrefWith (deleteMe 2) world env

/-- The task that `EnqueueFinalizer` schedules. -/
def runTask (world : World) (env : Nat) : Except Failure World := do
  let this ← world.readEnv env
  let world ← world.writeEnv env { this with isFinalizationScheduled := false }
  let world ← world.unref env
  world.drainFinalizerQueue env

/-- The destructor of `RuntimeWrapper`. -/
def jsrDeleteRuntime (world : World) : Except Failure World := do
  let runtime ← world.readRuntime
  match runtime.rootEnv with
  | none => throw .nullRootEnv
  | some env => world.unref env

end World

inductive Action
  | createNodeApi (env : Nat)
  | ref (env : Nat)
  | unref (env : Nat)
  | trackReference (env : Nat) (posts : Finalizers)
  | enqueueFinalizer (env : Nat) (posts : Finalizers)
  | runTask (i : Nat)
  | jsrDeleteRuntime
  deriving DecidableEq, Repr

/-- The functions of the API are called with envs that live, also those that
outlived `jsr_delete_runtime`: `jsr_create_node_api_env` takes any of them. References
are dropped by their owners. -/
def call (world : World) : Action → Option (Except Failure World)
  | .createNodeApi env => (world.envs.get? env).map fun _ => world.createNodeApi
  | .ref env => (world.envs.get? env).map fun this => do
      let world ← world.writeEnv env { this with refs := this.refs + 1 }
      return { world with outstanding := env :: world.outstanding }
  | .unref env =>
      if env ∈ world.outstanding then
        some ({ world with outstanding := world.outstanding.erase env }.unref env)
      else none
  | .trackReference env posts => (world.envs.get? env).map fun this =>
      world.writeEnv env { this with reflist := .queued posts this.reflist }
  | .enqueueFinalizer env posts => (world.envs.get? env).map fun _ =>
      world.enqueueFinalizer env posts
  | .runTask i => world.tasks[i]?.map fun env =>
      { world with tasks := world.tasks.eraseIdx i }.runTask env
  | .jsrDeleteRuntime =>
      if world.wrapper then some { world with wrapper := false }.jsrDeleteRuntime else none

def runtimeProgram : Program World Action Failure where
  start := {}
  call := call

end V8Jsi.V8Api
