import Mathlib.Data.List.Nodup
import V8Jsi.NodeApiEnv

set_option autoImplicit false

namespace V8Jsi.V8Api

open Runs Heaps Outcome

@[simp] theorem size_append (first second : Finalizers) :
    (first.append second).size = first.size + second.size := by
  induction first with
  | none => simp [Finalizers.append, Finalizers.size]
  | queued posts rest _ ih =>
    simp only [Finalizers.append, Finalizers.size, ih]
    omega

section

variable {world : World} {env : Nat} {this : NodeApiEnv} {runtime : V8RuntimeEnv}

theorem readEnv_alive (found : world.envs.get? env = some this) :
    world.readEnv env = .ok this := by
  simp only [World.readEnv, Heap.read_of_get? found, mapError_ok]

theorem writeEnv_alive (after : NodeApiEnv) (found : world.envs.get? env = some this) :
    world.writeEnv env after = .ok { world with envs := world.envs.set env (some after) } := by
  simp only [World.writeEnv, Heap.write_of_get? found, mapError_ok, ok_bind, pure_ok]

theorem deleteEnv_alive (found : world.envs.get? env = some this) :
    world.deleteEnv env = .ok { world with envs := world.envs.set env none } := by
  simp only [World.deleteEnv, Heap.delete_of_get? found, mapError_ok, ok_bind, pure_ok]

theorem readRuntime_alive (found : world.runtime.get? 0 = some runtime) :
    world.readRuntime = .ok runtime := by
  simp only [World.readRuntime, Heap.read_of_get? found, mapError_ok]

theorem writeRuntime_alive (after : V8RuntimeEnv) (found : world.runtime.get? 0 = some runtime) :
    world.writeRuntime after =
      .ok { world with runtime := world.runtime.set 0 (some after) } := by
  simp only [World.writeRuntime, Heap.write_of_get? found, mapError_ok, ok_bind, pure_ok]

theorem deleteRuntime_alive (found : world.runtime.get? 0 = some runtime) :
    world.deleteRuntime = .ok { world with runtime := world.runtime.set 0 none } := by
  simp only [World.deleteRuntime, Heap.delete_of_get? found, mapError_ok, ok_bind, pure_ok]

/-! ## Finalizers -/

/-- What finalizers do to their env: they may post tasks, each with a reference of
its own, and only while the env is not being destroyed. -/
structure Touched (world after : World) (env : Nat) (this that : NodeApiEnv) (posted : Nat) :
    Prop where
  envs : after.envs = world.envs.set env (some that)
  runtime : after.runtime = world.runtime
  tasks : after.tasks = world.tasks ++ List.replicate posted env
  outstanding : after.outstanding = world.outstanding
  wrapper : after.wrapper = world.wrapper
  refs : that.refs = this.refs + posted
  destructing : that.isDestructing = this.isDestructing
  quiet : this.isDestructing = true → posted = 0

theorem Touched.found {after : World} {that : NodeApiEnv} {posted : Nat}
    (touched : Touched world after env this that posted)
    (found : world.envs.get? env = some this) : after.envs.get? env = some that := by
  rw [touched.envs]
  exact Heap.get?_set_self _ found

theorem Touched.trans {middle after : World} {next that : NodeApiEnv} {first second : Nat}
    (before : Touched world middle env this next first)
    (later : Touched middle after env next that second) :
    Touched world after env this that (first + second) where
  envs := by rw [later.envs, before.envs, Heap.set_set]
  runtime := later.runtime.trans before.runtime
  tasks := by
    rw [later.tasks, before.tasks, List.append_assoc, List.replicate_append_replicate]
  outstanding := later.outstanding.trans before.outstanding
  wrapper := later.wrapper.trans before.wrapper
  refs := by rw [later.refs, before.refs, Nat.add_assoc]
  destructing := later.destructing.trans before.destructing
  quiet busy := by
    rw [before.quiet busy, later.quiet (before.destructing.trans busy)]

theorem Touched.refl (found : world.envs.get? env = some this) :
    Touched world world env this this 0 where
  envs := (Heap.set_same found).symm
  runtime := rfl
  tasks := by simp
  outstanding := rfl
  wrapper := rfl
  refs := rfl
  destructing := rfl
  quiet _ := rfl

/-- A write to the env that leaves its counts alone. -/
theorem Touched.write (that : NodeApiEnv) (refs : that.refs = this.refs)
    (destructing : that.isDestructing = this.isDestructing) :
    Touched world { world with envs := world.envs.set env (some that) } env this that 0 where
  envs := rfl
  runtime := rfl
  tasks := by simp
  outstanding := rfl
  wrapper := rfl
  refs := refs
  destructing := destructing
  quiet _ := rfl

theorem enqueueFinalizer_touched (posts : Finalizers)
    (found : world.envs.get? env = some this) (alive : world.runtime.get? 0 = some runtime) :
    ∃ after that posted, world.enqueueFinalizer env posts = .ok after ∧
      Touched world after env this that posted ∧
      that.pendingFinalizers.size = this.pendingFinalizers.size + posts.size + 1 := by
  simp only [World.enqueueFinalizer, readEnv_alive found, ok_bind]
  by_cases schedules : (!this.isFinalizationScheduled && !this.isDestructing) = true
  · rw [ite_cond_eq_true _ _ (eq_true schedules), writeEnv_alive _ found, ok_bind,
      World.setImmediate]
    have idle : this.isDestructing = false := by
      simp only [Bool.and_eq_true, Bool.not_eq_true'] at schedules
      exact schedules.2
    let that : NodeApiEnv := { this with
      pendingFinalizers := this.pendingFinalizers.append (.queued posts .none)
      isFinalizationScheduled := true
      refs := this.refs + 1 }
    refine ⟨{ world with
        envs := world.envs.set env (some that)
        tasks := world.tasks ++ [env] }, that, 1, ?_,
      ⟨rfl, rfl, rfl, rfl, rfl, rfl, rfl, fun busy => ?_⟩, ?_⟩
    · rw [show World.readRuntime { world with envs := world.envs.set env (some that) } =
        .ok runtime from readRuntime_alive alive]
      rfl
    · rw [idle] at busy
      cases busy
    · simp only [that]
      simp only [size_append, Finalizers.size]
      omega
  · rw [ite_cond_eq_false _ _ (eq_false schedules), writeEnv_alive _ found]
    refine ⟨_, _, 0, rfl, Touched.write _ rfl rfl, ?_⟩
    simp only [size_append, Finalizers.size]
    omega

theorem postAll_touched (posts : Finalizers) : ∀ {world : World} {this : NodeApiEnv},
    world.envs.get? env = some this → world.runtime.get? 0 = some runtime →
    ∃ after that posted, world.postAll env posts = .ok after ∧
      Touched world after env this that posted ∧ after.envs.get? env = some that ∧
      that.pendingFinalizers.size = this.pendingFinalizers.size + posts.size := by
  induction posts with
  | none =>
    intro world this found _
    exact ⟨world, this, 0, rfl, Touched.refl found, found, rfl⟩
  | queued inner rest _ ih =>
    intro world this found alive
    obtain ⟨middle, next, first, enqueued, touched, grown⟩ :=
      enqueueFinalizer_touched inner found alive
    obtain ⟨after, that, second, posted, touchedLater, present, grownLater⟩ :=
      ih (touched.found found) (touched.runtime ▸ alive)
    refine ⟨after, that, first + second, ?_, touched.trans touchedLater, present, ?_⟩
    · simp only [World.postAll, enqueued, ok_bind, posted]
    · simp only [Finalizers.size]
      omega

/-- A turn of the loop that finds a finalizer. -/
theorem drainLoop_queued {posts rest : Finalizers} (fuel : Nat)
    (found : world.envs.get? env = some this)
    (pending : this.pendingFinalizers = .queued posts rest) :
    World.drainLoop (fuel + 1) world env =
      (World.postAll { world with
          envs := world.envs.set env (some { this with pendingFinalizers := rest }) } env posts
        >>= fun after => World.drainLoop fuel after env) := by
  simp only [World.drainLoop, readEnv_alive found, ok_bind, pending, writeEnv_alive _ found]

/-- The loop ends, and finds the env alive at every turn. -/
theorem drainLoop_touched (fuel : Nat) : ∀ {world : World} {this : NodeApiEnv},
    world.envs.get? env = some this → world.runtime.get? 0 = some runtime →
    this.pendingFinalizers.size < fuel →
    ∃ after that posted, World.drainLoop fuel world env = .ok after ∧
      Touched world after env this that posted ∧ after.envs.get? env = some that := by
  induction fuel with
  | zero => exact fun _ _ small => absurd small (Nat.not_lt_zero _)
  | succ fuel ih =>
    intro world this found alive small
    cases pending : this.pendingFinalizers with
    | none =>
      simp only [World.drainLoop, readEnv_alive found, ok_bind, pending]
      exact ⟨world, this, 0, rfl, Touched.refl found, found⟩
    | queued posts rest =>
      let popped : NodeApiEnv := { this with pendingFinalizers := rest }
      let opened : World := { world with envs := world.envs.set env (some popped) }
      have written : Touched world opened env this popped 0 := Touched.write popped rfl rfl
      obtain ⟨middle, next, first, posted, touched, present, grown⟩ :=
        postAll_touched posts (written.found found) (show opened.runtime.get? 0 = _ from alive)
      have fewer : next.pendingFinalizers.size < fuel := by
        rw [pending, Finalizers.size] at small
        have size : next.pendingFinalizers.size = rest.size + posts.size := grown
        omega
      obtain ⟨after, that, second, drained, touchedLater, presentLater⟩ :=
        ih present (touched.runtime ▸ alive) fewer
      refine ⟨after, that, 0 + first + second, ?_, (written.trans touched).trans touchedLater,
        presentLater⟩
      rw [drainLoop_queued fuel found pending]
      change opened.postAll env posts >>= _ = _
      rw [posted, ok_bind, drained]

theorem drainFinalizerQueue_touched (found : world.envs.get? env = some this)
    (alive : world.runtime.get? 0 = some runtime) :
    ∃ after that posted, world.drainFinalizerQueue env = .ok after ∧
      Touched world after env this that posted ∧ after.envs.get? env = some that := by
  simp only [World.drainFinalizerQueue, readEnv_alive found, ok_bind]
  exact drainLoop_touched _ found alive (Nat.lt_succ_self _)

theorem finalizeAll_touched (reflist : Finalizers) : ∀ {world : World} {this : NodeApiEnv},
    world.envs.get? env = some this → world.runtime.get? 0 = some runtime →
    ∃ after that posted, world.finalizeAll env reflist = .ok after ∧
      Touched world after env this that posted ∧ after.envs.get? env = some that := by
  induction reflist with
  | none =>
    intro world this found _
    exact ⟨world, this, 0, rfl, Touched.refl found, found⟩
  | queued posts rest _ ih =>
    intro world this found alive
    let popped : NodeApiEnv := { this with reflist := rest }
    let opened : World := { world with envs := world.envs.set env (some popped) }
    have written : Touched world opened env this popped 0 := Touched.write popped rfl rfl
    obtain ⟨middle, next, first, posted, touched, present, -⟩ :=
      postAll_touched posts (written.found found) (show opened.runtime.get? 0 = _ from alive)
    obtain ⟨after, that, second, finalized, touchedLater, presentLater⟩ :=
      ih present (touched.runtime ▸ alive)
    refine ⟨after, that, 0 + first + second, ?_, (written.trans touched).trans touchedLater,
      presentLater⟩
    simp only [World.finalizeAll, readEnv_alive found, ok_bind, writeEnv_alive _ found]
    change opened.postAll env posts >>= _ = _
    rw [posted, ok_bind, finalized]

/-- An env that is being destroyed goes away alone. -/
theorem destroy_alive (found : world.envs.get? env = some this)
    (alive : world.runtime.get? 0 = some runtime) (busy : this.isDestructing = true) :
    world.destroy env = .ok { world with envs := world.envs.set env none } := by
  obtain ⟨drained, next, first, drains, touched, present⟩ :=
    drainFinalizerQueue_touched found alive
  obtain ⟨after, that, second, finalized, touchedLater, presentLater⟩ :=
    finalizeAll_touched next.reflist present (touched.runtime ▸ alive)
  have whole := touched.trans touchedLater
  have tasks := whole.tasks
  rw [whole.quiet busy, List.replicate_zero, List.append_nil] at tasks
  simp only [World.destroy, drains, ok_bind, readEnv_alive present, finalized,
    deleteEnv_alive presentLater, whole.envs, whole.runtime, whole.outstanding, whole.wrapper,
    tasks, Heap.set_set]

/-! ## Deleting envs -/

/-- The runtime after its root env has left the list. -/
def rootless (moduleEnvList : List Nat) : V8RuntimeEnv := { moduleEnvList, rootEnv := none }

theorem removeModuleEnvWith_module {deleteMe : World → Nat → Except Failure World}
    (alive : world.runtime.get? 0 = some runtime) (member : env ∈ runtime.moduleEnvList)
    (notRoot : runtime.rootEnv ≠ some env) :
    World.removeModuleEnvWith deleteMe world env = .ok ({ world with
      runtime := world.runtime.set 0 (some
        { runtime with moduleEnvList := runtime.moduleEnvList.erase env }) }, false) := by
  simp only [World.removeModuleEnvWith, readRuntime_alive alive, ok_bind, member,
    not_true_eq_false, ↓reduceIte, notRoot, writeRuntime_alive _ alive, pure_ok]

theorem removeModuleEnvWith_root {deleteMe : World → Nat → Except Failure World}
    (alive : world.runtime.get? 0 = some runtime) (member : env ∈ runtime.moduleEnvList)
    (root : runtime.rootEnv = some env) :
    World.removeModuleEnvWith deleteMe world env =
      ((runtime.moduleEnvList.erase env).foldlM (World.unrefWith deleteMe) { world with
        runtime := world.runtime.set 0 (some (rootless (runtime.moduleEnvList.erase env))) }
      >>= fun world => .ok (world, true)) := by
  simp only [World.removeModuleEnvWith, readRuntime_alive alive, ok_bind, member,
    not_true_eq_false, ↓reduceIte, root, writeRuntime_alive _ alive, pure_ok]
  rfl

theorem deleteMe_module {moduleEnvList : List Nat} (fuel : Nat)
    (found : world.envs.get? env = some this)
    (alive : world.runtime.get? 0 = some (rootless moduleEnvList))
    (member : env ∈ moduleEnvList) :
    World.deleteMe (fuel + 1) world env = .ok { world with
      envs := world.envs.set env none
      runtime := world.runtime.set 0 (some (rootless (moduleEnvList.erase env))) } := by
  let marked : World := { world with
    envs := world.envs.set env (some { this with isDestructing := true }) }
  let removed : World := { marked with
    runtime := world.runtime.set 0 (some (rootless (moduleEnvList.erase env))) }
  have left : World.removeModuleEnvWith (World.deleteMe fuel) marked env = .ok (removed, false) :=
    removeModuleEnvWith_module (show marked.runtime.get? 0 = _ from alive) member nofun
  have destroyed : removed.destroy env = .ok { removed with envs := removed.envs.set env none } :=
    destroy_alive (show removed.envs.get? env = some _ from Heap.get?_set_self _ found)
      (show removed.runtime.get? 0 = some _ from Heap.get?_set_self _ alive) rfl
  simp only [World.deleteMe, readEnv_alive found, ok_bind, writeEnv_alive _ found]
  rw [left, ok_bind]
  change removed.destroy env >>= _ = _
  rw [destroyed, ok_bind]
  simp only [removed, marked, Heap.set_set]
  rfl

theorem unref_module {moduleEnvList : List Nat} (fuel : Nat)
    (found : world.envs.get? env = some this) (last : this.refs = 1)
    (alive : world.runtime.get? 0 = some (rootless moduleEnvList))
    (member : env ∈ moduleEnvList) :
    World.unrefWith (World.deleteMe (fuel + 1)) world env = .ok { world with
      envs := world.envs.set env none
      runtime := world.runtime.set 0 (some (rootless (moduleEnvList.erase env))) } := by
  let dropped : World := { world with
    envs := world.envs.set env (some { this with refs := this.refs - 1 }) }
  have deleted := deleteMe_module fuel
    (show dropped.envs.get? env = some _ from Heap.get?_set_self _ found)
    (show dropped.runtime.get? 0 = _ from alive) member
  simp only [World.unrefWith, readEnv_alive found, ok_bind, writeEnv_alive _ found]
  rw [ite_cond_eq_true _ _ (eq_true (show this.refs - 1 = 0 by omega))]
  change World.deleteMe (fuel + 1) dropped env = _
  rw [deleted]
  simp only [dropped, Heap.set_set]

theorem unrefWith_shared {deleteMe : World → Nat → Except Failure World}
    (found : world.envs.get? env = some this) (shared : 2 ≤ this.refs) :
    World.unrefWith deleteMe world env = .ok { world with
      envs := world.envs.set env (some { this with refs := this.refs - 1 }) } := by
  have remains : ¬ this.refs - 1 = 0 := by omega
  simp only [World.unrefWith, readEnv_alive found, ok_bind, writeEnv_alive _ found, remains,
    ↓reduceIte, pure_ok]

/-- What remains of an env when one of its references is dropped. -/
def NodeApiEnv.dropped (this : NodeApiEnv) : Option NodeApiEnv :=
  if this.refs = 1 then none else some { this with refs := this.refs - 1 }

theorem dropped_last (last : this.refs = 1) : this.dropped = none := by
  rw [NodeApiEnv.dropped, ite_cond_eq_true _ _ (eq_true last)]

theorem dropped_shared (shared : this.refs ≠ 1) :
    this.dropped = some { this with refs := this.refs - 1 } := by
  rw [NodeApiEnv.dropped, ite_cond_eq_false _ _ (eq_false shared)]

theorem unref_listed {moduleEnvList : List Nat} (fuel : Nat)
    (found : world.envs.get? env = some this) (positive : 1 ≤ this.refs)
    (alive : world.runtime.get? 0 = some (rootless moduleEnvList))
    (member : env ∈ moduleEnvList) :
    ∃ remaining, World.unrefWith (World.deleteMe (fuel + 1)) world env = .ok { world with
        envs := world.envs.set env this.dropped
        runtime := world.runtime.set 0 (some (rootless remaining)) } ∧
      ∀ other ∈ moduleEnvList, other ≠ env → other ∈ remaining := by
  by_cases last : this.refs = 1
  · refine ⟨moduleEnvList.erase env, ?_, fun other inside different =>
      (List.mem_erase_of_ne different).mpr inside⟩
    rw [unref_module fuel found last alive member, dropped_last last]
  · refine ⟨moduleEnvList, ?_, fun other inside _ => inside⟩
    rw [unrefWith_shared found (by omega), dropped_shared last, Heap.set_same alive]

/-- Dropping the runtime's references deletes the envs that have no other. -/
theorem unref_modules (fuel : Nat) (modules : List Nat) :
    ∀ {world : World} {moduleEnvList : List Nat},
    world.runtime.get? 0 = some (rootless moduleEnvList) → modules.Nodup →
    (∀ env ∈ modules, env ∈ moduleEnvList ∧
      ∃ this, world.envs.get? env = some this ∧ 1 ≤ this.refs) →
    ∃ envs runtime remaining,
      modules.foldlM (World.unrefWith (World.deleteMe (fuel + 1))) world =
        .ok { world with envs, runtime } ∧
      runtime.get? 0 = some (rootless remaining) ∧
      (∀ env ∈ modules, envs.get? env = (world.envs.get? env).bind NodeApiEnv.dropped) ∧
      ∀ env, env ∉ modules → envs.get? env = world.envs.get? env := by
  induction modules with
  | nil =>
    intro world moduleEnvList alive _ _
    exact ⟨world.envs, world.runtime, moduleEnvList, rfl, alive, nofun, fun _ _ => rfl⟩
  | cons env rest ih =>
    intro world moduleEnvList alive distinct listed
    obtain ⟨member, this, found, positive⟩ := listed env List.mem_cons_self
    obtain ⟨absent, distinctRest⟩ := List.nodup_cons.mp distinct
    obtain ⟨remaining, dropped, stay⟩ := unref_listed fuel found positive alive member
    let middle : World := { world with
      envs := world.envs.set env this.dropped
      runtime := world.runtime.set 0 (some (rootless remaining)) }
    have others : ∀ other, other ≠ env → middle.envs.get? other = world.envs.get? other :=
      fun other different => Heap.get?_set_of_ne _ different
    have listedRest : ∀ other ∈ rest, other ∈ remaining ∧
        ∃ that, middle.envs.get? other = some that ∧ 1 ≤ that.refs := by
      intro other inside
      have different : other ≠ env := ne_of_mem_of_not_mem inside absent
      have before := listed other (List.mem_cons_of_mem env inside)
      rw [others other different]
      exact ⟨stay other before.1 different, before.2⟩
    obtain ⟨envs, runtime, final, finished, alive', gone, kept⟩ :=
      ih (show middle.runtime.get? 0 = some _ from Heap.get?_set_self _ alive) distinctRest
        listedRest
    refine ⟨envs, runtime, final, ?_, alive', ?_, ?_⟩
    · rw [List.foldlM_cons, dropped, ok_bind]
      exact finished
    · intro other inside
      rcases List.mem_cons.mp inside with rfl | inside
      · rw [kept other absent, found]
        exact Heap.get?_set_self _ found
      · rw [gone other inside, others other (ne_of_mem_of_not_mem inside absent)]
    · intro other outside
      rw [List.mem_cons, not_or] at outside
      rw [kept other outside.2, others other outside.1]

/-- The root env goes, with the runtime and the envs that have no reference but
that of the runtime. -/
theorem deleteMe_root {moduleEnvList : List Nat} (found : world.envs.get? env = some this)
    (alive : world.runtime.get? 0 = some { moduleEnvList, rootEnv := some env })
    (distinct : moduleEnvList.Nodup) (member : env ∈ moduleEnvList)
    (listed : ∀ other ∈ moduleEnvList, ∃ that, world.envs.get? other = some that ∧
      (other ≠ env → 1 ≤ that.refs)) :
    ∃ envs runtime, World.deleteMe 2 world env = .ok { world with envs, runtime } ∧
      runtime.get? 0 = none ∧ envs.get? env = none ∧
      (∀ other ∈ moduleEnvList, other ≠ env →
        envs.get? other = (world.envs.get? other).bind NodeApiEnv.dropped) ∧
      ∀ other, other ∉ moduleEnvList → envs.get? other = world.envs.get? other := by
  let marked : World := { world with
    envs := world.envs.set env (some { this with isDestructing := true }) }
  let removed : World := { marked with
    runtime := world.runtime.set 0 (some (rootless (moduleEnvList.erase env))) }
  have foundRemoved : removed.envs.get? env = some { this with isDestructing := true } :=
    Heap.get?_set_self _ found
  have absent : env ∉ moduleEnvList.erase env := fun inside =>
    ((distinct.mem_erase_iff).mp inside).1 rfl
  have others : ∀ other, other ≠ env → removed.envs.get? other = world.envs.get? other :=
    fun other different => Heap.get?_set_of_ne _ different
  have listedRemoved : ∀ other ∈ moduleEnvList.erase env, other ∈ moduleEnvList.erase env ∧
      ∃ that, removed.envs.get? other = some that ∧ 1 ≤ that.refs := by
    intro other inside
    obtain ⟨different, before⟩ := (distinct.mem_erase_iff).mp inside
    obtain ⟨that, present, positive⟩ := listed other before
    rw [others other different]
    exact ⟨inside, that, present, positive different⟩
  obtain ⟨envs, runtime, remaining, finished, alive', gone, kept⟩ :=
    unref_modules 0 (moduleEnvList.erase env)
      (show removed.runtime.get? 0 = some _ from Heap.get?_set_self _ alive)
      (distinct.erase env) listedRemoved
  let emptied : World := { removed with envs, runtime }
  have present : emptied.envs.get? env = some { this with isDestructing := true } :=
    (kept env absent).trans foundRemoved
  have left : World.removeModuleEnvWith (World.deleteMe 1) marked env = .ok (emptied, true) := by
    rw [removeModuleEnvWith_root (show marked.runtime.get? 0 = _ from alive) member rfl]
    change List.foldlM (World.unrefWith (World.deleteMe (0 + 1))) removed _ >>= _ = _
    rw [finished]
    rfl
  have destroyed : emptied.destroy env = .ok { emptied with envs := envs.set env none } :=
    destroy_alive present alive' rfl
  refine ⟨envs.set env none, runtime.set 0 none, ?_, Heap.get?_set_self none alive',
    Heap.get?_set_self none present, ?_, ?_⟩
  · simp only [World.deleteMe, readEnv_alive found, ok_bind, writeEnv_alive _ found]
    change World.removeModuleEnvWith (World.deleteMe 1) marked env >>= _ = _
    rw [left, ok_bind]
    change emptied.destroy env >>= _ = _
    rw [destroyed, ok_bind]
    exact deleteRuntime_alive alive'
  · intro other inside different
    rw [Heap.get?_set_of_ne none different,
      gone other ((distinct.mem_erase_iff).mpr ⟨different, inside⟩), others other different]
  · intro other outside
    have different : other ≠ env := fun same => outside (same ▸ member)
    rw [Heap.get?_set_of_ne none different,
      kept other fun inside => outside (List.mem_of_mem_erase inside), others other different]

theorem unref_root {moduleEnvList : List Nat} (found : world.envs.get? env = some this)
    (last : this.refs = 1)
    (alive : world.runtime.get? 0 = some { moduleEnvList, rootEnv := some env })
    (distinct : moduleEnvList.Nodup) (member : env ∈ moduleEnvList)
    (listed : ∀ other ∈ moduleEnvList, ∃ that, world.envs.get? other = some that ∧
      1 ≤ that.refs) :
    ∃ envs runtime, world.unref env = .ok { world with envs, runtime } ∧
      runtime.get? 0 = none ∧ envs.get? env = none ∧
      (∀ other ∈ moduleEnvList, other ≠ env →
        envs.get? other = (world.envs.get? other).bind NodeApiEnv.dropped) ∧
      ∀ other, other ∉ moduleEnvList → envs.get? other = world.envs.get? other := by
  let dropped : World := { world with
    envs := world.envs.set env (some { this with refs := this.refs - 1 }) }
  have others : ∀ other, other ≠ env → dropped.envs.get? other = world.envs.get? other :=
    fun other different => Heap.get?_set_of_ne _ different
  have foundDropped : dropped.envs.get? env = some { this with refs := this.refs - 1 } :=
    Heap.get?_set_self _ found
  have listedDropped : ∀ other ∈ moduleEnvList, ∃ that, dropped.envs.get? other = some that ∧
      (other ≠ env → 1 ≤ that.refs) := by
    intro other inside
    by_cases same : other = env
    · rw [same]
      exact ⟨_, foundDropped, fun different => absurd rfl different⟩
    · obtain ⟨that, present, positive⟩ := listed other inside
      rw [others other same]
      exact ⟨that, present, fun _ => positive⟩
  obtain ⟨envs, runtime, deleted, dead, gone, modules, kept⟩ := deleteMe_root foundDropped
    (show dropped.runtime.get? 0 = _ from alive) distinct member listedDropped
  refine ⟨envs, runtime, ?_, dead, gone, ?_, ?_⟩
  · have none_left : this.refs - 1 = 0 := by omega
    simp only [World.unref, World.unrefWith, readEnv_alive found, ok_bind, writeEnv_alive _ found]
    rw [ite_cond_eq_true _ _ (eq_true none_left)]
    exact deleted
  · intro other inside different
    rw [modules other inside different, others other different]
  · intro other outside
    rw [kept other outside, others other fun same => outside (same ▸ member)]

/-! ## Envs that outlive the runtime -/

/-- No finalizer of the set posts another. -/
def Finalizers.postNothing : Finalizers → Bool
  | none => true
  | queued none rest => rest.postNothing
  | queued (queued _ _) _ => false

theorem readRuntime_dead (dead : world.runtime.get? 0 = none) :
    world.readRuntime = .error (.runtime (.useAfterDelete 0)) := by
  simp only [World.readRuntime, Heap.read, dead, mapError_error]

theorem removeModuleEnvWith_dead {deleteMe : World → Nat → Except Failure World}
    (dead : world.runtime.get? 0 = none) :
    World.removeModuleEnvWith deleteMe world env = .error (.runtime (.useAfterDelete 0)) := by
  rw [World.removeModuleEnvWith, readRuntime_dead dead, error_bind]

theorem unref_orphan (found : world.envs.get? env = some this) (last : this.refs = 1)
    (dead : world.runtime.get? 0 = none) :
    world.unref env = .error (.runtime (.useAfterDelete 0)) := by
  have none_left : this.refs - 1 = 0 := by omega
  let dropped : World := { world with
    envs := world.envs.set env (some { this with refs := this.refs - 1 }) }
  have foundDropped : dropped.envs.get? env = some { this with refs := this.refs - 1 } :=
    Heap.get?_set_self _ found
  simp only [World.unref, World.unrefWith, readEnv_alive found, ok_bind, writeEnv_alive _ found]
  rw [ite_cond_eq_true _ _ (eq_true none_left)]
  change World.deleteMe 2 dropped env = _
  rw [World.deleteMe, readEnv_alive foundDropped, ok_bind, writeEnv_alive _ foundDropped, ok_bind,
    removeModuleEnvWith_dead (by exact dead), error_bind]

theorem enqueueFinalizer_scheduled (posts : Finalizers)
    (found : world.envs.get? env = some this) (scheduled : this.isFinalizationScheduled = true) :
    ∃ after that, world.enqueueFinalizer env posts = .ok after ∧
      Touched world after env this that 0 := by
  simp only [World.enqueueFinalizer, readEnv_alive found, ok_bind, scheduled, Bool.not_true,
    Bool.false_and, Bool.false_eq_true, ↓reduceIte, writeEnv_alive _ found]
  exact ⟨_, _, rfl, Touched.write _ rfl rfl⟩

theorem enqueueFinalizer_orphan (posts : Finalizers)
    (found : world.envs.get? env = some this) (idle : this.isDestructing = false)
    (unscheduled : this.isFinalizationScheduled = false) (dead : world.runtime.get? 0 = none) :
    world.enqueueFinalizer env posts = .error (.runtime (.useAfterDelete 0)) := by
  simp only [World.enqueueFinalizer, readEnv_alive found, ok_bind, unscheduled, idle,
    Bool.not_false, Bool.and_self, ↓reduceIte, writeEnv_alive _ found, World.setImmediate,
    World.readRuntime, Heap.read, dead, mapError_error, error_bind]

/-- Without the runtime, the env can drain finalizers that post nothing, and no
others. -/
theorem drainLoop_orphan (fuel : Nat) : ∀ {world : World} {this : NodeApiEnv},
    world.envs.get? env = some this → this.isDestructing = false →
    this.isFinalizationScheduled = false → world.runtime.get? 0 = none →
    this.pendingFinalizers.size < fuel →
    (this.pendingFinalizers.postNothing = true →
      ∃ after that, World.drainLoop fuel world env = .ok after ∧
        Touched world after env this that 0) ∧
    (this.pendingFinalizers.postNothing = false →
      World.drainLoop fuel world env = .error (.runtime (.useAfterDelete 0))) := by
  induction fuel with
  | zero => exact fun _ _ _ _ small => absurd small (Nat.not_lt_zero _)
  | succ fuel ih =>
    intro world this found idle unscheduled dead small
    cases pending : this.pendingFinalizers with
    | none =>
      simp only [World.drainLoop, readEnv_alive found, ok_bind, pending]
      exact ⟨fun _ => ⟨world, this, rfl, Touched.refl found⟩, nofun⟩
    | queued posts rest =>
      let popped : NodeApiEnv := { this with pendingFinalizers := rest }
      let opened : World := { world with envs := world.envs.set env (some popped) }
      have written : Touched world opened env this popped 0 := Touched.write popped rfl rfl
      have foundOpened : opened.envs.get? env = some popped := written.found found
      have deadOpened : opened.runtime.get? 0 = none := dead
      have turn : World.drainLoop (fuel + 1) world env =
          (opened.postAll env posts >>= fun after => World.drainLoop fuel after env) :=
        drainLoop_queued fuel found pending
      rw [pending, Finalizers.size] at small
      rw [turn]
      cases posts with
      | none =>
        obtain ⟨quiet, loud⟩ := ih foundOpened idle unscheduled deadOpened
          (show rest.size < fuel by omega)
        simp only [Finalizers.postNothing, World.postAll, ok_bind]
        refine ⟨fun holds => ?_, loud⟩
        obtain ⟨after, that, finished, touched⟩ := quiet holds
        exact ⟨after, that, finished, written.trans touched⟩
      | queued inner more =>
        have enqueued := enqueueFinalizer_orphan inner foundOpened idle unscheduled deadOpened
        simp only [World.postAll, enqueued, error_bind]
        exact ⟨nofun, fun _ => trivial⟩

end

end V8Jsi.V8Api
