import Mathlib.Data.List.Perm.Basic
import V8Jsi.EnvDelete

set_option autoImplicit false

namespace V8Jsi.V8Api

open Runs Heaps Outcome

/-- While the runtime lives, the wrapper has a reference on the root env and the
runtime one on every other env. -/
def World.own (world : World) (env : Nat) : Nat :=
  match world.runtime.get? 0 with
  | none => 0
  | some _ => if env = 0 then world.wrapper.toNat else 1

/-- The references to an env. `inHand` names the env of a reference that has left
its place and is about to be dropped. -/
def World.references (world : World) (inHand : Option Nat) (env : Nat) : Nat :=
  world.own env + world.tasks.count env + world.outstanding.count env +
    if inHand = some env then 1 else 0

/-- The runtime lists the envs that live. -/
def World.Listed (world : World) : Prop :=
  ∃ moduleEnvList, world.runtime.get? 0 = some { moduleEnvList, rootEnv := some 0 } ∧
    moduleEnvList.Nodup ∧ 0 ∈ moduleEnvList ∧
      ∀ env, env ∈ moduleEnvList ↔ ∃ this, world.envs.get? env = some this

/-- The runtime is deleted. Module envs that live are left over. -/
def World.Orphaned (world : World) : Prop :=
  world.runtime.get? 0 = none ∧ world.wrapper = false

/-- Every reference to an env that lives is accounted for. -/
structure Accounted (world : World) (inHand : Option Nat) : Prop where
  phase : world.Listed ∨ world.Orphaned
  tasks : ∀ env ∈ world.tasks, ∃ this, world.envs.get? env = some this
  outstanding : ∀ env ∈ world.outstanding, ∃ this, world.envs.get? env = some this
  counted : ∀ env this, world.envs.get? env = some this →
    this.refs = world.references inHand env
  idle : ∀ env this, world.envs.get? env = some this →
    this.isDestructing = false ∧ 1 ≤ this.refs

section

variable {world after : World} {env : Nat} {this that : NodeApiEnv} {inHand : Option Nat}

theorem World.Listed.alive (listed : world.Listed) :
    ∃ runtime, world.runtime.get? 0 = some runtime := by
  obtain ⟨moduleEnvList, alive, -⟩ := listed
  exact ⟨_, alive⟩

theorem World.Listed.own_eq (listed : world.Listed) (env : Nat) :
    world.own env = if env = 0 then world.wrapper.toNat else 1 := by
  obtain ⟨runtime, alive⟩ := listed.alive
  rw [World.own, alive]

theorem World.Orphaned.own_eq (orphaned : world.Orphaned) (env : Nat) : world.own env = 0 := by
  rw [World.own, orphaned.1]

theorem own_congr (runtime : after.runtime = world.runtime)
    (wrapper : after.wrapper = world.wrapper) (env : Nat) : after.own env = world.own env := by
  rw [World.own, World.own, runtime, wrapper]

/-- One env changes its count together with the places that hold references. -/
theorem Accounted.set {inHand' : Option Nat} (accounted : Accounted world inHand)
    (found : world.envs.get? env = some this)
    (envs : after.envs = world.envs.set env (some that)) (runtime : after.runtime = world.runtime)
    (wrapper : after.wrapper = world.wrapper)
    (tasks : ∀ other ∈ after.tasks, other = env ∨ other ∈ world.tasks)
    (outstanding : ∀ other ∈ after.outstanding, other = env ∨ other ∈ world.outstanding)
    (others : ∀ other, other ≠ env →
      after.references inHand' other = world.references inHand other)
    (counted : that.refs = after.references inHand' env) (positive : 1 ≤ that.refs)
    (idle : that.isDestructing = this.isDestructing) : Accounted after inHand' := by
  have lives : ∀ other, (∃ found, after.envs.get? other = some found) ↔
      ∃ found, world.envs.get? other = some found := by
    intro other
    rw [envs]
    exact Heap.exists_get?_set found
  have kept : ∀ other found, after.envs.get? other = some found →
      other = env ∧ found = that ∨ other ≠ env ∧ world.envs.get? other = some found := by
    intro other value present
    rw [envs] at present
    rcases Heap.get?_set_some found present with ⟨same, cell⟩ | before
    · exact .inl ⟨same, (Option.some.inj cell).symm⟩
    · exact .inr before
  constructor
  · rcases accounted.phase with ⟨moduleEnvList, alive, distinct, root, members⟩ | orphaned
    · left
      exact ⟨moduleEnvList, by rw [runtime, alive], distinct, root,
        fun other => (members other).trans (lives other).symm⟩
    · right
      exact ⟨by rw [runtime, orphaned.1], by rw [wrapper, orphaned.2]⟩
  · intro other inside
    rcases tasks other inside with rfl | inside
    · exact (lives other).mpr ⟨this, found⟩
    · exact (lives other).mpr (accounted.tasks other inside)
  · intro other inside
    rcases outstanding other inside with rfl | inside
    · exact (lives other).mpr ⟨this, found⟩
    · exact (lives other).mpr (accounted.outstanding other inside)
  · intro other value present
    rcases kept other value present with ⟨rfl, rfl⟩ | ⟨different, before⟩
    · exact counted
    · rw [others other different]
      exact accounted.counted other value before
  · intro other value present
    rcases kept other value present with ⟨rfl, rfl⟩ | ⟨-, before⟩
    · exact ⟨idle.trans (accounted.idle other this found).1, positive⟩
    · exact accounted.idle other value before

theorem Accounted.touched {posted : Nat} (accounted : Accounted world inHand)
    (found : world.envs.get? env = some this)
    (touched : Touched world after env this that posted) : Accounted after inHand := by
  have own := own_congr touched.runtime touched.wrapper
  apply accounted.set found touched.envs touched.runtime touched.wrapper
  · intro other inside
    rw [touched.tasks, List.mem_append, List.mem_replicate] at inside
    rcases inside with inside | ⟨-, same⟩
    · exact .inr inside
    · exact .inl same
  · intro other inside
    rw [touched.outstanding] at inside
    exact .inr inside
  · intro other different
    rw [World.references, World.references, own, touched.tasks, touched.outstanding,
      List.count_append, List.count_replicate]
    simp [Ne.symm different]
  · rw [touched.refs, accounted.counted env this found, World.references, World.references, own,
      touched.tasks, touched.outstanding, List.count_append, List.count_replicate_self]
    omega
  · have positive := (accounted.idle env this found).2
    rw [touched.refs]
    omega
  · exact touched.destructing

/-- A reference leaves the place that holds it. -/
theorem Accounted.take (accounted : Accounted world none)
    (phase : after.Listed ∨ after.Orphaned) (envs : after.envs = world.envs)
    (tasks : ∀ other ∈ after.tasks, other ∈ world.tasks)
    (outstanding : ∀ other ∈ after.outstanding, other ∈ world.outstanding)
    (references : ∀ other, after.references inHand other = world.references none other) :
    Accounted after inHand where
  phase := phase
  tasks other inside := by
    rw [envs]
    exact accounted.tasks other (tasks other inside)
  outstanding other inside := by
    rw [envs]
    exact accounted.outstanding other (outstanding other inside)
  counted other value present := by
    rw [envs] at present
    rw [references other]
    exact accounted.counted other value present
  idle other value present := by
    rw [envs] at present
    exact accounted.idle other value present

/-- Dropping a reference that is not the last. -/
theorem Accounted.unref_shared (accounted : Accounted world (some env))
    (found : world.envs.get? env = some this) (shared : 2 ≤ this.refs) :
    ∃ after that, world.unref env = .ok after ∧ Accounted after none ∧
      after.envs.get? env = some that ∧ after.runtime = world.runtime ∧
      that = { this with refs := this.refs - 1 } := by
  refine ⟨_, _, unrefWith_shared found shared, ?_, Heap.get?_set_self _ found, rfl, rfl⟩
  refine accounted.set found rfl rfl rfl (fun _ inside => .inr inside)
    (fun _ inside => .inr inside) ?_ ?_ ?_ rfl
  · intro other different
    simp [World.references, World.own, Ne.symm different]
  · have counted := accounted.counted env this found
    simp only [World.references, ↓reduceIte] at counted ⊢
    simp only [reduceCtorEq, ↓reduceIte]
    simp only [World.own] at counted ⊢
    omega
  · simp only
    omega

/-- While the runtime lives, only the root env can lose its last reference. -/
theorem Accounted.last_is_root (accounted : Accounted world (some env)) (listed : world.Listed)
    (found : world.envs.get? env = some this) (last : this.refs = 1) :
    env = 0 ∧ world.wrapper = false ∧ env ∉ world.tasks ∧ env ∉ world.outstanding := by
  have counted := accounted.counted env this found
  simp only [World.references, ↓reduceIte, listed.own_eq] at counted
  have tasks : world.tasks.count env = 0 := by omega
  have outstanding : world.outstanding.count env = 0 := by omega
  have own : (if env = 0 then world.wrapper.toNat else 1) = 0 := by omega
  by_cases root : env = 0
  · rw [ite_cond_eq_true _ _ (eq_true root), Bool.toNat_eq_zero] at own
    exact ⟨root, own, List.count_eq_zero.mp tasks, List.count_eq_zero.mp outstanding⟩
  · rw [ite_cond_eq_false _ _ (eq_false root)] at own
    cases own

/-- What the last reference to the root env leaves of the others. -/
structure RootDropped (world : World) (moduleEnvList : List Nat) (envs : Heap NodeApiEnv) :
    Prop where
  members : ∀ other, other ∈ moduleEnvList ↔ ∃ that, world.envs.get? other = some that
  gone : envs.get? 0 = none
  modules : ∀ other ∈ moduleEnvList, other ≠ 0 →
    envs.get? other = (world.envs.get? other).bind NodeApiEnv.dropped
  kept : ∀ other, other ∉ moduleEnvList → envs.get? other = world.envs.get? other

/-- An env other than the root survives with one reference less, or not at all. -/
theorem RootDropped.survives {moduleEnvList : List Nat} {envs : Heap NodeApiEnv} {other : Nat}
    {that : NodeApiEnv} (dropped : RootDropped world moduleEnvList envs)
    (present : envs.get? other = some that) :
    ∃ before, world.envs.get? other = some before ∧ other ≠ 0 ∧ before.refs ≠ 1 ∧
      that = { before with refs := before.refs - 1 } := by
  have different : other ≠ 0 := by
    rintro rfl
    rw [dropped.gone] at present
    cases present
  by_cases inside : other ∈ moduleEnvList
  · obtain ⟨before, foundBefore⟩ := (dropped.members other).mp inside
    rw [dropped.modules other inside different, foundBefore, Option.bind_some] at present
    by_cases last : before.refs = 1
    · rw [dropped_last last] at present
      cases present
    · rw [dropped_shared last] at present
      exact ⟨before, foundBefore, different, last, (Option.some.inj present).symm⟩
  · rw [dropped.kept other inside] at present
    exact absurd ((dropped.members other).mpr ⟨that, present⟩) inside

/-- An env that is held by more than the list of the runtime survives. -/
theorem RootDropped.remains {moduleEnvList : List Nat} {envs : Heap NodeApiEnv} {other : Nat}
    {before : NodeApiEnv} (dropped : RootDropped world moduleEnvList envs)
    (found : world.envs.get? other = some before) (different : other ≠ 0)
    (shared : before.refs ≠ 1) : ∃ that, envs.get? other = some that := by
  rw [dropped.modules other ((dropped.members other).mpr ⟨before, found⟩) different, found,
    Option.bind_some, dropped_shared shared]
  exact ⟨_, rfl⟩

/-- The last reference takes the runtime along, and leaves over the envs that
others refer to. -/
theorem Accounted.unref_last (accounted : Accounted world (some env)) (listed : world.Listed)
    (found : world.envs.get? env = some this) (last : this.refs = 1) :
    ∃ after, world.unref env = .ok after ∧ Accounted after none ∧ after.envs.get? env = none := by
  obtain ⟨root, wrapper, notTask, notOutstanding⟩ := accounted.last_is_root listed found last
  obtain ⟨moduleEnvList, alive, distinct, member, members⟩ := listed
  subst root
  have positive : ∀ other ∈ moduleEnvList, ∃ that, world.envs.get? other = some that ∧
      1 ≤ that.refs := by
    intro other inside
    obtain ⟨that, present⟩ := (members other).mp inside
    exact ⟨that, present, (accounted.idle other that present).2⟩
  obtain ⟨envs, runtime, unreferenced, dead, gone, modules, kept⟩ :=
    unref_root found last alive distinct member positive
  have orphaned : World.Orphaned { world with envs, runtime } := ⟨dead, wrapper⟩
  have dropped : RootDropped world moduleEnvList envs := ⟨members, gone, modules, kept⟩
  have counted : ∀ other before, world.envs.get? other = some before → other ≠ 0 →
      before.refs = world.tasks.count other + world.outstanding.count other + 1 := by
    intro other before foundBefore different
    have counted := accounted.counted other before foundBefore
    simp only [World.references, World.own, alive, different, ↓reduceIte, Option.some.injEq,
      Ne.symm different] at counted
    omega
  refine ⟨_, unreferenced, ⟨.inr orphaned, ?_, ?_, ?_, ?_⟩, gone⟩
  · intro other inside
    obtain ⟨before, foundBefore⟩ := accounted.tasks other inside
    have different := ne_of_mem_of_not_mem inside notTask
    have held : 0 < world.tasks.count other := List.count_pos_iff.mpr inside
    have := counted other before foundBefore different
    exact dropped.remains foundBefore different (by omega)
  · intro other inside
    obtain ⟨before, foundBefore⟩ := accounted.outstanding other inside
    have different := ne_of_mem_of_not_mem inside notOutstanding
    have held : 0 < world.outstanding.count other := List.count_pos_iff.mpr inside
    have := counted other before foundBefore different
    exact dropped.remains foundBefore different (by omega)
  · intro other that present
    obtain ⟨before, foundBefore, different, -, rfl⟩ := dropped.survives present
    have := counted other before foundBefore different
    rw [World.references, orphaned.own_eq]
    simp only [reduceCtorEq, ↓reduceIte]
    omega
  · intro other that present
    obtain ⟨before, foundBefore, -, shared, rfl⟩ := dropped.survives present
    have idle := accounted.idle other before foundBefore
    exact ⟨idle.1, by simp only; omega⟩

end

/-! ## Whole runs -/

def World.runtimeLives (world : World) : Bool := (world.runtime.get? 0).isSome

/-- The env has a reference to spare. -/
def World.shared (world : World) (env : Nat) : Bool :=
  (world.envs.get? env).all fun this => 2 ≤ this.refs

def World.scheduled (world : World) (env : Nat) : Bool :=
  (world.envs.get? env).all fun this => this.isFinalizationScheduled

def World.drainsAlone (world : World) (env : Nat) : Bool :=
  (world.envs.get? env).all fun this => this.pendingFinalizers.postNothing

/-- A task never runs on the last reference to its env. Once the runtime is gone,
the envs left over create no env, keep a reference, schedule nothing and drain only
finalizers that post nothing. -/
def Keeps (world : World) : Action → Prop
  | .runTask i => ∀ env ∈ world.tasks[i]?,
      world.shared env = true ∧ (world.runtimeLives = true ∨ world.drainsAlone env = true)
  | .unref env => world.runtimeLives = true ∨ world.shared env = true
  | .enqueueFinalizer env _ => world.runtimeLives = true ∨ world.scheduled env = true
  | .createNodeApi _ => world.runtimeLives = true
  | .ref _ | .trackReference _ _ | .jsrDeleteRuntime => True

instance (world : World) : ∀ action, Decidable (Keeps world action)
  | .runTask i => match found : world.tasks[i]? with
      | none => isTrue (by simp [Keeps, found])
      | some env => decidable_of_iff
          (world.shared env = true ∧ (world.runtimeLives = true ∨ world.drainsAlone env = true))
          (by simp [Keeps, found])
  | .unref env => inferInstanceAs
      (Decidable (world.runtimeLives = true ∨ world.shared env = true))
  | .enqueueFinalizer env _ => inferInstanceAs
      (Decidable (world.runtimeLives = true ∨ world.scheduled env = true))
  | .createNodeApi _ => inferInstanceAs (Decidable (world.runtimeLives = true))
  | .ref _ | .trackReference _ _ | .jsrDeleteRuntime => isTrue trivial

/-- No env and no runtime was touched after its deletion. -/
def Undamaged : Except Failure World → Prop
  | .error (.env _) | .error (.runtime _) => False
  | .error .nullRootEnv | .error .outOfFuel | .ok _ => True

section

variable {world : World} {env : Nat} {this : NodeApiEnv}

theorem Accounted.lives_iff {inHand : Option Nat} (accounted : Accounted world inHand) :
    world.runtimeLives = true ↔ world.Listed := by
  rw [World.runtimeLives, Option.isSome_iff_exists]
  refine ⟨fun alive => ?_, World.Listed.alive⟩
  rcases accounted.phase with listed | orphaned
  · exact listed
  · rw [orphaned.1] at alive
    obtain ⟨_, nothing⟩ := alive
    cases nothing

/-- The reference in hand is dropped safely exactly when it is not the last one of
an env that outlived the runtime. -/
theorem Accounted.unref (accounted : Accounted world (some env))
    (found : world.envs.get? env = some this) (kept : world.Listed ∨ 2 ≤ this.refs) :
    ∃ after, world.unref env = .ok after ∧ Accounted after none := by
  by_cases shared : 2 ≤ this.refs
  · obtain ⟨after, -, dropped, accounted', -⟩ := accounted.unref_shared found shared
    exact ⟨after, dropped, accounted'⟩
  · have positive := (accounted.idle env this found).2
    have last : this.refs = 1 := by omega
    obtain ⟨after, dropped, accounted', -⟩ :=
      accounted.unref_last (kept.resolve_right shared) found last
    exact ⟨after, dropped, accounted'⟩

theorem Accounted.take_outstanding (accounted : Accounted world none)
    (held : env ∈ world.outstanding) :
    Accounted { world with outstanding := world.outstanding.erase env } (some env) := by
  apply accounted.take
  · exact accounted.phase
  · rfl
  · exact fun _ inside => inside
  · exact fun _ inside => List.mem_of_mem_erase inside
  · intro other
    have here : 0 < world.outstanding.count env := List.count_pos_iff.mpr held
    by_cases same : env = other
    · subst same
      simp only [World.references, World.own, List.count_erase_self, ↓reduceIte, reduceCtorEq]
      omega
    · simp [World.references, World.own, List.count_erase_of_ne (Ne.symm same), same]

theorem Accounted.take_task {i : Nat} (accounted : Accounted world none)
    (held : world.tasks[i]? = some env) :
    Accounted { world with tasks := world.tasks.eraseIdx i } (some env) := by
  obtain ⟨inside, here⟩ := List.getElem?_eq_some_iff.mp held
  have count : ∀ other, world.tasks.count other =
      (world.tasks.eraseIdx i).count other + if env = other then 1 else 0 := by
    intro other
    rw [← (List.getElem_cons_eraseIdx_perm inside).count_eq, here, List.count_cons]
    simp only [beq_iff_eq]
  apply accounted.take
  · exact accounted.phase
  · rfl
  · exact fun _ inside => List.mem_of_mem_eraseIdx inside
  · exact fun _ inside => inside
  · intro other
    simp only [World.references, World.own, count other, Option.some.injEq, reduceCtorEq,
      ↓reduceIte]
    omega

theorem Accounted.listed_of_wrapper (accounted : Accounted world none)
    (wrapper : world.wrapper = true) : world.Listed := by
  rcases accounted.phase with listed | orphaned
  · exact listed
  · rw [orphaned.2] at wrapper
    cases wrapper

theorem Accounted.take_wrapper (accounted : Accounted world none)
    (wrapper : world.wrapper = true) :
    Accounted { world with wrapper := false } (some 0) := by
  have listed := accounted.listed_of_wrapper wrapper
  obtain ⟨runtime, alive⟩ := listed.alive
  apply accounted.take
  · exact .inl listed
  · rfl
  · exact fun _ inside => inside
  · exact fun _ inside => inside
  · intro other
    by_cases root : other = 0
    · simp [World.references, World.own, alive, wrapper, root]
      omega
    · simp [World.references, World.own, alive, root, Ne.symm root]

/-- The world with a new module env. -/
def World.extended (world : World) (moduleEnvList : List Nat) : World :=
  { world with
    envs := world.envs.alloc {}
    runtime := world.runtime.set 0 (some
      { moduleEnvList := moduleEnvList ++ [world.envs.next], rootEnv := some 0 }) }

theorem extended_listed {moduleEnvList : List Nat}
    (alive : world.runtime.get? 0 = some { moduleEnvList, rootEnv := some 0 })
    (distinct : moduleEnvList.Nodup) (root : 0 ∈ moduleEnvList)
    (members : ∀ other, other ∈ moduleEnvList ↔ ∃ that, world.envs.get? other = some that)
    (absent : world.envs.next ∉ moduleEnvList) : (world.extended moduleEnvList).Listed := by
  refine ⟨_, Heap.get?_set_self _ alive, ?_, List.mem_append_left _ root, ?_⟩
  · apply List.nodup_append.mpr
    refine ⟨distinct, List.nodup_singleton _, ?_⟩
    intro other inside
    simp only [List.mem_singleton, forall_eq]
    exact ne_of_mem_of_not_mem inside absent
  · intro other
    rw [List.mem_append, List.mem_singleton, members]
    constructor
    · rintro (⟨that, present⟩ | rfl)
      · exact ⟨that, Heap.get?_alloc_of_some present⟩
      · exact ⟨{}, Heap.get?_alloc_self⟩
    · rintro ⟨that, present⟩
      rcases Heap.get?_alloc_some present with ⟨same, -⟩ | before
      · exact .inr same
      · exact .inl ⟨that, before⟩

theorem createNodeApi_accounted (accounted : Accounted world none) (listed : world.Listed) :
    ∃ after, world.createNodeApi = .ok after ∧ Accounted after none := by
  obtain ⟨moduleEnvList, alive, distinct, root, members⟩ := listed
  have fresh : ∀ other, (∃ that, world.envs.get? other = some that) → other ≠ world.envs.next := by
    rintro other ⟨that, present⟩ rfl
    rw [Heap.get?_next] at present
    cases present
  have absent : world.envs.next ∉ moduleEnvList :=
    fun inside => fresh _ ((members _).mp inside) rfl
  have kept : ∀ other, (∃ that, world.envs.get? other = some that) →
      ∃ that, (world.extended moduleEnvList).envs.get? other = some that := by
    rintro other ⟨that, present⟩
    exact ⟨that, Heap.get?_alloc_of_some present⟩
  have aliveAfter : (world.extended moduleEnvList).runtime.get? 0 =
      some { moduleEnvList := moduleEnvList ++ [world.envs.next], rootEnv := some 0 } :=
    Heap.get?_set_self _ alive
  refine ⟨world.extended moduleEnvList, ?_, ?_⟩
  · rw [World.createNodeApi, readRuntime_alive alive, ok_bind]
    exact writeRuntime_alive _ alive
  constructor
  · exact .inl (extended_listed alive distinct root members absent)
  · exact fun other inside => kept other (accounted.tasks other inside)
  · exact fun other inside => kept other (accounted.outstanding other inside)
  · intro other that present
    rcases Heap.get?_alloc_some present with ⟨rfl, rfl⟩ | before
    · have notTask : world.tasks.count world.envs.next = 0 :=
        List.count_eq_zero.mpr fun inside => fresh _ (accounted.tasks _ inside) rfl
      have notOutstanding : world.outstanding.count world.envs.next = 0 :=
        List.count_eq_zero.mpr fun inside => fresh _ (accounted.outstanding _ inside) rfl
      have notRoot : world.envs.next ≠ 0 := Ne.symm (ne_of_mem_of_not_mem root absent)
      simp only [World.references, World.own, aliveAfter, notRoot]
      simp [World.extended, notTask, notOutstanding]
    · have counted := accounted.counted other that before
      simp only [World.references, World.own, aliveAfter]
      simpa [World.references, World.own, alive, World.extended] using counted
  · intro other that present
    rcases Heap.get?_alloc_some present with ⟨-, rfl⟩ | before
    · exact ⟨rfl, Nat.le_refl 1⟩
    · exact accounted.idle other that before

/-- The start of the task, up to `Unref`. -/
theorem Accounted.open_task (accounted : Accounted world (some env))
    (found : world.envs.get? env = some this) :
    ∃ opened, world.runTask env = (opened.unref env >>= fun after =>
        after.drainFinalizerQueue env) ∧
      Accounted opened (some env) ∧ opened.runtime = world.runtime ∧
      opened.envs.get? env = some { this with isFinalizationScheduled := false } := by
  let that : NodeApiEnv := { this with isFinalizationScheduled := false }
  refine ⟨{ world with envs := world.envs.set env (some that) }, ?_,
    accounted.touched found (Touched.write that rfl rfl), rfl, Heap.get?_set_self _ found⟩
  simp only [World.runTask, readEnv_alive found, ok_bind, writeEnv_alive _ found]
  rfl

theorem runTask_kept (accounted : Accounted world (some env))
    (found : world.envs.get? env = some this) (shared : 2 ≤ this.refs)
    (drains : world.Listed ∨ this.pendingFinalizers.postNothing = true) :
    ∃ after, world.runTask env = .ok after ∧ Accounted after none := by
  obtain ⟨opened, starts, accountedOpened, runtime, foundOpened⟩ := accounted.open_task found
  obtain ⟨dropped, that, unrefs, accountedDropped, present, runtime', same⟩ :=
    accountedOpened.unref_shared foundOpened shared
  rw [starts, unrefs, ok_bind]
  have idle := (accountedDropped.idle env that present).1
  rcases accountedDropped.phase with listed | orphaned
  · obtain ⟨_, alive⟩ := listed.alive
    obtain ⟨after, _, _, drained, touched, -⟩ := drainFinalizerQueue_touched present alive
    exact ⟨after, drained, accountedDropped.touched present touched⟩
  · have quiet : that.pendingFinalizers.postNothing = true := by
      rw [same]
      apply drains.resolve_left
      intro listed
      obtain ⟨_, alive⟩ := listed.alive
      rw [← runtime, ← runtime', orphaned.1] at alive
      cases alive
    obtain ⟨after, _, drained, touched⟩ :=
      (drainLoop_orphan _ present idle (by rw [same]) orphaned.1 (Nat.lt_succ_self _)).1 quiet
    refine ⟨after, ?_, accountedDropped.touched present touched⟩
    rw [World.drainFinalizerQueue, readEnv_alive present, ok_bind]
    exact drained

theorem runTask_refused (accounted : Accounted world (some env))
    (found : world.envs.get? env = some this)
    (barred : ¬ (2 ≤ this.refs ∧
      (world.Listed ∨ this.pendingFinalizers.postNothing = true))) :
    ¬ Undamaged (world.runTask env) := by
  obtain ⟨opened, starts, accountedOpened, runtime, foundOpened⟩ := accounted.open_task found
  rw [starts]
  by_cases shared : 2 ≤ this.refs
  · obtain ⟨dropped, that, unrefs, accountedDropped, present, runtime', same⟩ :=
      accountedOpened.unref_shared foundOpened shared
    have orphaned := accounted.phase.resolve_left fun listed => barred ⟨shared, .inl listed⟩
    have dead : dropped.runtime.get? 0 = none := by rw [runtime', runtime, orphaned.1]
    have idle := (accountedDropped.idle env that present).1
    have loud : that.pendingFinalizers.postNothing = false := by
      rw [same]
      exact Bool.eq_false_iff.mpr fun quiet => barred ⟨shared, .inr quiet⟩
    rw [unrefs, ok_bind, World.drainFinalizerQueue, readEnv_alive present, ok_bind,
      (drainLoop_orphan _ present idle (by rw [same]) dead (Nat.lt_succ_self _)).2 loud]
    exact id
  · have positive := (accounted.idle env this found).2
    have last : this.refs = 1 := by omega
    rcases accountedOpened.phase with listed | orphaned
    · obtain ⟨after, unrefs, -, gone⟩ := accountedOpened.unref_last listed foundOpened last
      rw [unrefs, ok_bind, World.drainFinalizerQueue, World.readEnv, Heap.read, gone]
      exact id
    · rw [unref_orphan foundOpened last orphaned.1]
      exact id

theorem ref_accounted (accounted : Accounted world none)
    (found : world.envs.get? env = some this) :
    Accounted { world with
      envs := world.envs.set env (some { this with refs := this.refs + 1 })
      outstanding := env :: world.outstanding } none := by
  refine accounted.set found rfl rfl rfl (fun _ inside => .inr inside)
    (fun _ inside => List.mem_cons.mp inside) ?_ ?_ ?_ rfl
  · intro other different
    simp [World.references, World.own, Ne.symm different]
  · have counted := accounted.counted env this found
    simp only [World.references, World.own, reduceCtorEq, ↓reduceIte] at counted ⊢
    rw [List.count_cons_self]
    omega
  · exact Nat.le_add_left 1 _

end

theorem call_kept {world : World} {action : Action} {outcome : Except Failure World}
    (accounted : Accounted world none) (kept : Keeps world action)
    (called : call world action = some outcome) :
    ∃ after, outcome = .ok after ∧ Accounted after none := by
  cases action with
  | createNodeApi env =>
    simp only [call, Option.map_eq_some_iff] at called
    obtain ⟨-, -, rfl⟩ := called
    exact createNodeApi_accounted accounted (accounted.lives_iff.mp kept)
  | ref env =>
    simp only [call, Option.map_eq_some_iff] at called
    obtain ⟨this, found, rfl⟩ := called
    rw [writeEnv_alive _ found, ok_bind]
    exact ⟨_, rfl, ref_accounted accounted found⟩
  | unref env =>
    simp only [call, Option.ite_none_right_eq_some] at called
    obtain ⟨held, same⟩ := called
    obtain ⟨this, found⟩ := accounted.outstanding env held
    have enough : world.Listed ∨ 2 ≤ this.refs := by
      apply kept.imp accounted.lives_iff.mp
      intro shared
      simpa [World.shared, found] using shared
    obtain ⟨after, dropped, accounted'⟩ := (accounted.take_outstanding held).unref found enough
    exact ⟨after, (Option.some.inj same).symm.trans dropped, accounted'⟩
  | trackReference env posts =>
    simp only [call, Option.map_eq_some_iff] at called
    obtain ⟨this, found, rfl⟩ := called
    exact ⟨_, writeEnv_alive _ found, accounted.touched found (Touched.write _ rfl rfl)⟩
  | enqueueFinalizer env posts =>
    simp only [call, Option.map_eq_some_iff] at called
    obtain ⟨this, found, rfl⟩ := called
    rcases kept with lives | scheduled
    · obtain ⟨_, alive⟩ := (accounted.lives_iff.mp lives).alive
      obtain ⟨after, _, _, enqueued, touched, -⟩ := enqueueFinalizer_touched posts found alive
      exact ⟨after, enqueued, accounted.touched found touched⟩
    · obtain ⟨after, _, enqueued, touched⟩ := enqueueFinalizer_scheduled posts found
        (by simpa [World.scheduled, found] using scheduled)
      exact ⟨after, enqueued, accounted.touched found touched⟩
  | runTask i =>
    simp only [call, Option.map_eq_some_iff] at called
    obtain ⟨env, held, rfl⟩ := called
    obtain ⟨this, found⟩ := accounted.tasks env (List.mem_of_getElem? held)
    obtain ⟨shared, drains⟩ := kept env held
    apply runTask_kept (accounted.take_task held) found
    · simpa [World.shared, found] using shared
    · apply drains.imp accounted.lives_iff.mp
      intro drainsAlone
      simpa [World.drainsAlone, found] using drainsAlone
  | jsrDeleteRuntime =>
    simp only [call, Option.ite_none_right_eq_some] at called
    obtain ⟨wrapper, same⟩ := called
    have listed := accounted.listed_of_wrapper wrapper
    have ⟨moduleEnvList, alive, _, root, members⟩ := listed
    obtain ⟨this, found⟩ := (members 0).mp root
    obtain ⟨after, dropped, accounted'⟩ :=
      (accounted.take_wrapper wrapper).unref found (.inl listed)
    refine ⟨after, ?_, accounted'⟩
    rw [← Option.some.inj same, World.jsrDeleteRuntime, readRuntime_alive (by exact alive), ok_bind]
    exact dropped

theorem call_refused {world : World} {action : Action} {outcome : Except Failure World}
    (accounted : Accounted world none) (barred : ¬ Keeps world action)
    (called : call world action = some outcome) : ¬ Undamaged outcome := by
  cases action with
  | createNodeApi env =>
    simp only [call, Option.map_eq_some_iff] at called
    obtain ⟨-, -, rfl⟩ := called
    have orphaned := accounted.phase.resolve_left (mt accounted.lives_iff.mpr barred)
    rw [World.createNodeApi, readRuntime_dead orphaned.1]
    exact id
  | ref env => exact absurd trivial barred
  | trackReference env posts => exact absurd trivial barred
  | jsrDeleteRuntime => exact absurd trivial barred
  | unref env =>
    simp only [call, Option.ite_none_right_eq_some] at called
    obtain ⟨held, same⟩ := called
    obtain ⟨this, found⟩ := accounted.outstanding env held
    simp only [Keeps, not_or, accounted.lives_iff] at barred
    have orphaned := accounted.phase.resolve_left barred.1
    have positive := (accounted.idle env this found).2
    have last : this.refs = 1 := by
      have alone : ¬ 2 ≤ this.refs := by simpa [World.shared, found] using barred.2
      omega
    rw [← Option.some.inj same, unref_orphan (by exact found) last (by exact orphaned.1)]
    exact id
  | enqueueFinalizer env posts =>
    simp only [call, Option.map_eq_some_iff] at called
    obtain ⟨this, found, rfl⟩ := called
    simp only [Keeps, not_or, accounted.lives_iff] at barred
    have orphaned := accounted.phase.resolve_left barred.1
    have unscheduled : this.isFinalizationScheduled = false := by
      simpa [World.scheduled, found] using barred.2
    rw [enqueueFinalizer_orphan posts found (accounted.idle env this found).1 unscheduled
      orphaned.1]
    exact id
  | runTask i =>
    simp only [call, Option.map_eq_some_iff] at called
    obtain ⟨env, held, rfl⟩ := called
    obtain ⟨this, found⟩ := accounted.tasks env (List.mem_of_getElem? held)
    refine runTask_refused (accounted.take_task held) found fun kept => barred ?_
    intro other same
    obtain rfl := Option.some.inj (held.symm.trans same)
    refine ⟨by simpa [World.shared, found] using kept.1, ?_⟩
    apply kept.2.imp accounted.lives_iff.mpr
    intro quiet
    simpa [World.drainsAlone, found] using quiet

theorem accounted_start : Accounted runtimeProgram.start none := by
  have only : ∀ env this, runtimeProgram.start.envs.get? env = some this →
      env = 0 ∧ this = {} := by
    intro env this present
    cases env with
    | zero => exact ⟨rfl, (Option.some.inj present).symm⟩
    | succ env => cases present
  constructor
  · left
    refine ⟨[0], rfl, List.nodup_singleton 0, List.mem_singleton_self 0, fun env => ?_⟩
    rw [List.mem_singleton]
    constructor
    · rintro rfl
      exact ⟨{}, rfl⟩
    · rintro ⟨this, present⟩
      exact (only env this present).1
  · exact nofun
  · exact nofun
  · intro env this present
    obtain ⟨rfl, rfl⟩ := only env this present
    rfl
  · intro env this present
    obtain ⟨-, rfl⟩ := only env this present
    exact ⟨rfl, Nat.le_refl 1⟩

/-- Along a run no env and no runtime is touched after its deletion exactly when
its calls keep to the condition, and every call of such a run completes. -/
theorem undamaged_iff_keeps {trace : List Action} {outcome : Except Failure World}
    (ran : runtimeProgram.run trace = some outcome) :
    (runtimeProgram.SafeAlong Undamaged runtimeProgram.start trace ↔
      runtimeProgram.Meets Keeps runtimeProgram.start trace) ∧
    (runtimeProgram.Meets Keeps runtimeProgram.start trace → ∃ world, outcome = .ok world) := by
  constructor
  · apply Program.safeAlong_iff_meets (Accounted · none)
    · exact fun _ _ => trivial
    · intro world action outcome accounted kept called
      obtain ⟨after, rfl, accounted'⟩ := call_kept accounted kept called
      refine ⟨trivial, ?_⟩
      rintro next ⟨⟩
      exact accounted'
    · exact fun _ _ _ accounted barred called => call_refused accounted barred called
    · exact accounted_start
    · exact ran
  · intro meets
    refine (Program.run_invariant (Accounted · none) (fun outcome => ∃ world, outcome = .ok world)
      accounted_start (fun world _ => ⟨world, rfl⟩) ?_ meets ran).1
    intro world action outcome accounted kept called
    obtain ⟨after, rfl, accounted'⟩ := call_kept accounted kept called
    refine ⟨⟨after, rfl⟩, ?_⟩
    rintro next ⟨⟩
    exact accounted'

/-- A finalizer that posts another runs twice before the runtime goes. -/
theorem undamaged_two_passes :
    runtimeProgram.SafeAlong Undamaged runtimeProgram.start
      [.createNodeApi 0, .enqueueFinalizer 1 (.queued .none .none), .runTask 0, .runTask 0,
        .jsrDeleteRuntime] := by
  have ran : runtimeProgram.run
      [.createNodeApi 0, .enqueueFinalizer 1 (.queued .none .none), .runTask 0, .runTask 0,
        .jsrDeleteRuntime] = some (.ok
      { envs := ⟨[none, none]⟩, runtime := ⟨[none]⟩, wrapper := false }) := rfl
  exact (undamaged_iff_keeps ran).1.mpr (by decide)

/-- The task that holds the last reference drains the queue of an env that its own
`Unref` deleted. An env that others refer to outlives the runtime, and its last
`Unref` calls `removeModuleEnv` of the deleted runtime, as `jsr_create_node_api_env`
through it calls `createNodeApi` of that runtime. -/
theorem last_task_touches_deleted_env :
    ¬ runtimeProgram.SafeAlong Undamaged runtimeProgram.start
      [.enqueueFinalizer 0 .none, .jsrDeleteRuntime, .runTask 0] ∧
    ¬ runtimeProgram.SafeAlong Undamaged runtimeProgram.start
      [.createNodeApi 0, .ref 1, .jsrDeleteRuntime, .unref 1] ∧
    ¬ runtimeProgram.SafeAlong Undamaged runtimeProgram.start
      [.createNodeApi 0, .ref 1, .jsrDeleteRuntime, .createNodeApi 1] :=
  ⟨fun along => along _ [] (.error (.env (.useAfterDelete 0))) (List.append_nil _).symm rfl,
    fun along => along _ [] (.error (.runtime (.useAfterDelete 0))) (List.append_nil _).symm rfl,
    fun along => along _ [] (.error (.runtime (.useAfterDelete 0))) (List.append_nil _).symm rfl⟩

end V8Jsi.V8Api
