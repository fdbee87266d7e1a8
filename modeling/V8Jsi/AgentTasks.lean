import V8Jsi.AgentLifetime

set_option autoImplicit false

/- The runs of a process in which no task and no interrupt outlives its agent. -/
namespace V8Jsi.AgentLifetime

open AgentRegistry Runs SocketServer

section

variable {process next : Process} {agent other : Nat} {change : Life → Life}

theorem life_update (process : Process) (agent other : Nat) (change : Life → Life)
    (inside : agent < process.lives.length) :
    (process.update agent change).life other =
      if other = agent then change (process.life agent) else process.life other := by
  change (process.lives.modify agent change)[other]?.getD {} = _
  rw [List.getElem?_modify]
  by_cases same : other = agent
  · subst same
    rw [Process.life, List.getElem?_eq_getElem inside]
    simp
  · rw [if_neg same, Option.map_eq_map]
    simp only [Ne.symm same, ↓reduceIte, Option.map_id']
    rfl

/-- A life that differs from the initial one belongs to an agent. -/
theorem lives_inside (used : process.life agent ≠ {}) : agent < process.lives.length := by
  by_contra outside
  apply used
  rw [Process.life, List.getElem?_eq_none (by omega)]
  rfl

theorem alive_iff : process.alive agent = true ↔
    0 < (process.life agent).runtimes ∨ held process.registry agent = true := by
  rw [Process.alive, Bool.or_eq_true, decide_eq_true_eq]

theorem pending_iff : process.pending agent = true ↔
    0 < (process.life agent).pendingTasks ∨ 0 < (process.life agent).pendingInterrupts := by
  rw [Process.pending, Bool.or_eq_true, decide_eq_true_eq, decide_eq_true_eq]

structure Sound (process : Process) : Prop where
  kept : Kept process.registry
  outlived : ∀ agent, process.pending agent = true → process.alive agent = true

/-- A step with one life, in which what is pending stays covered. -/
theorem Sound.update (sound : Sound process) (inside : agent < process.lives.length)
    (covered : (process.update agent change).pending agent = true →
      (process.update agent change).alive agent = true) :
    Sound (process.update agent change) where
  kept := sound.kept
  outlived other pending := by
    by_cases same : other = agent
    · subst same
      exact covered pending
    · rw [pending_iff, life_update _ _ _ _ inside, if_neg same, ← pending_iff] at pending
      have here := sound.outlived other pending
      rw [alive_iff] at here ⊢
      rw [life_update _ _ _ _ inside, if_neg same]
      exact here

/-- Waking an agent adds no task yet. -/
theorem life_wake (before after : Registry) (lives : List Life) (agent : Nat) :
    ∃ posts, (wake before after lives)[agent]?.getD {} =
      { lives[agent]?.getD {} with toPostTask := posts } := by
  rw [wake, List.getElem?_mapIdx]
  cases lives[agent]? with
  | none => exact ⟨0, rfl⟩
  | some life =>
    simp only [Option.map_some, Option.getD_some]
    split
    · exact ⟨_, rfl⟩
    · exact ⟨_, rfl⟩

theorem livesAfter_life (lives : List Life) (action : AgentRegistry.Action) (agent : Nat) :
    let life := (livesAfter lives action)[agent]?.getD {}
    let before := lives[agent]?.getD {}
    life.pendingTasks = before.pendingTasks ∧
      life.pendingInterrupts = before.pendingInterrupts ∧ before.runtimes ≤ life.runtimes := by
  cases action with
  | create port targetId =>
    simp only [livesAfter, List.getElem?_append]
    split
    · exact ⟨rfl, rfl, Nat.le_refl _⟩
    · rename_i outside
      rw [List.getElem?_eq_none (Nat.le_of_not_lt outside)]
      cases at' : ([{ runtimes := 1 }] : List Life)[agent - lives.length]? with
      | none => exact ⟨rfl, rfl, Nat.le_refl _⟩
      | some life =>
        obtain rfl := List.mem_singleton.mp (List.mem_of_getElem? at')
        exact ⟨rfl, rfl, Nat.zero_le _⟩
  | start | addTarget | stop | fatalException | leaveMessageLoop | removeTarget | hasTargets
  | stopServer | removeServer | dispatchMessage | accept | sessionStarted | sessionTerminated =>
    exact ⟨rfl, rfl, Nat.le_refl _⟩

/-- A step of the registry leaves what is pending, and takes no runtime away. -/
theorem follow_inv {lives : List Life} {outcome : Except AgentRegistry.Loss Registry}
    (followed : process.follow lives outcome = .ok next) :
    outcome = .ok next.registry ∧ ∀ agent, ∃ posts,
      next.life agent = { lives[agent]?.getD {} with toPostTask := posts } := by
  obtain ⟨after, mapped, same⟩ := Outcome.bind_ok_inv followed
  cases same
  cases outcome with
  | error loss => cases mapped
  | ok registry =>
    cases mapped
    exact ⟨rfl, life_wake _ _ _⟩

theorem follow_sound {lives : List Life} {outcome : Except AgentRegistry.Loss Registry}
    (sound : Sound process)
    (same : ∀ agent, (lives[agent]?.getD {}).pendingTasks = (process.life agent).pendingTasks ∧
      (lives[agent]?.getD {}).pendingInterrupts = (process.life agent).pendingInterrupts ∧
      (process.life agent).runtimes ≤ (lives[agent]?.getD {}).runtimes)
    (kept : ∀ registry, outcome = .ok registry → Kept registry ∧
      ∀ agent, process.pending agent = true → held process.registry agent = true →
        0 < (process.life agent).runtimes ∨ held registry agent = true)
    (followed : process.follow lives outcome = .ok next) : Sound next := by
  obtain ⟨rfl, lives⟩ := follow_inv followed
  obtain ⟨keeps, holds⟩ := kept _ rfl
  refine ⟨keeps, fun agent pending => ?_⟩
  obtain ⟨posts, life⟩ := lives agent
  obtain ⟨tasks, interrupts, runtimes⟩ := same agent
  rw [pending_iff, life] at pending
  simp only [tasks, interrupts] at pending
  have before := pending_iff.mpr pending
  rw [alive_iff, life]
  obtain running | here := alive_iff.mp (sound.outlived agent before)
  · exact .inl (Nat.lt_of_lt_of_le running runtimes)
  · exact (holds agent before here).imp_left fun running => Nat.lt_of_lt_of_le running runtimes

theorem follow_error {lives : List Life} {outcome : Except AgentRegistry.Loss Registry}
    {loss : Loss} (followed : process.follow lives outcome = .error loss) :
    loss ≠ .destroyedAgent := by
  cases outcome with
  | error reason =>
    cases followed
    nofun
  | ok registry => cases followed

/-- What the stopped server alone held is released. -/
theorem held_stopped {registry after : Registry} {server : Nat} {stopped : InspectorSocketServer}
    (gone : stopped.delegate = none) (servers : after.servers = registry.servers.set server stopped) :
    held after agent = registry.servers.zipIdx.any fun (held, index) =>
      index != server && heldBy agent held := by
  have empty : heldBy agent stopped = false := by rw [heldBy, gone, Option.any_none]
  rw [Bool.eq_iff_iff, held, servers, List.any_eq_true, List.any_eq_true]
  constructor
  · rintro ⟨held, member, holds⟩
    obtain ⟨index, bound, rfl⟩ := List.getElem_of_mem member
    rw [List.length_set] at bound
    by_cases same : index = server
    · subst same
      rw [List.getElem_set_self, empty] at holds
      cases holds
    · rw [List.getElem_set_ne (Ne.symm same)] at holds
      refine ⟨(registry.servers[index], index), ?_, by simp [same, holds]⟩
      rw [List.mem_zipIdx_iff_getElem?, List.getElem?_eq_getElem bound]
  · rintro ⟨⟨held, index⟩, member, holds⟩
    rw [List.mem_zipIdx_iff_getElem?] at member
    simp only [Bool.and_eq_true, bne_iff_ne] at holds
    refine ⟨held, ?_, holds.2⟩
    apply List.mem_of_getElem?
    rw [List.getElem?_set_ne (Ne.symm holds.1)]
    exact member

theorem registry_kept {action : AgentRegistry.Action} {registry : Registry}
    (sound : Sound process) (admitted : released process (.registry action) = true)
    (threads : (threadOf action).all (fun agent => 0 < (process.life agent).runtimes) = true)
    (called : AgentRegistry.call process.registry action = some (.ok registry)) :
    Kept registry ∧ ∀ agent, process.pending agent = true →
      held process.registry agent = true →
      0 < (process.life agent).runtimes ∨ held registry agent = true := by
  by_cases stops : ∃ stopping, action = .stopServer stopping
  · obtain ⟨stopping, rfl⟩ := stops
    obtain ⟨impl, server, stopped, next, found, holds, same, gone, servers, kept⟩ :=
      stopServer_inv sound.kept called
    cases same
    refine ⟨kept, fun agent pending _ => ?_⟩
    simp only [released, found, holds, Option.all_some, List.all_eq_true, List.mem_range,
      Bool.or_eq_true, Bool.not_eq_true', decide_eq_true_eq] at admitted
    rw [held_stopped gone servers]
    have used : agent < process.lives.length := by
      apply lives_inside
      intro initial
      rw [pending_iff, initial] at pending
      simp at pending
    obtain (none | running) | other := admitted agent used
    · rw [pending] at none
      cases none
    · exact .inl running
    · exact .inr other
  · obtain ⟨kept, holds⟩ := call_kept sound.kept (fun stopping same => stops ⟨stopping, same⟩) called
    refine ⟨kept, fun agent _ here => ?_⟩
    by_cases removes : action = .removeTarget agent
    · subst removes
      exact .inl (by simpa [threadOf] using threads)
    · exact .inr (holds agent removes here)

theorem messageReceived_kept {registry : Registry} {server sessionId : Nat} {message : List UInt8}
    (sound : Sound process)
    (called : process.registry.serve server (·.messageReceived sessionId message) =
      some (.ok registry)) :
    Kept registry ∧ ∀ agent, process.pending agent = true →
      held process.registry agent = true →
      0 < (process.life agent).runtimes ∨ held registry agent = true := by
  obtain ⟨kept, holds⟩ := serve_kept (fun _ _ => messageReceived_serves) sound.kept called
  exact ⟨kept, fun agent _ here => .inr (holds agent here)⟩

theorem step_inv {guard : Life → Bool} {outcome : Except Loss Process}
    (called : process.step agent guard change = some outcome) :
    guard (process.life agent) = true ∧ outcome = .ok (process.update agent change) := by
  simp only [Process.step, Option.ite_none_right_eq_some, Option.some.injEq] at called
  exact ⟨called.1, called.2.symm⟩

/-- A change that leaves the runtimes, or adds one. -/
theorem Sound.grow (sound : Sound process) (used : process.life agent ≠ {})
    (runtimes : (process.life agent).runtimes ≤ (change (process.life agent)).runtimes)
    (covered : process.pending agent = true ∨ process.alive agent = true ∨
      (change (process.life agent)).pendingTasks = 0 ∧
        (change (process.life agent)).pendingInterrupts = 0) :
    Sound (process.update agent change) := by
  have inside := lives_inside used
  apply sound.update inside
  intro pending
  rw [pending_iff, life_update _ _ _ _ inside, if_pos rfl] at pending
  rw [alive_iff, life_update _ _ _ _ inside, if_pos rfl]
  have alive : process.alive agent = true := by
    obtain before | alive | ⟨tasks, interrupts⟩ := covered
    · exact sound.outlived agent before
    · exact alive
    · omega
  exact (alive_iff.mp alive).imp_left fun running => Nat.lt_of_lt_of_le running runtimes

/-- What an admitted step comes to. -/
def Covers (outcome : Except Loss Process) : Prop :=
  (∃ loss, outcome = .error loss ∧ loss ≠ .destroyedAgent) ∨
    ∃ next, outcome = .ok next ∧ Sound next

theorem follow_covers {lives : List Life} {outcome : Except AgentRegistry.Loss Registry}
    (sound : ∀ next, process.follow lives outcome = .ok next → Sound next) :
    Covers (process.follow lives outcome) := by
  cases followed : process.follow lives outcome with
  | error loss => exact .inl ⟨loss, rfl, follow_error followed⟩
  | ok next => exact .inr ⟨next, rfl, sound next followed⟩

theorem destroyRuntime_covers {outcome : Except Loss Process} (sound : Sound process)
    (admitted : released process (.destroyRuntime agent) = true)
    (called : call process (.destroyRuntime agent) = some outcome) : Covers outcome := by
  simp only [call, Option.bind_eq_some_iff] at called
  obtain ⟨impl, -, stepped⟩ := called
  obtain ⟨guard, rfl⟩ := step_inv stepped
  have live : 0 < (process.life agent).runtimes := by
    simp only [Bool.and_eq_true, Bool.or_eq_true, decide_eq_true_eq, beq_iff_eq] at guard
    omega
  have inside := lives_inside (ne_of_apply_ne Life.runtimes (Nat.ne_of_gt live))
  refine .inr ⟨_, rfl, sound.update inside fun pending => ?_⟩
  rw [pending_iff, life_update _ _ _ _ inside, if_pos rfl] at pending
  rw [alive_iff, life_update _ _ _ _ inside, if_pos rfl]
  simp only [released, Bool.or_eq_true, bne_iff_ne, Bool.not_eq_true'] at admitted
  obtain (several | holds) | none := admitted
  · exact .inl (show 0 < (process.life agent).runtimes - 1 by omega)
  · exact .inr holds
  · rw [pending_iff.mpr pending] at none
    cases none

theorem disposeIsolate_covers {outcome : Except Loss Process} (sound : Sound process)
    (called : call process (.disposeIsolate agent) = some outcome) : Covers outcome := by
  rw [call] at called
  obtain ⟨-, rfl⟩ := step_inv called
  by_cases inside : agent < process.lives.length
  · refine .inr ⟨_, rfl, sound.update inside fun pending => ?_⟩
    rw [pending_iff, life_update _ _ _ _ inside, if_pos rfl] at pending
    have before : process.pending agent = true :=
      pending_iff.mpr (.inl (pending.resolve_right (Nat.lt_irrefl _)))
    rw [alive_iff, life_update _ _ _ _ inside, if_pos rfl]
    exact alive_iff.mp (sound.outlived agent before)
  · have same : process.update agent (fun life =>
        { life with isolate := false, pendingInterrupts := 0 }) = process := by
      rw [Process.update, List.modify_eq_self (Nat.le_of_not_lt inside)]
    rw [same]
    exact .inr ⟨_, rfl, sound⟩

/-- An admitted step loses no agent, and what it leaves is sound. -/
theorem call_covers {action : Action} {outcome : Except Loss Process} (sound : Sound process)
    (admitted : released process action = true) (called : call process action = some outcome) :
    Covers outcome := by
  cases action with
  | registry action =>
    simp only [call, Option.ite_none_right_eq_some, Option.map_eq_some_iff] at called
    obtain ⟨threads, result, stepped, rfl⟩ := called
    apply follow_covers
    intro next followed
    refine follow_sound sound (livesAfter_life process.lives action) ?_ followed
    rintro registry rfl
    exact registry_kept sound admitted threads stepped
  | messageReceived server sessionId message =>
    simp only [call, Option.map_eq_some_iff] at called
    obtain ⟨result, stepped, rfl⟩ := called
    apply follow_covers
    intro next followed
    refine follow_sound sound (fun _ => ⟨rfl, rfl, Nat.le_refl _⟩) ?_ followed
    rintro registry rfl
    exact messageReceived_kept sound stepped
  | postTask agent =>
    have alive : process.alive agent = true := admitted
    simp only [call, alive, Bool.not_true, Bool.false_eq_true, ↓reduceIte,
      Option.ite_none_left_eq_some] at called
    obtain ⟨posting, posted⟩ := called
    split at posted
    · cases posted
      exact .inl ⟨_, rfl, nofun⟩
    · cases posted
      have used : process.life agent ≠ {} := ne_of_apply_ne Life.toPostTask posting
      exact .inr ⟨_, rfl, sound.grow used (Nat.le_refl _) (.inr (.inl alive))⟩
  | requestInterrupt agent =>
    have alive : process.alive agent = true := admitted
    simp only [call, alive, Bool.not_true, Bool.false_eq_true, ↓reduceIte,
      Option.ite_none_left_eq_some] at called
    obtain ⟨requesting, requested⟩ := called
    split at requested
    · cases requested
      exact .inl ⟨_, rfl, nofun⟩
    · cases requested
      have used : process.life agent ≠ {} := ne_of_apply_ne Life.toRequestInterrupt requesting
      exact .inr ⟨_, rfl, sound.grow used (Nat.le_refl _) (.inr (.inl alive))⟩
  | runTask agent =>
    simp only [call, Option.ite_none_left_eq_some] at called
    obtain ⟨waiting, ran⟩ := called
    have pending : process.pending agent = true := pending_iff.mpr (.inl (by omega))
    rw [sound.outlived agent pending] at ran
    simp only [Bool.not_true, Bool.false_eq_true, ↓reduceIte] at ran
    cases ran
    have used : process.life agent ≠ {} := ne_of_apply_ne Life.pendingTasks waiting
    exact .inr ⟨_, rfl, sound.grow used (Nat.le_refl _) (.inl pending)⟩
  | runInterrupt agent =>
    simp only [call, Option.ite_none_left_eq_some, not_or] at called
    obtain ⟨⟨waiting, -⟩, ran⟩ := called
    have pending : process.pending agent = true := pending_iff.mpr (.inr (by omega))
    cases ran
    have used : process.life agent ≠ {} := ne_of_apply_ne Life.pendingInterrupts waiting
    exact .inr ⟨_, rfl, sound.grow used (Nat.le_refl _) (.inl pending)⟩
  | createRuntime agent =>
    rw [call] at called
    obtain ⟨running, rfl⟩ := step_inv called
    have live : 0 < (process.life agent).runtimes := by simpa using running
    have used : process.life agent ≠ {} := ne_of_apply_ne Life.runtimes (Nat.ne_of_gt live)
    exact .inr ⟨_, rfl, sound.grow used (Nat.le_succ _) (.inr (.inl (alive_iff.mpr (.inl live))))⟩
  | destroyRuntime agent => exact destroyRuntime_covers sound admitted called
  | disposeIsolate agent => exact disposeIsolate_covers sound called

theorem stopServer_refused {stopping : Nat} {outcome : Except Loss Process} (sound : Sound process)
    (refused : ¬ released process (.registry (.stopServer stopping)) = true)
    (called : call process (.registry (.stopServer stopping)) = some outcome) :
    ¬ NoneOutlives outcome := by
  simp only [call, Option.ite_none_right_eq_some, Option.map_eq_some_iff] at called
  obtain ⟨-, result, stepped, rfl⟩ := called
  obtain ⟨impl, server, stopped, next, found, holds, rfl, gone, servers, -⟩ :=
    stopServer_inv sound.kept stepped
  simp only [released, found, holds, Option.all_some, List.all_eq_true, List.mem_range,
    Classical.not_forall] at refused
  obtain ⟨agent, -, left⟩ := refused
  rw [← held_stopped gone servers] at left
  simp only [Bool.or_eq_true, Bool.not_eq_true', decide_eq_true_eq, not_or,
    Bool.not_eq_false, Bool.not_eq_true] at left
  obtain ⟨⟨pending, without⟩, free⟩ := left
  intro outlives
  obtain ⟨posts, life⟩ := life_wake process.registry next process.lives agent
  have still : ({ registry := next, lives := wake process.registry next process.lives } :
      Process).pending agent = true := by
    rw [pending_iff, Process.life, life]
    exact pending_iff.mp pending
  obtain running | here := alive_iff.mp (outlives agent still)
  · have same := congrArg Life.runtimes life
    exact without (Nat.lt_of_lt_of_eq running same)
  · cases here.symm.trans free

/-- A step that is not admitted leaves something pending without its agent. -/
theorem call_refused {action : Action} {outcome : Except Loss Process} (sound : Sound process)
    (refused : ¬ released process action = true) (called : call process action = some outcome) :
    ¬ NoneOutlives outcome := by
  cases action with
  | registry action =>
    cases action with
    | stopServer stopping => exact stopServer_refused sound refused called
    | create | start | addTarget | stop | fatalException | leaveMessageLoop | removeTarget
    | hasTargets | removeServer | dispatchMessage | accept | sessionStarted
    | sessionTerminated => exact absurd rfl refused
  | postTask agent =>
    have gone : process.alive agent = false := Bool.eq_false_iff.mpr refused
    simp only [call, gone, Bool.not_false, ↓reduceIte, Option.ite_none_left_eq_some,
      Option.some.injEq] at called
    obtain ⟨-, rfl⟩ := called
    exact fun outlives => outlives rfl
  | requestInterrupt agent =>
    have gone : process.alive agent = false := Bool.eq_false_iff.mpr refused
    simp only [call, gone, Bool.not_false, ↓reduceIte, Option.ite_none_left_eq_some,
      Option.some.injEq] at called
    obtain ⟨-, rfl⟩ := called
    exact fun outlives => outlives rfl
  | destroyRuntime agent =>
    simp only [call, Option.bind_eq_some_iff] at called
    obtain ⟨impl, -, stepped⟩ := called
    obtain ⟨-, rfl⟩ := step_inv stepped
    simp only [released, Bool.or_eq_true, bne_iff_ne, not_or, not_not, Bool.not_eq_true',
      Bool.not_eq_true, Bool.not_eq_false] at refused
    obtain ⟨⟨last, free⟩, pending⟩ := refused
    have used : (process.life agent).runtimes ≠ 0 := by omega
    have inside := lives_inside (ne_of_apply_ne Life.runtimes used)
    intro outlives
    have covered := outlives agent (by
      rw [pending_iff, life_update _ _ _ _ inside, if_pos rfl]
      exact pending_iff.mp pending)
    rw [alive_iff, life_update _ _ _ _ inside, if_pos rfl] at covered
    obtain running | here := covered
    · change 0 < (process.life agent).runtimes - 1 at running
      omega
    · cases here.symm.trans free
  | messageReceived _ _ _ | runTask _ | runInterrupt _ | createRuntime _ | disposeIsolate _ =>
    exact absurd rfl refused

end

theorem start_sound : Sound agentProcess.start where
  kept := ⟨by simp [agentProcess], by simp [agentProcess], by simp [agentProcess, idOf]⟩
  outlived := by simp [agentProcess, Process.pending, Process.life]

/-- No task and no interrupt outlives its agent exactly in the runs whose steps are
all admitted. -/
theorem none_outlives_iff {trace : List Action} {outcome : Except Loss Process}
    (ran : agentProcess.run trace = some outcome) :
    agentProcess.SafeAlong NoneOutlives agentProcess.start trace ↔
      agentProcess.Meets (fun process action => released process action = true)
        agentProcess.start trace := by
  refine Program.safeAlong_iff_meets Sound (fun process sound => sound.outlived) ?_ ?_ trace
    agentProcess.start outcome start_sound ran
  · intro process action outcome sound admitted called
    obtain ⟨loss, rfl, other⟩ | ⟨next, rfl, kept⟩ := call_covers sound admitted called
    · exact ⟨other, nofun⟩
    · refine ⟨kept.outlived, ?_⟩
      rintro after ⟨⟩
      exact kept
  · intro process action outcome sound refused called
    exact call_refused sound refused called

/-- A frontend comes and goes, and the tasks and interrupts of its messages have run
before the runtime goes. -/
def orderlyShutdown : List Action :=
  [.registry (.create 9229 [0x61]), .registry (.start 0 false), .registry (.addTarget 0),
    .registry (.accept 0), .registry (.sessionStarted 0 0 [0x61]), .postTask 0,
    .requestInterrupt 0, .runInterrupt 0, .registry (.dispatchMessage 0), .runTask 0,
    .registry (.sessionTerminated 0 0), .postTask 0, .runTask 0, .requestInterrupt 0,
    .runInterrupt 0, .registry (.dispatchMessage 0), .registry (.stop 0),
    .registry (.removeTarget 0), .registry (.hasTargets 0), .registry (.stopServer 0),
    .registry (.removeServer 0), .destroyRuntime 0, .disposeIsolate 0]

theorem orderlyShutdown_none_outlives :
    agentProcess.SafeAlong NoneOutlives agentProcess.start orderlyShutdown :=
  (none_outlives_iff rfl).mpr (by decide)

/-- An interrupt and the message loop of `Stop` have handled the messages; their
tasks are still in the queue of the host when the runtime goes. -/
def taskLeft : List Action :=
  [.registry (.create 9229 [0x61]), .registry (.start 0 false), .registry (.addTarget 0),
    .registry (.accept 0), .registry (.sessionStarted 0 0 [0x61]), .postTask 0,
    .requestInterrupt 0, .runInterrupt 0, .registry (.dispatchMessage 0), .registry (.stop 0),
    .registry (.sessionTerminated 0 0), .postTask 0, .requestInterrupt 0,
    .registry (.dispatchMessage 0), .registry (.leaveMessageLoop 0), .registry (.removeTarget 0),
    .registry (.hasTargets 0), .registry (.stopServer 0), .registry (.removeServer 0),
    .destroyRuntime 0]

theorem task_outlives_agent :
    ¬ agentProcess.SafeAlong NoneOutlives agentProcess.start taskLeft ∧
      agentProcess.run (taskLeft ++ [.disposeIsolate 0, .runTask 0]) =
        some (.error .destroyedAgent) := by
  refine ⟨fun along => ?_, rfl⟩
  have outlives := along taskLeft [] _ (List.append_nil _).symm rfl
  cases outlives 0 rfl

end V8Jsi.AgentLifetime
