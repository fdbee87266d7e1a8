import V8Jsi.AgentRegistry

set_option autoImplicit false

/- The part of a registry that registration depends on, and what the steps of agents
do to it. -/
namespace V8Jsi.AgentRegistry

/-- What registration depends on of an agent. -/
structure Standing where
  port : Nat
  targetId : List UInt8
  server : Option Nat
  phase : Phase
  started : Bool

def AgentImpl.standing (agent : AgentImpl) : Standing where
  port := agent.port
  targetId := agent.targetId
  server := agent.server
  phase := agent.phase
  started := agent.isStarted

/-- The agent has its entry in the target map of its server. -/
def Standing.occupies (standing : Standing) : Bool :=
  match standing.phase with
  | .idle | .fatalException => standing.started
  | .disconnecting | .removingTarget => true
  | .addingTarget | .testingTargets | .stoppingServer | .removingServer => false

structure View where
  agents : Nat → Option Standing
  targets : Nat → Option (AList fun _ : List UInt8 => Nat)
  made : Nat
  serverOf : Nat → Option Nat

def Registry.view (registry : Registry) : View where
  agents agent := registry.agents[agent]?.map AgentImpl.standing
  targets := registry.targets
  made := registry.servers.length
  serverOf := registry.serverOf

/-- The entries of the target maps are those of the agents that occupy one, and a
server that is wanted is running. -/
structure View.Sound (view : View) : Prop where
  distinct : ∀ i j a b, view.agents i = some a → view.agents j = some b →
    a.targetId = b.targetId → i = j
  held : ∀ i a s, view.agents i = some a → a.server = some s → s < view.made
  made : ∀ s map, view.targets s = some map → s < view.made
  member : ∀ s map id i, view.targets s = some map → map.lookup id = some i →
    ∃ a, view.agents i = some a ∧ a.targetId = id ∧ a.server = some s ∧ a.occupies = true
  present : ∀ i a, view.agents i = some a → a.occupies = true →
    ∃ s map, a.server = some s ∧ view.targets s = some map ∧ map.lookup a.targetId = some i
  wanted : ∀ i a, view.agents i = some a →
    a.phase = .addingTarget ∨ a.phase = .testingTargets →
    ∃ s map, a.server = some s ∧ view.targets s = some map
  emptied : ∀ i a s map, view.agents i = some a → a.phase = .stoppingServer →
    a.server = some s → view.targets s = some map →
    (∀ id, map.lookup id = none) ∧
      ∀ j b, view.agents j = some b → b.server = some s → b.phase ≠ .addingTarget
  stopped : ∀ i a, view.agents i = some a → a.phase ≠ .idle → a.phase ≠ .fatalException →
    a.phase ≠ .disconnecting → a.started = false
  numbered : ∀ port s, view.serverOf port = some s → s < view.made
  injective : ∀ port other s, view.serverOf port = some s → view.serverOf other = some s →
    port = other
  shared : ∀ port s i a, view.serverOf port = some s → view.agents i = some a →
    a.server = some s → a.port = port
  running : ∀ port s, view.serverOf port = some s → (∃ map, view.targets s = some map) ∨
    ∃ i a, view.agents i = some a ∧ a.phase = .removingServer ∧ a.server = some s

namespace View

def put (view : View) (i : Nat) (a : Standing) : View :=
  { view with agents := Function.update view.agents i (some a) }

def putTargets (view : View) (s : Nat) (map : Option (AList fun _ : List UInt8 => Nat)) : View :=
  { view with targets := Function.update view.targets s map }

@[grind =] theorem put_agents (view : View) (i : Nat) (a : Standing) (j : Nat) :
    (view.put i a).agents j = if j = i then some a else view.agents j :=
  Function.update_apply ..

@[grind =] theorem put_targets (view : View) (i : Nat) (a : Standing) :
    (view.put i a).targets = view.targets := rfl

@[grind =] theorem putTargets_targets (view : View) (s : Nat)
    (map : Option (AList fun _ : List UInt8 => Nat)) (other : Nat) :
    (view.putTargets s map).targets other = if other = s then map else view.targets other :=
  Function.update_apply ..

section

variable {view : View} {i : Nat} {a b : Standing}

theorem put_cases {j : Nat} {c : Standing} (here : (view.put i b).agents j = some c) :
    j = i ∧ b = c ∨ j ≠ i ∧ view.agents j = some c := by
  rw [put_agents] at here
  split at here
  · exact .inl ⟨by assumption, Option.some.inj here⟩
  · exact .inr ⟨by assumption, here⟩

/-- The agent keeps its port, its id and its server. -/
structure Continues (a b : Standing) : Prop where
  port : b.port = a.port
  targetId : b.targetId = a.targetId
  server : b.server = a.server

theorem Sound.distinct_put (sound : view.Sound) (found : view.agents i = some a)
    (targetId : b.targetId = a.targetId) :
    ∀ j k c d, (view.put i b).agents j = some c → (view.put i b).agents k = some d →
      c.targetId = d.targetId → j = k := by
  intro j k c d first second same
  obtain ⟨rfl, rfl⟩ | ⟨-, before⟩ := put_cases first
  · obtain ⟨rfl, -⟩ | ⟨-, other⟩ := put_cases second
    · rfl
    · exact sound.distinct j k a d found other (targetId.symm.trans same)
  · obtain ⟨rfl, rfl⟩ | ⟨-, other⟩ := put_cases second
    · exact sound.distinct j k c a before found (same.trans targetId)
    · exact sound.distinct j k c d before other same

theorem Sound.held_put (sound : view.Sound) (held : ∀ s, b.server = some s → s < view.made) :
    ∀ j c s, (view.put i b).agents j = some c → c.server = some s → s < view.made := by
  intro j c s here holds
  obtain ⟨-, rfl⟩ | ⟨-, before⟩ := put_cases here
  · exact held s holds
  · exact sound.held j c s before holds

theorem Sound.stopped_put (sound : view.Sound)
    (stopped : b.phase ≠ .idle → b.phase ≠ .fatalException → b.phase ≠ .disconnecting →
      b.started = false) :
    ∀ j c, (view.put i b).agents j = some c → c.phase ≠ .idle → c.phase ≠ .fatalException →
      c.phase ≠ .disconnecting → c.started = false := by
  intro j c here
  obtain ⟨-, rfl⟩ | ⟨-, before⟩ := put_cases here
  · exact stopped
  · exact sound.stopped j c before

theorem Sound.shared_put (sound : view.Sound)
    (shared : ∀ port s, view.serverOf port = some s → b.server = some s → b.port = port) :
    ∀ port s j c, view.serverOf port = some s → (view.put i b).agents j = some c →
      c.server = some s → c.port = port := by
  intro port s j c named here holds
  obtain ⟨-, rfl⟩ | ⟨-, before⟩ := put_cases here
  · exact shared port s named holds
  · exact sound.shared port s j c named before holds

theorem Sound.held_of (sound : view.Sound) (found : view.agents i = some a)
    (continues : Continues a b) : ∀ s, b.server = some s → s < view.made := by
  intro s holds
  exact sound.held i a s found (continues.server.symm.trans holds)

theorem Sound.shared_of (sound : view.Sound) (found : view.agents i = some a)
    (continues : Continues a b) :
    ∀ port s, view.serverOf port = some s → b.server = some s → b.port = port := by
  intro port s named holds
  exact continues.port.trans
    (sound.shared port s i a named found (continues.server.symm.trans holds))

/-- A server that an agent is about to remove stays known while the agent does not
get past it. -/
theorem Sound.running_put (sound : view.Sound) (found : view.agents i = some a)
    (removing : a.phase = .removingServer →
      b.server = a.server ∧ b.phase = .removingServer ∨ view.serverOf a.port = none) :
    ∀ port s, view.serverOf port = some s → (∃ map, view.targets s = some map) ∨
      ∃ j c, (view.put i b).agents j = some c ∧ c.phase = .removingServer ∧ c.server = some s := by
  intro port s known
  obtain live | ⟨j, c, other, removes, holds⟩ := sound.running port s known
  · exact .inl live
  · by_cases same : j = i
    · subst same
      obtain rfl : a = c := Option.some.inj (found.symm.trans other)
      obtain ⟨kept, still⟩ | forgotten := removing removes
      · exact .inr ⟨j, b, by rw [put_agents, if_pos rfl], still, kept.trans holds⟩
      · rw [sound.shared port s j a known found holds, known] at forgotten
        cases forgotten
    · exact .inr ⟨j, c, by rw [put_agents, if_neg same]; exact other, removes, holds⟩

/-- The entries of the others stay when the entry of one agent is still its own or
is not there. -/
theorem Sound.member_put (sound : view.Sound) (found : view.agents i = some a)
    (kept : a.occupies = true →
      b.targetId = a.targetId ∧ b.server = a.server ∧ b.occupies = true) :
    ∀ s map id j, view.targets s = some map → map.lookup id = some j →
      ∃ c, (view.put i b).agents j = some c ∧ c.targetId = id ∧ c.server = some s ∧
        c.occupies = true := by
  intro s map id j live entry
  obtain ⟨c, other, named, holds, occupies⟩ := sound.member s map id j live entry
  by_cases same : j = i
  · subst same
    obtain rfl : a = c := Option.some.inj (found.symm.trans other)
    obtain ⟨targetId, server, still⟩ := kept occupies
    exact ⟨b, by rw [put_agents, if_pos rfl], targetId.trans named, server.trans holds, still⟩
  · exact ⟨c, by rw [put_agents, if_neg same]; exact other, named, holds, occupies⟩

/-- An agent goes on with the server it has. -/
theorem Sound.move (sound : view.Sound) (found : view.agents i = some a)
    (continues : Continues a b) (occupies : b.occupies = a.occupies)
    (wanted : b.phase = .addingTarget ∨ b.phase = .testingTargets → b.phase = a.phase)
    (emptied : b.phase = .stoppingServer → ∀ s map, a.server = some s → view.targets s = some map →
      (∀ id, map.lookup id = none) ∧
        ∀ j c, view.agents j = some c → c.server = some s → c.phase ≠ .addingTarget)
    (stopped : b.phase ≠ .idle → b.phase ≠ .fatalException → b.phase ≠ .disconnecting →
      b.started = false)
    (removing : a.phase = .removingServer →
      b.phase = .removingServer ∨ view.serverOf a.port = none) : (view.put i b).Sound where
  distinct := sound.distinct_put found continues.targetId
  held := sound.held_put (sound.held_of found continues)
  made := sound.made
  member := by
    apply sound.member_put found
    intro before
    exact ⟨continues.targetId, continues.server, occupies.trans before⟩
  present := by
    intro j c here occupied
    obtain ⟨rfl, rfl⟩ | ⟨-, before⟩ := put_cases here
    · rw [continues.server, continues.targetId]
      exact sound.present j a found (occupies.symm.trans occupied)
    · exact sound.present j c before occupied
  wanted := by
    intro j c here wants
    obtain ⟨rfl, rfl⟩ | ⟨-, before⟩ := put_cases here
    · rw [continues.server]
      exact sound.wanted j a found (wanted wants ▸ wants)
    · exact sound.wanted j c before wants
  emptied := by
    have := sound.emptied
    have := continues.server
    grind
  stopped := sound.stopped_put stopped
  numbered := sound.numbered
  injective := sound.injective
  shared := sound.shared_put (sound.shared_of found continues)
  running := by
    apply sound.running_put found
    intro before
    exact (removing before).imp_left fun still => ⟨continues.server, still⟩

/-- `Start` takes a running server that nobody is stopping. -/
theorem Sound.take {s : Nat} {map : AList fun _ : List UInt8 => Nat} (sound : view.Sound)
    (found : view.agents i = some a) (idle : a.phase = .idle) (unstarted : a.started = false)
    (live : view.targets s = some map)
    (steady : ∀ j c, view.agents j = some c → c.server = some s → c.phase ≠ .stoppingServer)
    (known : view.serverOf a.port = some s) :
    (view.put i { a with server := some s, phase := .addingTarget }).Sound where
  distinct := sound.distinct_put found rfl
  held := by
    apply sound.held_put
    rintro other ⟨⟩
    exact sound.made s map live
  made := sound.made
  member := by
    apply sound.member_put found
    intro before
    rw [Standing.occupies, idle] at before
    cases before.symm.trans unstarted
  present := by
    have := sound.present
    grind [Standing.occupies]
  wanted := by
    have := sound.wanted
    grind
  emptied := by
    have := sound.emptied
    grind
  stopped := sound.stopped_put fun _ _ _ => unstarted
  numbered := sound.numbered
  injective := sound.injective
  shared := by
    apply sound.shared_put
    rintro port other named ⟨⟩
    exact sound.injective a.port port s known named
  running := by
    apply sound.running_put found
    intro before
    rw [idle] at before
    cases before

/-- A new agent. -/
theorem Sound.create (sound : view.Sound) (fresh : view.agents i = none)
    (unused : ∀ j c, view.agents j = some c → c.targetId ≠ a.targetId) (server : a.server = none)
    (idle : a.phase = .idle) (unstarted : a.started = false) : (view.put i a).Sound where
  distinct := by
    have := sound.distinct
    grind
  held := by
    apply sound.held_put
    intro s holds
    rw [server] at holds
    cases holds
  made := sound.made
  member := by
    intro s map id j live entry
    obtain ⟨c, other, kept⟩ := sound.member s map id j live entry
    refine ⟨c, ?_, kept⟩
    grind
  present := by
    have := sound.present
    grind [Standing.occupies]
  wanted := by
    have := sound.wanted
    grind
  emptied := by
    have := sound.emptied
    grind
  stopped := sound.stopped_put fun _ _ _ => unstarted
  numbered := sound.numbered
  injective := sound.injective
  shared := by
    apply sound.shared_put
    intro port s named holds
    rw [server] at holds
    cases holds
  running := by
    intro port s known
    obtain live | ⟨j, c, other, kept⟩ := sound.running port s known
    · exact .inl live
    · refine .inr ⟨j, c, ?_, kept⟩
      grind

/-- The new server of a port. -/
def newServer (view : View) (port : Nat) : View :=
  { view with
    targets := Function.update view.targets view.made (some ∅)
    made := view.made + 1
    serverOf := Function.update view.serverOf port (some view.made) }

@[grind =] theorem newServer_agents (view : View) (port : Nat) :
    (view.newServer port).agents = view.agents := rfl

@[grind =] theorem newServer_made (view : View) (port : Nat) :
    (view.newServer port).made = view.made + 1 := rfl

@[grind =] theorem newServer_targets (view : View) (port s : Nat) :
    (view.newServer port).targets s = if s = view.made then some ∅ else view.targets s :=
  Function.update_apply ..

@[grind =] theorem newServer_serverOf (view : View) (port other : Nat) :
    (view.newServer port).serverOf other =
      if other = port then some view.made else view.serverOf other :=
  Function.update_apply ..

/-- The new server is nobody's. -/
theorem Sound.newServer_held (sound : view.Sound) (port : Nat) {s : Nat}
    (found : view.agents i = some a) (holds : a.server = some s) :
    (view.newServer port).targets s = view.targets s := by
  have before : s ≠ view.made := Nat.ne_of_lt (sound.held i a s found holds)
  rw [newServer_targets, if_neg before]

theorem Sound.newServer (sound : view.Sound) (port : Nat) : (view.newServer port).Sound where
  distinct := sound.distinct
  held i a s found holds := Nat.lt_succ_of_lt (sound.held i a s found holds)
  made := by
    have := sound.made
    grind
  member := by
    have := sound.member
    grind [AList.lookup_empty]
  present := by
    intro i a found occupies
    obtain ⟨s, map, holds, live, entry⟩ := sound.present i a found occupies
    exact ⟨s, map, holds, (sound.newServer_held port found holds).trans live, entry⟩
  wanted := by
    intro i a found wants
    obtain ⟨s, map, holds, live⟩ := sound.wanted i a found wants
    exact ⟨s, map, holds, (sound.newServer_held port found holds).trans live⟩
  emptied := by
    intro i a s map found stopping holds live
    rw [sound.newServer_held port found holds] at live
    exact sound.emptied i a s map found stopping holds live
  stopped := sound.stopped
  numbered := by
    have := sound.numbered
    grind
  injective := by
    have := sound.numbered
    have := sound.injective
    grind
  shared := by
    intro other s i a named found holds
    have before : s ≠ view.made := Nat.ne_of_lt (sound.held i a s found holds)
    rw [newServer_serverOf] at named
    split at named
    · exact absurd (Option.some.inj named).symm before
    · exact sound.shared other s i a named found holds
  running := by
    intro other s named
    rw [newServer_serverOf] at named
    split at named
    · obtain rfl := Option.some.inj named
      exact .inl ⟨∅, by rw [newServer_targets, if_pos rfl]⟩
    · have before : s ≠ view.made := Nat.ne_of_lt (sound.numbered other s named)
      rw [newServer_targets, if_neg before]
      exact sound.running other s named

/-- The new map lists the agents that occupy their entries. -/
theorem Sound.member_retarget {s : Nat} {map after : AList fun _ : List UInt8 => Nat}
    (sound : view.Sound) (found : view.agents i = some a) (continues : Continues a b)
    (holds : a.server = some s) (live : view.targets s = some map)
    (own : after.lookup a.targetId = if b.occupies = true then some i else none)
    (others : ∀ id, id ≠ a.targetId → after.lookup id = map.lookup id) :
    ∀ t other id j, ((view.putTargets s (some after)).put i b).targets t = some other →
      other.lookup id = some j →
      ∃ c, ((view.putTargets s (some after)).put i b).agents j = some c ∧ c.targetId = id ∧
        c.server = some t ∧ c.occupies = true := by
  intro t other id j there entry
  rw [put_targets, putTargets_targets] at there
  by_cases mine : id = a.targetId ∧ t = s
  · obtain ⟨rfl, rfl⟩ := mine
    rw [if_pos rfl] at there
    cases there
    rw [own] at entry
    split at entry
    · cases entry
      exact ⟨b, by rw [put_agents, if_pos rfl], continues.targetId,
        continues.server.trans holds, by assumption⟩
    · cases entry
  · have before : ∃ m, view.targets t = some m ∧ m.lookup id = some j := by
      split at there
      · rename_i same
        cases there
        exact ⟨map, same ▸ live, by rw [← others id fun equal => mine ⟨equal, same⟩]; exact entry⟩
      · exact ⟨other, there, entry⟩
    obtain ⟨m, lives, entered⟩ := before
    obtain ⟨c, that, named, uses, occupies⟩ := sound.member t m id j lives entered
    refine ⟨c, ?_, named, uses, occupies⟩
    rw [put_agents, if_neg]
    · exact that
    · rintro rfl
      obtain rfl : a = c := Option.some.inj (found.symm.trans that)
      exact mine ⟨named.symm, Option.some.inj (uses.symm.trans holds)⟩

/-- The agents that occupy their entries are listed. -/
theorem Sound.present_retarget {s : Nat} {map after : AList fun _ : List UInt8 => Nat}
    (sound : view.Sound) (found : view.agents i = some a) (continues : Continues a b)
    (holds : a.server = some s) (live : view.targets s = some map)
    (own : after.lookup a.targetId = if b.occupies = true then some i else none)
    (others : ∀ id, id ≠ a.targetId → after.lookup id = map.lookup id) :
    ∀ j c, ((view.putTargets s (some after)).put i b).agents j = some c → c.occupies = true →
      ∃ t other, c.server = some t ∧
        ((view.putTargets s (some after)).put i b).targets t = some other ∧
        other.lookup c.targetId = some j := by
  intro j c here occupies
  rw [put_targets]
  obtain ⟨rfl, rfl⟩ | ⟨apart, before⟩ := put_cases here
  · refine ⟨s, after, continues.server.trans holds, ?_, ?_⟩
    · rw [putTargets_targets, if_pos rfl]
    · rw [continues.targetId, own, if_pos occupies]
  · obtain ⟨t, other, uses, there, entry⟩ := sound.present j c before occupies
    by_cases same : t = s
    · subst same
      obtain rfl : map = other := Option.some.inj (live.symm.trans there)
      have different : c.targetId ≠ a.targetId := fun equal =>
        apart (sound.distinct j i c a before found equal)
      exact ⟨t, after, uses, by rw [putTargets_targets, if_pos rfl],
        (others _ different).trans entry⟩
    · exact ⟨t, other, uses, by rw [putTargets_targets, if_neg same]; exact there, entry⟩

/-- `AddTarget` and `RemoveTarget` change the entry of their agent alone, in a map
that nobody has found empty. -/
theorem Sound.retarget {s : Nat} {map after : AList fun _ : List UInt8 => Nat}
    (sound : view.Sound) (found : view.agents i = some a) (continues : Continues a b)
    (holds : a.server = some s) (live : view.targets s = some map)
    (own : after.lookup a.targetId = if b.occupies = true then some i else none)
    (others : ∀ id, id ≠ a.targetId → after.lookup id = map.lookup id)
    (steady : ∀ j c, view.agents j = some c → c.server = some s → c.phase ≠ .stoppingServer)
    (stopping : b.phase ≠ .stoppingServer)
    (stopped : b.phase ≠ .idle → b.phase ≠ .fatalException → b.phase ≠ .disconnecting →
      b.started = false)
    (removing : a.phase ≠ .removingServer) (adding : b.phase ≠ .addingTarget) :
    ((view.putTargets s (some after)).put i b).Sound where
  distinct := sound.distinct_put found continues.targetId
  held := sound.held_put (sound.held_of found continues)
  made := by
    intro t other there
    by_cases same : t = s
    · exact same ▸ sound.made s map live
    · rw [put_targets, putTargets_targets, if_neg same] at there
      exact sound.made t other there
  member := sound.member_retarget found continues holds live own others
  present := sound.present_retarget found continues holds live own others
  wanted := by
    intro j c here wants
    rw [put_targets]
    obtain ⟨rfl, rfl⟩ | ⟨-, before⟩ := put_cases here
    · exact ⟨s, after, continues.server.trans holds, by rw [putTargets_targets, if_pos rfl]⟩
    · obtain ⟨t, other, uses, there⟩ := sound.wanted j c before wants
      by_cases same : t = s
      · exact ⟨t, after, uses, by rw [putTargets_targets, if_pos same]⟩
      · exact ⟨t, other, uses, by rw [putTargets_targets, if_neg same]; exact there⟩
  emptied := by
    intro j c t other here at' uses there
    obtain ⟨rfl, rfl⟩ | ⟨-, before⟩ := put_cases here
    · exact absurd at' stopping
    · have different : t ≠ s := by
        rintro rfl
        exact steady j c before uses at'
      rw [put_targets, putTargets_targets, if_neg different] at there
      obtain ⟨empty, unwanted⟩ := sound.emptied j c t other before at' uses there
      refine ⟨empty, fun k d who uses' => ?_⟩
      obtain ⟨rfl, rfl⟩ | ⟨-, known⟩ := put_cases who
      · exact adding
      · exact unwanted k d known uses'
  stopped := sound.stopped_put stopped
  numbered := sound.numbered
  injective := sound.injective
  shared := sound.shared_put (sound.shared_of found continues)
  running := by
    intro port t named
    rw [put_targets, putTargets_targets]
    by_cases same : t = s
    · exact .inl ⟨after, if_pos same⟩
    · rw [if_neg same]
      exact sound.running_put found (fun before => absurd before removing) port t named

/-- `Stop` of a server that has no targets and that no agent wants. -/
theorem Sound.stopServer {s : Nat} (sound : view.Sound) (found : view.agents i = some a)
    (continues : Continues a b) (stopping : a.phase = .stoppingServer)
    (holds : a.server = some s)
    (tested : ∀ j c, view.agents j = some c → c.server = some s → c.phase ≠ .testingTargets)
    (removing : b.phase = .removingServer) (unstarted : b.started = false) :
    ((view.putTargets s none).put i b).Sound where
  distinct := sound.distinct_put found continues.targetId
  held := sound.held_put (sound.held_of found continues)
  made := by
    intro t map there
    rw [put_targets, putTargets_targets] at there
    split at there
    · cases there
    · exact sound.made t map there
  member := by
    intro t map id j there entry
    rw [put_targets, putTargets_targets] at there
    split at there
    · cases there
    · apply sound.member_put found _ t map id j there entry
      intro before
      rw [Standing.occupies, stopping] at before
      cases before
  present := by
    intro j c here occupies
    obtain ⟨rfl, rfl⟩ | ⟨-, before⟩ := put_cases here
    · rw [Standing.occupies, removing] at occupies
      cases occupies
    · obtain ⟨t, map, uses, there, entry⟩ := sound.present j c before occupies
      refine ⟨t, map, uses, ?_, entry⟩
      rw [put_targets, putTargets_targets, if_neg]
      · exact there
      · rintro rfl
        rw [(sound.emptied i a t map found stopping holds there).1] at entry
        cases entry
  wanted := by
    intro j c here wants
    obtain ⟨rfl, rfl⟩ | ⟨-, before⟩ := put_cases here
    · rw [removing] at wants
      simp at wants
    · obtain ⟨t, map, uses, there⟩ := sound.wanted j c before wants
      refine ⟨t, map, uses, ?_⟩
      rw [put_targets, putTargets_targets, if_neg]
      · exact there
      · rintro rfl
        obtain adding | testing := wants
        · exact (sound.emptied i a t map found stopping holds there).2 j c before uses adding
        · exact tested j c before uses testing
  emptied := by
    intro j c t map here at' uses there
    obtain ⟨rfl, rfl⟩ | ⟨-, before⟩ := put_cases here
    · rw [removing] at at'
      cases at'
    · rw [put_targets, putTargets_targets] at there
      split at there
      · cases there
      · obtain ⟨empty, unwanted⟩ := sound.emptied j c t map before at' uses there
        refine ⟨empty, fun k d who uses' => ?_⟩
        obtain ⟨rfl, rfl⟩ | ⟨-, known⟩ := put_cases who
        · rw [removing]
          nofun
        · exact unwanted k d known uses'
  stopped := sound.stopped_put fun _ _ _ => unstarted
  numbered := sound.numbered
  injective := sound.injective
  shared := sound.shared_put (sound.shared_of found continues)
  running := by
    intro port t named
    rw [put_targets, putTargets_targets]
    by_cases same : t = s
    · exact .inr ⟨i, b, by rw [put_agents, if_pos rfl], removing,
        (continues.server.trans holds).trans (congrArg some same.symm)⟩
    · rw [if_neg same]
      apply sound.running_put found _ port t named
      intro before
      rw [stopping] at before
      cases before

/-- `removeServer` forgets the server of the port. -/
theorem Sound.forget (sound : view.Sound) (port : Nat) :
    { view with serverOf := Function.update view.serverOf port none }.Sound := by
  have known : ∀ {other s}, Function.update view.serverOf port none other = some s →
      view.serverOf other = some s := by
    intro other s named
    rw [Function.update_apply] at named
    split at named
    · cases named
    · exact named
  exact { sound with
    numbered := fun other s named => sound.numbered other s (known named)
    injective := fun other third s named also =>
      sound.injective other third s (known named) (known also)
    shared := fun other s j c named => sound.shared other s j c (known named)
    running := fun other s named => sound.running other s (known named) }

end

end View

end V8Jsi.AgentRegistry
