import V8Jsi.EnvFinalizers
import V8Jsi.Lib.DoublyLinked

set_option autoImplicit false

/- `RefTracker` of js_native_api_v8.h with the pointers that it holds, and the deletion of an env
over them. -/
namespace V8Jsi.RefTracker

open DoublyLinked EnvFinalizers Heaps Outcome

section

variable {α : Type} [DecidableEq α]

/-- `Link` of a tracker to the head of a list. -/
def link (memory : Memory α) (tracker list : α) : Option (Memory α) := do
  let memory ← memory.setPrev tracker (some list)
  let memory ← memory.setNext tracker (← memory list).next
  let memory ← memory.setPrevAt (← memory tracker).next (some tracker)
  memory.setNext list (some tracker)

def unlink (memory : Memory α) (tracker : α) : Option (Memory α) := do
  let memory ← memory.setNextAt (← memory tracker).prev (← memory tracker).next
  let memory ← memory.setPrevAt (← memory tracker).next (← memory tracker).prev
  let memory ← memory.setPrev tracker none
  memory.setNext tracker none

/-! ## The two methods -/

theorem link_chains {memory : Memory α} {tracker list : α} {rest : List α}
    {others : List (List α)} (chains : Chains memory ([tracker] :: (list :: rest) :: others)) :
    ∃ memory', link memory tracker list = some memory' ∧
      Chains memory' ((list :: tracker :: rest) :: others) ∧
      ∀ address, (memory' address).isSome = (memory address).isSome := by
  have loose := (chains.linked [tracker] (by simp)).1
  have headed := chains.linked (list :: rest) (by simp)
  have nodup : (tracker :: list :: rest).Nodup := by
    have all := chains.nodup
    simp only [List.flatten_cons, ← List.append_assoc] at all
    exact (List.nodup_append.mp all).1
  obtain ⟨outside, nodup⟩ := List.nodup_cons.mp nodup
  obtain ⟨headOutside, nodup⟩ := List.nodup_cons.mp nodup
  simp only [List.mem_cons, not_or] at outside
  obtain ⟨apart, notInRest⟩ := outside
  -- the two writes into the tracker
  let linked : Node α := ⟨rest.head?, some list⟩
  let memory₁ := Function.update memory tracker (some linked)
  have wrote₁ : (do
      let memory ← memory.setPrev tracker (some list)
      memory.setNext tracker (← memory list).next) = some memory₁ := by
    simp [Memory.setPrev, Memory.setNext, loose, Function.update_of_ne (Ne.symm apart), headed.1,
      memory₁, linked]
  have at₁ : memory₁ tracker = some linked := by simp [memory₁]
  have rest₁ : Segment memory₁ (some list) rest none := by
    refine headed.2.congr fun address member => Function.update_of_ne ?_ _ _
    rintro rfl
    exact notInRest member
  -- the old first tracker
  obtain ⟨memory₂, wrote₂, rest₂, rewritten₂⟩ := rest₁.setPrev_head nodup (some tracker)
  have list₂ : memory₂ list = some ⟨rest.head?, none⟩ := by
    rw [rewritten₂.frame list headOutside]
    simpa [memory₁, Function.update_of_ne (Ne.symm apart)] using headed.1
  have at₂ : memory₂ tracker = some linked := (rewritten₂.frame tracker notInRest).trans at₁
  -- the head of the list
  let memory₃ := Function.update memory₂ list (some ⟨some tracker, none⟩)
  have wrote₃ : memory₂.setNext list (some tracker) = some memory₃ := by
    simp [Memory.setNext, list₂, memory₃]
  refine ⟨memory₃, ?_, ?_⟩
  · have assembled : link memory tracker list = (do
        let memory ← (do
          let memory ← memory.setPrev tracker (some list)
          memory.setNext tracker (← memory list).next)
        let memory ← memory.setPrevAt (← memory tracker).next (some tracker)
        memory.setNext list (some tracker)) := by
      simp [link, Option.bind_assoc]
    rw [assembled, wrote₁]
    simpa [at₁, linked, wrote₂] using wrote₃
  · have inTracker : Rewritten memory memory₁ [tracker] := rewritten_update (by simp [loose])
    have inList : Rewritten memory₂ memory₃ [list] := rewritten_update (by simp [list₂])
    have rewritten : Rewritten memory memory₃ (tracker :: list :: rest) :=
      (inTracker.trans rewritten₂ (by simp) (by simp +contextual)).trans inList
        (fun _ member => member) (by simp)
    refine ⟨chains.replace [[tracker], list :: rest] [list :: tracker :: rest] ?_ ?_ ?_,
      rewritten.allocated⟩
    · simpa using List.Perm.swap _ _ _
    · simpa using rewritten
    · simp only [List.mem_singleton, forall_eq]
      refine ⟨by simp [memory₃], ?_, ?_⟩
      · simp [memory₃, Function.update_of_ne apart, at₂, linked]
      · refine rest₂.congr fun address member => Function.update_of_ne ?_ _ _
        rintro rfl
        exact headOutside member

theorem unlink_chains {memory : Memory α} {tracker : α} {before after : List α}
    {others : List (List α)}
    (chains : Chains memory ((before ++ tracker :: after) :: others)) :
    ∃ memory', unlink memory tracker = some memory' ∧
      Chains memory' ([tracker] :: (before ++ after) :: others) ∧
      ∀ address, (memory' address).isSome = (memory address).isSome := by
  have nodup : (before ++ tracker :: after).Nodup :=
    (List.nodup_append.mp (List.flatten_cons ▸ chains.nodup)).1
  have swapped : (before ++ tracker :: after).Perm (tracker :: (before ++ after)) :=
    List.perm_middle
  obtain ⟨outside, bothOnce⟩ := List.nodup_cons.mp (swapped.nodup_iff.mp nodup)
  obtain ⟨beforeOnce, afterOnce, disjoint⟩ := List.nodup_append.mp bothOnce
  simp only [List.mem_append, not_or] at outside
  obtain ⟨front, middle, back⟩ := segment_append.mp (chains.linked _ List.mem_cons_self)
  simp only [List.head?_cons, Option.or_none] at front middle
  -- the neighbours
  obtain ⟨memory₁, wrote₁, front₁, rewritten₁⟩ := front.setNext_last beforeOnce after.head?
  have at₁ := (rewritten₁.frame tracker outside.1).trans middle
  have back₁ : Segment memory₁ (some tracker) after none := by
    refine back.congr fun address member => rewritten₁.frame address fun inside => ?_
    exact disjoint address inside address member rfl
  obtain ⟨memory₂, wrote₂, back₂, rewritten₂⟩ := back₁.setPrev_head afterOnce before.getLast?
  have at₂ := (rewritten₂.frame tracker outside.2).trans at₁
  have front₂ : Segment memory₂ none before after.head? := by
    refine front₁.congr fun address member => rewritten₂.frame address fun inside => ?_
    exact disjoint address member address inside rfl
  -- the tracker itself
  let memory₃ := Function.update memory₂ tracker (some {})
  have wrote₃ : (do
      let memory ← memory₂.setPrev tracker none
      memory.setNext tracker none) = some memory₃ := by
    simp [Memory.setPrev, Memory.setNext, at₂, memory₃]
  refine ⟨memory₃, ?_, ?_⟩
  · simpa [unlink, middle, wrote₁, at₁, wrote₂] using wrote₃
  · have inTracker : Rewritten memory₂ memory₃ [tracker] := rewritten_update (by simp [at₂])
    have rewritten : Rewritten memory memory₃ (before ++ tracker :: after) :=
      (rewritten₁.trans rewritten₂ (by simp +contextual) (by simp +contextual)).trans inTracker
        (fun _ member => member) (by simp)
    refine ⟨chains.replace [before ++ tracker :: after] [[tracker], before ++ after] ?_ ?_ ?_,
      rewritten.allocated⟩
    · simp
    · simpa using rewritten
    · have kept : ∀ address ∈ before ++ after, memory₃ address = memory₂ address := by
        intro address member
        refine Function.update_of_ne ?_ _ _
        rintro rfl
        exact (List.mem_append.mp member).elim outside.1 outside.2
      have joined : Segment memory₂ none (before ++ after) none :=
        segment_append.mpr ⟨by simpa using front₂, by simpa using back₂⟩
      simp only [List.mem_cons, List.not_mem_nil, or_false, forall_eq_or_imp, forall_eq]
      exact ⟨⟨by simp [memory₃], trivial⟩, joined.congr kept⟩

end

/-! ## The env over the pointers -/

/-- The two lists of the env are trackers themselves. -/
inductive Address
  | finalizingReflist
  | reflist
  | tracker (address : Nat)
  deriving DecidableEq, Repr

/-- The lists in `env` are those of the model without pointers; nothing here reads them. -/
structure LinkedEnv where
  env : Env
  links : Memory Address

namespace LinkedEnv

/-- A pointer leads nowhere. -/
def access {β : Type} (address : Nat) (result : Option β) : Except Failure β :=
  result.elim (.error (.memory (.useAfterDelete address))) .ok

def newTracker (state : LinkedEnv) (tracker : Tracker) : Except Failure LinkedEnv := do
  let address := state.env.trackers.next
  let constructed := Function.update state.links (.tracker address) (some {})
  let list := if tracker.finalizing then Address.finalizingReflist else .reflist
  let links ← access address (link constructed (.tracker address) list)
  return { env := state.env.newTracker tracker, links }

def unlink (state : LinkedEnv) (address : Nat) : Except Failure LinkedEnv := do
  let links ← access address (RefTracker.unlink state.links (.tracker address))
  return { env := state.env.unlink address, links }

def destroy (state : LinkedEnv) (address : Nat) : Except Failure LinkedEnv := do
  let tracker ← state.env.read address
  let state ← state.unlink address
  let env := if tracker.kind.dequeues then state.env.dequeueFinalizer address else state.env
  let trackers ← (env.trackers.delete address).mapError .memory
  return { env := { env with trackers }
           links := Function.update state.links (.tracker address) none }

def napiDeleteReference (state : LinkedEnv) (address : Nat) : Except Failure LinkedEnv :=
  match state.env.trackers.get? address with
  | none => .ok state
  | some tracker =>
      if tracker.kind.isReference ∧ tracker.userland then
        destroy { state with env := { state.env with
          userDeleted :=
            if tracker.callback then state.env.userDeleted ++ [address]
            else state.env.userDeleted } } address
      else .ok state

def nodeApiPostFinalizer (state : LinkedEnv) (callback : Bool) : Except Failure LinkedEnv := do
  let after ← state.newTracker { kind := .trackedFinalizer, callback }
  return { after with env := after.env.enqueueFinalizer state.env.trackers.next }

def runOp (state : LinkedEnv) : Op → Except Failure LinkedEnv
  | .deleteReference address => state.napiDeleteReference address
  | .postFinalizer callback => state.nodeApiPostFinalizer callback
  | .newReference finalizer userland =>
      state.newTracker
        { kind := if finalizer then .referenceWithFinalizer else .reference
          userland, callback := finalizer }
  | .newStringResource callback =>
      state.newTracker { kind := .trackedStringResource, callback }

def runOps (state : LinkedEnv) : List Op → Except Failure LinkedEnv
  | [] => .ok state
  | op :: ops => do (← state.runOp op).runOps ops

section

variable (behaviour : Nat → List Op) (begin : Nat → Nat)

def callFinalizer (state : LinkedEnv) (address : Nat) : Except Failure LinkedEnv := do
  let tracker ← state.env.read address
  let trackers ←
    (state.env.trackers.write address { tracker with callback := false }).mapError .memory
  if tracker.callback then
    runOps { state with env :=
      { state.env with trackers, calls := state.env.calls ++ [address] } }
      (behaviour state.env.calls.length)
  else return { state with env := { state.env with trackers } }

def finalize (state : LinkedEnv) (address : Nat) : Except Failure LinkedEnv := do
  let tracker ← state.env.read address
  let state ← state.unlink address
  if tracker.kind = .trackedStringResource then
    return { state with env := ← state.env.resetEnv address }
  else
    let state ← if tracker.kind = .reference then pure state
      else state.callFinalizer behaviour address
    if tracker.kind.isReference ∧ tracker.userland then return state
    else state.destroy address

def drainFinalizerQueue : Nat → LinkedEnv → Except Failure LinkedEnv
  | 0, _ => .error .outOfFuel
  | fuel + 1, state =>
      match state.env.pendingFinalizers[
          begin state.env.turns % state.env.pendingFinalizers.length]? with
      | none => .ok state
      | some refTracker => do
          let env := { state.env.dequeueFinalizer refTracker with turns := state.env.turns + 1 }
          drainFinalizerQueue fuel (← finalize behaviour { state with env } refTracker)

/-- The `Finalize` of a list, which is a plain `RefTracker`, does nothing. -/
def finalizeAll (list : Address) : Nat → LinkedEnv → Except Failure LinkedEnv
  | 0, _ => .error .outOfFuel
  | fuel + 1, state =>
      match (state.links list).bind Node.next with
      | none => .ok state
      | some (.tracker refTracker) => do
          finalizeAll list fuel (← state.finalize behaviour refTracker)
      | some _ => finalizeAll list fuel state

def deleteMe (others : List Op) (fuel : Nat) (state : LinkedEnv) : Except Failure LinkedEnv := do
  let state ← { state with env := { state.env with isDestructing := true } }.runOps others
  let state ← state.drainFinalizerQueue behaviour begin fuel
  let state ← state.finalizeAll behaviour .finalizingReflist fuel
  let state ← state.finalizeAll behaviour .reflist fuel
  return { state with env := { state.env with deleted := true } }

end

end LinkedEnv

/-! ## What the pointers stand for -/

/-- The lists of the env, and the trackers that are in none of them. -/
def chainsOf (env : Env) (loose : List Nat) : List (List Address) :=
  (.finalizingReflist :: env.finalizingReflist.map .tracker) ::
    (.reflist :: env.reflist.map .tracker) :: loose.map fun address => [.tracker address]

structure Tracks (env : Env) (links : Memory Address) : Prop where
  chains : ∃ loose, Chains links (chainsOf env loose)
  allocated : ∀ address,
    (links (.tracker address)).isSome = (env.trackers.get? address).isSome

/-- The pointers do what the lists do. -/
def Follows (linked : Except Failure LinkedEnv) (plain : Except Failure Env) : Prop :=
  match plain with
  | .ok env => ∃ links, linked = .ok ⟨env, links⟩ ∧ Tracks env links
  | .error failure => linked = .error failure

theorem Follows.bind {linked : Except Failure LinkedEnv} {plain : Except Failure Env}
    {next : LinkedEnv → Except Failure LinkedEnv} {next' : Env → Except Failure Env}
    (first : Follows linked plain)
    (rest : ∀ env links, Tracks env links → Follows (next ⟨env, links⟩) (next' env)) :
    Follows (linked >>= next) (plain >>= next') := by
  cases plain with
  | error failure =>
      have failed : linked = .error failure := first
      simp [failed, Follows, Bind.bind, Except.bind]
  | ok env =>
      obtain ⟨links, rfl, tracks⟩ := first
      exact rest env links tracks

section

variable {env : Env} {links : Memory Address}

theorem Tracks.of_env (tracks : Tracks env links) {env' : Env}
    (finalizing : env'.finalizingReflist = env.finalizingReflist)
    (reflist : env'.reflist = env.reflist)
    (alive : ∀ address,
      (env'.trackers.get? address).isSome = (env.trackers.get? address).isSome) :
    Tracks env' links := by
  obtain ⟨loose, chains⟩ := tracks.chains
  refine ⟨⟨loose, ?_⟩, fun address => (tracks.allocated address).trans (alive address).symm⟩
  simpa [chainsOf, finalizing, reflist] using chains

/-- The first tracker of each list. -/
theorem Tracks.heads (tracks : Tracks env links) :
    (links .finalizingReflist).bind Node.next = env.finalizingReflist.head?.map .tracker ∧
      (links .reflist).bind Node.next = env.reflist.head?.map .tracker := by
  obtain ⟨loose, chains⟩ := tracks.chains
  have first := (chains.linked (.finalizingReflist :: env.finalizingReflist.map .tracker)
    (by simp [chainsOf])).1
  have second := (chains.linked (.reflist :: env.reflist.map .tracker) (by simp [chainsOf])).1
  simp [first, second]

theorem split_erase {list : List Nat} {address : Nat} (once : list.Nodup)
    (member : address ∈ list) :
    ∃ before after, list = before ++ address :: after ∧
      list.erase address = before ++ after := by
  obtain ⟨before, after, rfl⟩ := List.append_of_mem member
  have outside : address ∉ before := fun inside =>
    (List.nodup_append.mp once).2.2 address inside address List.mem_cons_self rfl
  exact ⟨before, after, rfl, by rw [List.erase_append_right _ outside, List.erase_cons_head]⟩

theorem Tracks.newTracker (tracks : Tracks env links) (tracker : Tracker) :
    Follows (LinkedEnv.newTracker ⟨env, links⟩ tracker) (.ok (env.newTracker tracker)) := by
  obtain ⟨loose, chains⟩ := tracks.chains
  have fresh : links (.tracker env.trackers.next) = none := by
    have absent := tracks.allocated env.trackers.next
    rw [Heap.get?_next] at absent
    simpa using absent
  have created := chains.create fresh
  -- the list comes second, where `link_chains` finds it
  have found : ∃ list rest others memory,
      (if tracker.finalizing then Address.finalizingReflist else .reflist) = list ∧
      link (Function.update links (.tracker env.trackers.next) (some {}))
        (.tracker env.trackers.next) list = some memory ∧
      Chains memory ((list :: .tracker env.trackers.next :: rest) :: others) ∧
      ((list :: .tracker env.trackers.next :: rest) :: others).Perm
        (chainsOf (env.newTracker tracker) loose) ∧
      ∀ address, (memory address).isSome =
        (Function.update links (.tracker env.trackers.next) (some {}) address).isSome := by
    cases kind : tracker.finalizing with
    | false =>
      obtain ⟨memory, linked, after, allocated⟩ :=
        link_chains (created.perm ((List.Perm.swap _ _ _).cons _))
      refine ⟨_, _, _, memory, by simp, linked, after, ?_, allocated⟩
      simpa [chainsOf, Env.newTracker, kind] using List.Perm.swap _ _ _
    | true =>
      obtain ⟨memory, linked, after, allocated⟩ := link_chains created
      refine ⟨_, _, _, memory, by simp, linked, after, ?_, allocated⟩
      simp [chainsOf, Env.newTracker, kind]
  obtain ⟨list, rest, others, memory, chosen, linked, after, same, allocated⟩ := found
  refine ⟨memory, ?_, ⟨loose, after.perm same⟩, fun address => ?_⟩
  · simp [LinkedEnv.newTracker, chosen, linked, LinkedEnv.access]
  · rw [allocated]
    obtain rfl | different := eq_or_ne address env.trackers.next
    · simp [Env.newTracker, Heap.get?_alloc_self]
    · rw [Function.update_of_ne (by simpa using different), tracks.allocated]
      simp [Env.newTracker, Heap.get?_alloc_of_ne different]

/-- No tracker is in two places. -/
theorem chainsOf_once {loose : List Nat} (chains : Chains links (chainsOf env loose)) :
    (env.finalizingReflist ++ env.reflist ++ loose).Nodup := by
  refine List.Nodup.of_map Address.tracker (chains.nodup.sublist ?_)
  have alone : (loose.map fun address => [Address.tracker address]).flatten =
      loose.map .tracker := by
    rw [← List.flatMap_def, ← List.map_eq_flatMap]
  simp only [chainsOf, List.flatten_cons, alone, List.map_append, List.append_assoc]
  exact (List.sublist_cons_self _ _).append ((List.sublist_cons_self _ _).append (.refl _))

/-- The tracker is in a list of its own afterwards. -/
theorem Tracks.unlink_chains (tracks : Tracks env links) {address : Nat} {tracker : Tracker}
    (alive : env.trackers.get? address = some tracker) :
    ∃ links' loose, RefTracker.unlink links (.tracker address) = some links' ∧
      Chains links' ([.tracker address] :: chainsOf (env.unlink address) loose) ∧
      ∀ other, (links' other).isSome = (links other).isSome := by
  obtain ⟨loose, chains⟩ := tracks.chains
  have place : address ∈ env.finalizingReflist ∨ address ∈ env.reflist ∨ address ∈ loose := by
    have member := (chains.allocated (.tracker address)).mp (by rw [tracks.allocated, alive]; rfl)
    simpa [chainsOf] using member
  obtain ⟨bothOnce, looseOnce, apart⟩ := List.nodup_append.mp (chainsOf_once chains)
  obtain ⟨finalizingOnce, reflistOnce, apart'⟩ := List.nodup_append.mp bothOnce
  rcases place with inFinalizing | inReflist | inLoose
  · obtain ⟨before, after, split, erased⟩ := split_erase finalizingOnce inFinalizing
    have elsewhere : address ∉ env.reflist := fun member => apart' _ inFinalizing _ member rfl
    simp only [chainsOf, split, List.map_append, List.map_cons, ← List.cons_append] at chains
    obtain ⟨links', unlinked, after', allocated⟩ := RefTracker.unlink_chains chains
    refine ⟨links', loose, unlinked, ?_, allocated⟩
    simpa [chainsOf, Env.unlink, erased, List.erase_of_not_mem elsewhere] using after'
  · obtain ⟨before, after, split, erased⟩ := split_erase reflistOnce inReflist
    have elsewhere : address ∉ env.finalizingReflist :=
      fun member => apart' _ member _ inReflist rfl
    have swapped := chains.perm (List.Perm.swap _ _ _)
    simp only [split, List.map_append, List.map_cons, ← List.cons_append] at swapped
    obtain ⟨links', unlinked, after', allocated⟩ := RefTracker.unlink_chains swapped
    refine ⟨links', loose, unlinked, ?_, allocated⟩
    refine (after'.perm ((List.Perm.swap _ _ _).cons _)).perm ?_
    simp [chainsOf, Env.unlink, erased, List.erase_of_not_mem elsewhere]
  · obtain ⟨before, after, split, erased⟩ := split_erase looseOnce inLoose
    have elsewhere : address ∉ env.finalizingReflist ++ env.reflist :=
      fun member => apart _ member _ inLoose rfl
    simp only [List.mem_append, not_or] at elsewhere
    have front : (chainsOf env loose).Perm
        (([] ++ .tracker address :: []) :: chainsOf env (loose.erase address)) := by
      have moved := ((List.perm_cons_erase inLoose).map fun other => [Address.tracker other])
      exact ((moved.cons _).cons _).trans
        (((List.Perm.swap _ _ _).cons _).trans (List.Perm.swap _ _ _))
    obtain ⟨links', unlinked, after', allocated⟩ := RefTracker.unlink_chains (chains.perm front)
    refine ⟨links', loose.erase address, unlinked, ?_, allocated⟩
    have dropped := (after'.perm (List.Perm.swap _ _ _)).dropEmpty
    simpa [chainsOf, Env.unlink, List.erase_of_not_mem elsewhere.1,
      List.erase_of_not_mem elsewhere.2] using dropped

/-- The new list of its own counts as a tracker in no list. -/
theorem chainsOf_loose {env : Env} {address : Nat} {loose : List Nat}
    (chains : Chains links ([.tracker address] :: chainsOf env loose)) :
    Chains links (chainsOf env (address :: loose)) :=
  chains.perm ((List.Perm.swap _ _ _).trans ((List.Perm.swap _ _ _).cons _))

theorem Tracks.unlink (tracks : Tracks env links) {address : Nat} {tracker : Tracker}
    (alive : env.trackers.get? address = some tracker) :
    Follows (LinkedEnv.unlink ⟨env, links⟩ address) (.ok (env.unlink address)) := by
  obtain ⟨links', loose, unlinked, chains, allocated⟩ := tracks.unlink_chains alive
  refine ⟨links', by simp [LinkedEnv.unlink, unlinked, LinkedEnv.access], ?_⟩
  exact ⟨⟨_, chainsOf_loose chains⟩,
    fun other => (allocated _).trans (tracks.allocated other)⟩

theorem Tracks.destroy (tracks : Tracks env links) (address : Nat) :
    Follows (LinkedEnv.destroy ⟨env, links⟩ address) (env.destroy address) := by
  cases alive : env.trackers.get? address with
  | none =>
      simp [LinkedEnv.destroy, Env.destroy, Env.read, Heap.read, alive, Except.mapError,
        Follows, Bind.bind, Except.bind]
  | some tracker =>
      obtain ⟨links', loose, unlinked, chains, allocated⟩ := tracks.unlink_chains alive
      rw [destroy_eq alive]
      refine ⟨Function.update links' (.tracker address) none, ?_, ⟨loose, ?_⟩, fun other => ?_⟩
      · cases kind : tracker.kind.dequeues <;>
          simp [LinkedEnv.destroy, LinkedEnv.unlink, LinkedEnv.access, Env.read,
            Heap.read_of_get? alive, unlinked, kind, Env.unlink, Env.dequeueFinalizer,
            Heap.delete_of_get? alive, Except.mapError]
      · simpa [chainsOf, Env.unlink] using chains.delete
      · obtain rfl | different := eq_or_ne other address
        · simp [Heap.get?_set_self none alive]
        · rw [Function.update_of_ne (by simpa using different), allocated, tracks.allocated]
          simp [Heap.get?_set_of_ne none different]

/-! ## The methods of the env -/

theorem Tracks.runOp (tracks : Tracks env links) (op : Op) :
    Follows (LinkedEnv.runOp ⟨env, links⟩ op) (env.runOp op) := by
  cases op with
  | deleteReference address =>
      simp only [LinkedEnv.runOp, Env.runOp, LinkedEnv.napiDeleteReference,
        Env.napiDeleteReference]
      cases alive : env.trackers.get? address with
      | none => exact ⟨links, rfl, tracks⟩
      | some tracker =>
          by_cases owned : tracker.kind.isReference ∧ tracker.userland
          · simp only [if_pos owned]
            refine Tracks.destroy ?_ address
            exact tracks.of_env rfl rfl fun _ => rfl
          · simp only [if_neg owned]
            exact ⟨links, rfl, tracks⟩
  | postFinalizer callback =>
      obtain ⟨links', made, tracks'⟩ :=
        tracks.newTracker { kind := .trackedFinalizer, callback }
      refine ⟨links', ?_, tracks'.of_env rfl rfl fun _ => rfl⟩
      simp only [LinkedEnv.runOp, LinkedEnv.nodeApiPostFinalizer, made]
      rfl
  | newReference finalizer userland => exact tracks.newTracker _
  | newStringResource callback => exact tracks.newTracker _

theorem Tracks.runOps (ops : List Op) : ∀ {env : Env} {links : Memory Address},
    Tracks env links → Follows (LinkedEnv.runOps ⟨env, links⟩ ops) (env.runOps ops) := by
  induction ops with
  | nil => exact fun {_ links} tracks => ⟨links, rfl, tracks⟩
  | cons op ops ih =>
      intro env links tracks
      exact (tracks.runOp op).bind fun env' links' tracks' => ih tracks'

variable (behaviour : Nat → List Op) (begin : Nat → Nat)

theorem isSome_set {address : Nat} {tracker : Tracker}
    (alive : env.trackers.get? address = some tracker) (value : Tracker) (other : Nat) :
    ((env.trackers.set address (some value)).get? other).isSome =
      (env.trackers.get? other).isSome := by
  obtain rfl | different := eq_or_ne other address
  · simp [Heap.get?_set_self _ alive, alive]
  · simp [Heap.get?_set_of_ne _ different]

theorem Tracks.resetEnv (tracks : Tracks env links) {address : Nat} {tracker : Tracker}
    (alive : env.trackers.get? address = some tracker) :
    Follows (do return ⟨← env.resetEnv address, links⟩) (env.resetEnv address) := by
  simp only [Env.resetEnv, Env.read, Heap.read_of_get? alive, Heap.write_of_get? alive,
    mapError_ok, ok_bind, pure_ok]
  exact ⟨links, rfl, tracks.of_env rfl rfl (isSome_set alive _)⟩

theorem Tracks.callFinalizer (tracks : Tracks env links) (address : Nat) :
    Follows (LinkedEnv.callFinalizer behaviour ⟨env, links⟩ address)
      (env.callFinalizer behaviour address) := by
  cases alive : env.trackers.get? address with
  | none =>
      simp [LinkedEnv.callFinalizer, Env.callFinalizer, Env.read, Heap.read, alive,
        Except.mapError, Follows, Bind.bind, Except.bind]
  | some tracker =>
      have written := isSome_set alive { tracker with callback := false }
      simp only [LinkedEnv.callFinalizer, Env.callFinalizer, Env.read, Heap.read_of_get? alive,
        Heap.write_of_get? alive, mapError_ok, ok_bind, pure_ok]
      cases tracker.callback with
      | false => exact ⟨links, rfl, tracks.of_env rfl rfl written⟩
      | true =>
          refine Tracks.runOps _ ?_
          exact tracks.of_env rfl rfl written

theorem Tracks.finalize (tracks : Tracks env links) (address : Nat) :
    Follows (LinkedEnv.finalize behaviour ⟨env, links⟩ address)
      (env.finalize behaviour address) := by
  cases alive : env.trackers.get? address with
  | none =>
      simp [LinkedEnv.finalize, Env.finalize, Env.read, Heap.read, alive,
        Except.mapError, Follows, Bind.bind, Except.bind]
  | some tracker =>
      obtain ⟨links₁, unlinked, tracks₁⟩ := tracks.unlink alive
      simp only [LinkedEnv.finalize, Env.finalize, Env.read, Heap.read_of_get? alive, unlinked,
        mapError_ok, ok_bind]
      -- the end of the function
      have ends : ∀ {env₂ : Env} {links₂ : Memory Address}, Tracks env₂ links₂ → Follows
          (if tracker.kind.isReference ∧ tracker.userland then pure ⟨env₂, links₂⟩
            else LinkedEnv.destroy ⟨env₂, links₂⟩ address)
          (if tracker.kind.isReference ∧ tracker.userland then pure env₂
            else env₂.destroy address) := by
        intro env₂ links₂ tracks₂
        split
        · exact ⟨links₂, rfl, tracks₂⟩
        · exact tracks₂.destroy address
      split
      · exact tracks₁.resetEnv alive
      · split
        · exact ends tracks₁
        · exact (tracks₁.callFinalizer behaviour address).bind fun _ _ tracks₂ => ends tracks₂

theorem Tracks.drainFinalizerQueue (fuel : Nat) : ∀ {env : Env} {links : Memory Address},
    Tracks env links → Follows (LinkedEnv.drainFinalizerQueue behaviour begin fuel ⟨env, links⟩)
      (env.drainFinalizerQueue behaviour begin fuel) := by
  induction fuel with
  | zero => exact fun _ => rfl
  | succ fuel ih =>
      intro env links tracks
      simp only [LinkedEnv.drainFinalizerQueue, Env.drainFinalizerQueue]
      cases env.pendingFinalizers[begin env.turns % env.pendingFinalizers.length]? with
      | none => exact ⟨links, rfl, tracks⟩
      | some refTracker =>
          refine Follows.bind ?_ fun env' links' tracks' => ih tracks'
          refine Tracks.finalize behaviour ?_ refTracker
          exact tracks.of_env rfl rfl fun _ => rfl

theorem Tracks.finalizeAll {list : Env → List Nat} {head : Address}
    (starts : ∀ {env : Env} {links : Memory Address}, Tracks env links →
      (links head).bind Node.next = (list env).head?.map .tracker) (fuel : Nat) :
    ∀ {env : Env} {links : Memory Address}, Tracks env links →
      Follows (LinkedEnv.finalizeAll behaviour head fuel ⟨env, links⟩)
        (env.finalizeAll behaviour list fuel) := by
  induction fuel with
  | zero => exact fun _ => rfl
  | succ fuel ih =>
      intro env links tracks
      simp only [LinkedEnv.finalizeAll, Env.finalizeAll, starts tracks]
      cases (list env).head? with
      | none => exact ⟨links, rfl, tracks⟩
      | some refTracker =>
          exact (tracks.finalize behaviour refTracker).bind fun env' links' tracks' => ih tracks'

/-- `DeleteMe` over the pointers does what it does over the lists, whatever its trackers are and the
callbacks do: it follows no pointer into a tracker that is gone, and the pointers of the two lists
lead through the same trackers at its end. -/
theorem deleteMe_follows (tracks : Tracks env links) (others : List Op) (fuel : Nat) :
    Follows (LinkedEnv.deleteMe behaviour begin others fuel ⟨env, links⟩)
      (env.deleteMe behaviour begin others fuel) := by
  have started : Tracks { env with isDestructing := true } links :=
    tracks.of_env rfl rfl fun _ => rfl
  refine (Tracks.runOps others started).bind fun env₁ links₁ tracks₁ => ?_
  refine (tracks₁.drainFinalizerQueue behaviour begin fuel).bind fun env₂ links₂ tracks₂ => ?_
  refine (tracks₂.finalizeAll behaviour (fun tracks => tracks.heads.1) fuel).bind ?_
  intro env₃ links₃ tracks₃
  refine (tracks₃.finalizeAll behaviour (fun tracks => tracks.heads.2) fuel).bind ?_
  exact fun env₄ links₄ tracks₄ => ⟨links₄, rfl, tracks₄.of_env rfl rfl fun _ => rfl⟩

end

/-- A new env: its two lists are empty. -/
def constructed : Memory Address
  | .tracker _ => none
  | _ => some {}

theorem tracks_constructed : Tracks {} constructed := by
  refine ⟨⟨[], fun list member => ?_, by simp [chainsOf], fun address => ?_⟩, fun _ => rfl⟩
  · simp only [chainsOf, List.map_nil, List.mem_cons, List.not_mem_nil, or_false] at member
    rcases member with rfl | rfl <;> simp [Segment, constructed]
  · cases address <;> simp [constructed, chainsOf]

/-- The first callback posts a second finalizer, and user code deletes one of its references. The
callback of the external string is not invoked. -/
theorem deleteMe_follows_posting :
    let behaviour := fun n => if n = 0 then [Op.postFinalizer true] else []
    let ops := [.newReference true true, .postFinalizer true, .newReference false false,
      .newStringResource true, .newReference false true, .deleteReference 0]
    Follows (LinkedEnv.deleteMe behaviour id ops 9 ⟨{}, constructed⟩)
        (Env.deleteMe behaviour id ops 9 {}) ∧
      ((Env.deleteMe behaviour id ops 9 {}).toOption.map fun env =>
        (env.calls, env.finalizingReflist, env.reflist)) = some ([1, 5], [], []) :=
  ⟨deleteMe_follows _ id tracks_constructed _ 9, by decide⟩

end V8Jsi.RefTracker
