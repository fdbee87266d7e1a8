import Mathlib.Data.List.Nodup
import Mathlib.Data.List.Flatten
import Mathlib.Logic.Function.Basic

set_option autoImplicit false

/- Nodes that hold a pointer to the next and one to the previous node of their list, so that a
node leaves its list without a search. -/
namespace DoublyLinked

structure Node (α : Type) where
  next : Option α := none
  prev : Option α := none
  deriving DecidableEq, Repr

/-- An address without a node is not allocated. -/
abbrev Memory (α : Type) := α → Option (Node α)

section

variable {α : Type} {memory : Memory α}

/-- The nodes after an address, by their `next` pointers. -/
def Memory.walk (memory : Memory α) : Nat → α → Option (List α)
  | 0, _ => none
  | fuel + 1, address => do
      match (← memory address).next with
      | none => some []
      | some next => (memory.walk fuel next).map (next :: ·)

/-! ## Segments -/

/-- The nodes follow each other, after the node `prev` and before the node `next`. -/
def Segment (memory : Memory α) : Option α → List α → Option α → Prop
  | _, [], _ => True
  | prev, address :: rest, next =>
      memory address = some ⟨rest.head?.or next, prev⟩ ∧
        Segment memory (some address) rest next

theorem Segment.congr {memory' : Memory α} {prev next : Option α} {nodes : List α}
    (segment : Segment memory prev nodes next)
    (same : ∀ address ∈ nodes, memory' address = memory address) :
    Segment memory' prev nodes next := by
  induction nodes generalizing prev with
  | nil => trivial
  | cons address rest ih =>
      refine ⟨(same address (by simp)).trans segment.1, ih segment.2 ?_⟩
      exact fun other member => same other (by simp [member])

theorem segment_append {prev next : Option α} {first second : List α} :
    Segment memory prev (first ++ second) next ↔
      Segment memory prev first (second.head?.or next) ∧
        Segment memory (first.getLast?.or prev) second next := by
  induction first generalizing prev with
  | nil => simp [Segment]
  | cons address rest ih =>
      have last : (address :: rest).getLast?.or prev = rest.getLast?.or (some address) := by
        cases rest <;> simp [List.getLast?_cons]
      simp only [List.cons_append, Segment, List.head?_append, Option.or_assoc, ih, last,
        and_assoc]

/-- The node in the middle of a list. -/
theorem Segment.node {prev next : Option α} {before after : List α} {address : α}
    (segment : Segment memory prev (before ++ address :: after) next) :
    memory address = some ⟨after.head?.or next, before.getLast?.or prev⟩ :=
  (segment_append.mp segment).2.1

theorem Segment.isSome {prev next : Option α} {nodes : List α}
    (segment : Segment memory prev nodes next) {address : α} (member : address ∈ nodes) :
    (memory address).isSome := by
  obtain ⟨before, after, rfl⟩ := List.append_of_mem member
  simp [segment.node]

/-- The walk from the first node finds the others. -/
theorem Segment.walk {prev : Option α} {head : α} {rest : List α}
    (segment : Segment memory prev (head :: rest) none) :
    memory.walk (rest.length + 1) head = some rest := by
  induction rest generalizing prev head with
  | nil => simp [Memory.walk, segment.1]
  | cons next rest ih =>
      have found := ih segment.2
      simp only [List.length_cons] at found ⊢
      rw [Memory.walk]
      simp [segment.1, found]

/-! ## All the lists of a memory -/

/-- What a write into the nodes of a list leaves. -/
structure Rewritten (memory memory' : Memory α) (nodes : List α) : Prop where
  frame : ∀ address ∉ nodes, memory' address = memory address
  allocated : ∀ address, (memory' address).isSome = (memory address).isSome

theorem Rewritten.refl (memory : Memory α) (nodes : List α) : Rewritten memory memory nodes :=
  ⟨fun _ _ => rfl, fun _ => rfl⟩

theorem Rewritten.trans {memory₁ memory₂ memory₃ : Memory α} {first second nodes : List α}
    (one : Rewritten memory₁ memory₂ first) (two : Rewritten memory₂ memory₃ second)
    (inFirst : ∀ address ∈ first, address ∈ nodes)
    (inSecond : ∀ address ∈ second, address ∈ nodes) : Rewritten memory₁ memory₃ nodes where
  frame address outside := by
    rw [two.frame address fun member => outside (inSecond address member),
      one.frame address fun member => outside (inFirst address member)]
  allocated address := (two.allocated address).trans (one.allocated address)

/-- Every allocated node stands in exactly one of the lists. A node that is in no list is a list
of its own. -/
structure Chains (memory : Memory α) (lists : List (List α)) : Prop where
  linked : ∀ list ∈ lists, Segment memory none list none
  nodup : lists.flatten.Nodup
  allocated : ∀ address, (memory address).isSome ↔ address ∈ lists.flatten

namespace Chains

variable {lists others : List (List α)}

theorem empty : Chains (fun _ : α => none) [] := ⟨by simp, by simp, by simp⟩

theorem perm {lists' : List (List α)} (chains : Chains memory lists)
    (same : lists.Perm lists') : Chains memory lists' where
  linked list member := chains.linked list (same.mem_iff.mpr member)
  nodup := same.flatten.nodup_iff.mp chains.nodup
  allocated address := (chains.allocated address).trans same.flatten.mem_iff

theorem dropEmpty (chains : Chains memory ([] :: lists)) : Chains memory lists :=
  ⟨fun list member => chains.linked list (by simp [member]), by simpa using chains.nodup,
    by simpa using chains.allocated⟩

/-- Some lists are taken apart and put together again, and the others stay. -/
theorem replace {memory' : Memory α} (old new : List (List α))
    (chains : Chains memory (old ++ others)) (same : old.flatten.Perm new.flatten)
    (rewritten : Rewritten memory memory' old.flatten)
    (linked : ∀ list ∈ new, Segment memory' none list none) : Chains memory' (new ++ others) := by
  have all : (old ++ others).flatten.Perm (new ++ others).flatten := by
    simpa using same.append_right others.flatten
  have apart : ∀ list ∈ others, ∀ address ∈ list, address ∉ old.flatten := by
    intro list member address inside outside
    have nodup := chains.nodup
    rw [List.flatten_append] at nodup
    exact List.disjoint_of_nodup_append nodup outside (List.mem_flatten.mpr ⟨list, member, inside⟩)
  refine ⟨fun list member => ?_, all.nodup_iff.mp chains.nodup, fun address => ?_⟩
  · rcases List.mem_append.mp member with member | member
    · exact linked list member
    · refine (chains.linked list (by simp [member])).congr fun address inside => ?_
      exact rewritten.frame address (apart list member address inside)
  · rw [rewritten.allocated, chains.allocated, all.mem_iff]

end Chains

/-! ## Writes -/

variable [DecidableEq α]

namespace Memory

def setNext (memory : Memory α) (address : α) (next : Option α) : Option (Memory α) :=
  (memory address).map fun node => Function.update memory address (some { node with next })

def setPrev (memory : Memory α) (address : α) (prev : Option α) : Option (Memory α) :=
  (memory address).map fun node => Function.update memory address (some { node with prev })

/-- Nothing is written through a null pointer. -/
def setNextAt (memory : Memory α) (pointer next : Option α) : Option (Memory α) :=
  match pointer with
  | none => some memory
  | some address => memory.setNext address next

def setPrevAt (memory : Memory α) (pointer prev : Option α) : Option (Memory α) :=
  match pointer with
  | none => some memory
  | some address => memory.setPrev address prev

end Memory

theorem rewritten_update {address : α} {node : Node α} (old : (memory address).isSome) :
    Rewritten memory (Function.update memory address (some node)) [address] where
  frame other outside := Function.update_of_ne (by simpa using outside) _ _
  allocated other := by
    obtain rfl | different := eq_or_ne other address
    · simp [old]
    · simp [Function.update_of_ne different]

theorem Segment.setNext_last {prev next : Option α} {nodes : List α}
    (segment : Segment memory prev nodes next) (nodup : nodes.Nodup) (next' : Option α) :
    ∃ memory', memory.setNextAt nodes.getLast? next' = some memory' ∧
      Segment memory' prev nodes next' ∧ Rewritten memory memory' nodes := by
  obtain rfl | ⟨init, last, rfl⟩ := nodes.eq_nil_or_concat
  · exact ⟨memory, rfl, trivial, .refl _ _⟩
  · simp only [List.concat_eq_append] at segment nodup ⊢
    obtain ⟨initial, old, -⟩ := segment_append.mp segment
    have apart : last ∉ init := by
      have := List.disjoint_of_nodup_append nodup
      simpa using this
    refine ⟨_, by simp [Memory.setNextAt, Memory.setNext, old]; rfl, ?_, ?_⟩
    · refine segment_append.mpr ⟨initial.congr fun address member => ?_, by simp, trivial⟩
      exact Function.update_of_ne (by rintro rfl; exact apart member) _ _
    · exact (rewritten_update (by simp [old])).trans (.refl _ []) (by simp) (by simp)

theorem Segment.setPrev_head {prev next : Option α} {nodes : List α}
    (segment : Segment memory prev nodes next) (nodup : nodes.Nodup) (prev' : Option α) :
    ∃ memory', memory.setPrevAt nodes.head? prev' = some memory' ∧
      Segment memory' prev' nodes next ∧ Rewritten memory memory' nodes := by
  cases nodes with
  | nil => exact ⟨memory, rfl, trivial, .refl _ _⟩
  | cons address rest =>
      obtain ⟨old, tail⟩ := segment
      have apart : address ∉ rest := (List.nodup_cons.mp nodup).1
      refine ⟨_, by simp [Memory.setPrevAt, Memory.setPrev, old]; rfl, ?_, ?_⟩
      · refine ⟨by simp, tail.congr fun other member => ?_⟩
        exact Function.update_of_ne (by rintro rfl; exact apart member) _ _
      · exact (rewritten_update (by simp [old])).trans (.refl _ []) (by simp) (by simp)

namespace Chains

variable {lists : List (List α)}

theorem create (chains : Chains memory lists) {address : α} (fresh : memory address = none) :
    Chains (Function.update memory address (some {})) ([address] :: lists) := by
  have outside : address ∉ lists.flatten := by
    simpa [fresh] using (chains.allocated address).not
  have nodup : ([address] :: lists).flatten.Nodup := List.nodup_cons.mpr ⟨outside, chains.nodup⟩
  refine ⟨fun list member => ?_, nodup, fun other => ?_⟩
  · rcases List.mem_cons.mp member with rfl | inOthers
    · exact ⟨by simp, trivial⟩
    · refine (chains.linked list inOthers).congr fun other inside => ?_
      exact Function.update_of_ne (by
        rintro rfl
        exact outside (List.mem_flatten.mpr ⟨list, inOthers, inside⟩)) _ _
  · obtain rfl | different := eq_or_ne other address
    · simp
    · rw [Function.update_of_ne different, chains.allocated]
      simp [different]

theorem delete {address : α} (chains : Chains memory ([address] :: lists)) :
    Chains (Function.update memory address none) lists := by
  have nodup := chains.nodup
  simp only [List.flatten_cons, List.singleton_append, List.nodup_cons] at nodup
  obtain ⟨outside, nodup⟩ := nodup
  refine ⟨fun list member => ?_, nodup, fun other => ?_⟩
  · refine (chains.linked list (by simp [member])).congr fun other inside => ?_
    exact Function.update_of_ne (by
      rintro rfl
      exact outside (List.mem_flatten.mpr ⟨list, member, inside⟩)) _ _
  · obtain rfl | different := eq_or_ne other address
    · simpa using outside
    · rw [Function.update_of_ne different, chains.allocated]
      simp [different]

end Chains

end

end DoublyLinked
