import Mathlib.Data.List.Basic

set_option autoImplicit false

/- Objects that are allocated, accessed and deleted by address. An address is
never given out twice, so that every access can tell a deleted object. -/
namespace Heaps

inductive Fault
  | useAfterDelete (address : Nat)
  | doubleDelete (address : Nat)
  deriving DecidableEq, Repr

/-- `none` marks the address of a deleted object. -/
structure Heap (α : Type) where
  cells : List (Option α) := []
  deriving DecidableEq, Repr

namespace Heap

variable {α : Type} {heap : Heap α} {address other : Nat} {value old : α}

/-- The object at an address, if it lives. -/
def get? (heap : Heap α) (address : Nat) : Option α := (heap.cells[address]?).join

def set (heap : Heap α) (address : Nat) (cell : Option α) : Heap α :=
  ⟨heap.cells.set address cell⟩

def read (heap : Heap α) (address : Nat) : Except Fault α :=
  match heap.get? address with
  | some value => .ok value
  | none => .error (.useAfterDelete address)

def write (heap : Heap α) (address : Nat) (value : α) : Except Fault (Heap α) :=
  match heap.get? address with
  | some _ => .ok (heap.set address (some value))
  | none => .error (.useAfterDelete address)

def delete (heap : Heap α) (address : Nat) : Except Fault (Heap α) :=
  match heap.get? address with
  | some _ => .ok (heap.set address none)
  | none => .error (.doubleDelete address)

/-- The address of the next object to be allocated. -/
def next (heap : Heap α) : Nat := heap.cells.length

def alloc (heap : Heap α) (value : α) : Heap α := ⟨heap.cells ++ [some value]⟩

theorem read_of_get? (alive : heap.get? address = some value) :
    heap.read address = .ok value := by
  simp only [read, alive]

theorem write_of_get? (alive : heap.get? address = some old) :
    heap.write address value = .ok (heap.set address (some value)) := by
  simp only [write, alive]

theorem delete_of_get? (alive : heap.get? address = some old) :
    heap.delete address = .ok (heap.set address none) := by
  simp only [delete, alive]

theorem address_lt (alive : heap.get? address = some value) : address < heap.next := by
  unfold get? at alive
  by_contra beyond
  rw [List.getElem?_eq_none (by simpa [next] using beyond)] at alive
  cases alive

theorem get?_set_self (cell : Option α) (alive : heap.get? address = some old) :
    (heap.set address cell).get? address = cell := by
  have inside : address < heap.cells.length := address_lt alive
  simp [get?, set, inside]

@[simp] theorem set_set (first second : Option α) :
    (heap.set address first).set address second = heap.set address second := by
  simp [set]

/-- Writing back what is there changes nothing. -/
theorem set_same (alive : heap.get? address = some value) :
    heap.set address (some value) = heap := by
  have present : heap.cells[address]? = some (some value) := by
    simpa [get?, Option.join_eq_some_iff] using alive
  have inside : address < heap.cells.length := address_lt alive
  have cell : heap.cells[address] = some value := by
    rwa [List.getElem?_eq_getElem inside, Option.some.injEq] at present
  rw [set, ← cell, List.set_getElem_self]

theorem get?_set_of_ne (cell : Option α) (different : other ≠ address) :
    (heap.set address cell).get? other = heap.get? other := by
  simp only [get?, set]
  rw [List.getElem?_set_ne (Ne.symm different)]

/-- An object found after an update was there before, or is the new one. -/
theorem get?_set_some {cell : Option α} (alive : heap.get? address = some old)
    (found : (heap.set address cell).get? other = some value) :
    other = address ∧ cell = some value ∨ other ≠ address ∧ heap.get? other = some value := by
  by_cases same : other = address
  · subst same
    rw [get?_set_self cell alive] at found
    exact .inl ⟨rfl, found⟩
  · rw [get?_set_of_ne cell same] at found
    exact .inr ⟨same, found⟩

theorem exists_get?_set (alive : heap.get? address = some old) :
    (∃ found, (heap.set address (some value)).get? other = some found) ↔
      ∃ found, heap.get? other = some found := by
  by_cases same : other = address
  · subst same
    exact ⟨fun _ => ⟨old, alive⟩, fun _ => ⟨value, get?_set_self _ alive⟩⟩
  · rw [get?_set_of_ne _ same]

theorem get?_alloc_self : (heap.alloc value).get? heap.next = some value := by
  simp [get?, alloc, next]

theorem get?_alloc_of_some (alive : heap.get? address = some old) :
    (heap.alloc value).get? address = some old := by
  have inside : address < heap.cells.length := address_lt alive
  unfold get? at alive ⊢
  rw [alloc, List.getElem?_append_left inside]
  exact alive

@[simp] theorem next_set (cell : Option α) : (heap.set address cell).next = heap.next := by
  simp [next, set]

@[simp] theorem next_alloc : (heap.alloc value).next = heap.next + 1 := by
  simp [next, alloc]

/-- Allocation does not bring back what has been deleted. -/
theorem get?_alloc_of_lt (inside : address < heap.next) :
    (heap.alloc value).get? address = heap.get? address := by
  have within : address < heap.cells.length := inside
  simp only [get?, alloc, List.getElem?_append_left within]

theorem get?_alloc_of_ne (other : address ≠ heap.next) :
    (heap.alloc value).get? address = heap.get? address := by
  rcases Nat.lt_or_gt_of_ne other with inside | beyond
  · exact get?_alloc_of_lt inside
  · have within : heap.cells.length < address := beyond
    have outside : (heap.cells ++ [some value]).length ≤ address := by
      rw [List.length_append]
      exact within
    rw [get?, get?, alloc, List.getElem?_eq_none outside,
      List.getElem?_eq_none (Nat.le_of_lt within)]

theorem get?_alloc_some (found : (heap.alloc value).get? address = some old) :
    address = heap.next ∧ old = value ∨ heap.get? address = some old := by
  unfold get? alloc at found
  rcases Nat.lt_trichotomy address heap.cells.length with inside | here | beyond
  · rw [List.getElem?_append_left inside] at found
    exact .inr found
  · subst here
    refine .inl ⟨rfl, ?_⟩
    simpa using found.symm
  · rw [List.getElem?_eq_none (by simp; omega)] at found
    cases found

theorem get?_next : heap.get? heap.next = none := by
  simp [get?, next]

/-! ## Objects that own cells -/

section

variable {β : Type} {heap : Heap α} {slots : β → Option Nat} {owner : β} {address : Nat}
  {value old : α}

/-- Every slot points to a living object, and no two slots to the same one. -/
structure Owned (slots : β → Option Nat) (heap : Heap α) : Prop where
  alive : ∀ owner address, slots owner = some address → ∃ value, heap.get? address = some value
  apart : ∀ first second address, slots first = some address → slots second = some address →
    first = second

/-- The object that an owner's slot points to. -/
def shown (slots : β → Option Nat) (heap : Heap α) (owner : β) : Option α :=
  (slots owner).bind heap.get?

variable [DecidableEq β]

theorem Owned.update_alloc (owned : Owned slots heap) (owner : β) (value : α) :
    Owned (Function.update slots owner (some heap.next)) (heap.alloc value) ∧
      shown (Function.update slots owner (some heap.next)) (heap.alloc value) =
        Function.update (shown slots heap) owner (some value) := by
  have older : ∀ other address, slots other = some address → address < heap.next := by
    intro other address slot
    obtain ⟨found, lives⟩ := owned.alive other address slot
    exact address_lt lives
  refine ⟨⟨?_, ?_⟩, ?_⟩
  · intro other address slot
    by_cases same : other = owner
    · subst same
      rw [Function.update_self, Option.some.injEq] at slot
      exact ⟨value, slot ▸ get?_alloc_self⟩
    · rw [Function.update_of_ne same] at slot
      obtain ⟨found, lives⟩ := owned.alive other address slot
      exact ⟨found, get?_alloc_of_some lives⟩
  · intro first second address slot slot'
    by_cases one : first = owner <;> by_cases two : second = owner
    · rw [one, two]
    · subst one
      rw [Function.update_self, Option.some.injEq] at slot
      rw [Function.update_of_ne two] at slot'
      exact absurd (older second address slot') (by omega)
    · subst two
      rw [Function.update_self, Option.some.injEq] at slot'
      rw [Function.update_of_ne one] at slot
      exact absurd (older first address slot) (by omega)
    · rw [Function.update_of_ne one] at slot
      rw [Function.update_of_ne two] at slot'
      exact owned.apart first second address slot slot'
  · funext other
    by_cases same : other = owner
    · subst same
      rw [shown, Function.update_self, Function.update_self, Option.bind_some, get?_alloc_self]
    · rw [shown, Function.update_of_ne same, Function.update_of_ne same, shown]
      cases slot : slots other with
      | none => rfl
      | some address => exact get?_alloc_of_lt (older other address slot)

theorem Owned.write (owned : Owned slots heap) (slot : slots owner = some address) (value : α) :
    Owned slots (heap.set address (some value)) ∧
      shown slots (heap.set address (some value)) =
        Function.update (shown slots heap) owner (some value) := by
  obtain ⟨old, lives⟩ := owned.alive owner address slot
  refine ⟨⟨?_, owned.apart⟩, ?_⟩
  · intro other place found
    exact (exists_get?_set lives).mpr (owned.alive other place found)
  · funext other
    by_cases same : other = owner
    · subst same
      rw [shown, slot, Option.bind_some, get?_set_self _ lives, Function.update_self]
    · rw [Function.update_of_ne same, shown, shown]
      cases found : slots other with
      | none => rfl
      | some place =>
        refine get?_set_of_ne _ ?_
        rintro rfl
        exact same (owned.apart other owner place found slot)

/-- An owner that gives up its object leaves the objects of the others. -/
theorem Owned.clear (owned : Owned slots heap) (owner : β) :
    Owned (Function.update slots owner none) heap ∧
      shown (Function.update slots owner none) heap =
        Function.update (shown slots heap) owner none := by
  have kept : ∀ other address, Function.update slots owner none other = some address →
      slots other = some address := by
    intro other address slot
    by_cases same : other = owner
    · subst same
      rw [Function.update_self] at slot
      cases slot
    · rwa [Function.update_of_ne same] at slot
  refine ⟨⟨?_, ?_⟩, ?_⟩
  · intro other address slot
    exact owned.alive other address (kept other address slot)
  · intro first second address slot slot'
    exact owned.apart first second address (kept first address slot) (kept second address slot')
  · funext other
    by_cases same : other = owner
    · subst same
      rw [shown, Function.update_self, Function.update_self]
      rfl
    · rw [shown, Function.update_of_ne same, Function.update_of_ne same, shown]

/-- The object of an owner is deleted. -/
theorem Owned.delete (owned : Owned slots heap) (slot : slots owner = some address) :
    Owned (Function.update slots owner none) (heap.set address none) ∧
      shown (Function.update slots owner none) (heap.set address none) =
        Function.update (shown slots heap) owner none := by
  obtain ⟨cleared, seen⟩ := owned.clear owner
  have different : ∀ other place, Function.update slots owner none other = some place →
      place ≠ address := by
    rintro other place found rfl
    by_cases same : other = owner
    · rw [same, Function.update_self] at found
      cases found
    · rw [Function.update_of_ne same] at found
      exact same (owned.apart other owner place found slot)
  refine ⟨⟨fun other place found => ?_, cleared.apart⟩, ?_⟩
  · rw [get?_set_of_ne none (different other place found)]
    exact cleared.alive other place found
  · rw [← seen]
    funext other
    rw [shown, shown]
    cases found : Function.update slots owner none other with
    | none => rfl
    | some place => exact get?_set_of_ne none (different other place found)

/-- The object of an owner goes to another. -/
theorem Owned.move (owned : Owned slots heap) (target source : β) :
    Owned (Function.update (Function.update slots target (slots source)) source none) heap ∧
      shown (Function.update (Function.update slots target (slots source)) source none) heap =
        Function.update (Function.update (shown slots heap) target (shown slots heap source))
          source none := by
  have origin : ∀ other place,
      Function.update (Function.update slots target (slots source)) source none other =
        some place →
      other = target ∧ slots source = some place ∨ other ≠ target ∧ slots other = some place := by
    intro other place found
    by_cases taken : other = source
    · rw [taken, Function.update_self] at found
      cases found
    · rw [Function.update_of_ne taken] at found
      by_cases given : other = target
      · rw [given, Function.update_self] at found
        exact .inl ⟨given, found⟩
      · rw [Function.update_of_ne given] at found
        exact .inr ⟨given, found⟩
  have kept : ∀ other place,
      Function.update (Function.update slots target (slots source)) source none other =
        some place → other ≠ source := by
    rintro other place found rfl
    rw [Function.update_self] at found
    cases found
  refine ⟨⟨?_, ?_⟩, ?_⟩
  · intro other place found
    obtain ⟨-, slot⟩ | ⟨-, slot⟩ := origin other place found
    · exact owned.alive source place slot
    · exact owned.alive other place slot
  · intro first second place found found'
    obtain ⟨one, slot⟩ | ⟨-, slot⟩ := origin first place found <;>
      obtain ⟨two, slot'⟩ | ⟨-, slot'⟩ := origin second place found'
    · exact one.trans two.symm
    · exact absurd (owned.apart second source place slot' slot) (kept second place found')
    · exact absurd (owned.apart first source place slot slot') (kept first place found)
    · exact owned.apart first second place slot slot'
  · funext other
    rw [shown]
    by_cases taken : other = source
    · rw [taken, Function.update_self, Function.update_self, Option.bind_none]
    · rw [Function.update_of_ne taken, Function.update_of_ne taken]
      by_cases given : other = target
      · rw [given, Function.update_self, Function.update_self, shown]
      · rw [Function.update_of_ne given, Function.update_of_ne given, shown]

/-- Besides, every living object has an owner. -/
structure Held (slots : β → Option Nat) (heap : Heap α) : Prop extends Owned slots heap where
  held : ∀ address, heap.get? address ≠ none → ∃ owner, slots owner = some address

theorem Held.alloc (holds : Held slots heap) (free : slots owner = none) (value : α) :
    Held (Function.update slots owner (some heap.next)) (heap.alloc value) := by
  refine ⟨(holds.toOwned.update_alloc owner value).1, fun place lives => ?_⟩
  obtain rfl | older := eq_or_ne place heap.next
  · exact ⟨owner, Function.update_self ..⟩
  · rw [get?_alloc_of_ne older] at lives
    obtain ⟨other, slot⟩ := holds.held place lives
    refine ⟨other, ?_⟩
    rwa [Function.update_of_ne (by rintro rfl; rw [free] at slot; cases slot)]

theorem Held.delete (holds : Held slots heap) (slot : slots owner = some address) :
    Held (Function.update slots owner none) (heap.set address none) := by
  refine ⟨(holds.toOwned.delete slot).1, fun place lives => ?_⟩
  obtain ⟨old, alive⟩ := holds.alive owner address slot
  have different : place ≠ address := by
    rintro rfl
    exact lives (get?_set_self none alive)
  rw [get?_set_of_ne none different] at lives
  obtain ⟨other, found⟩ := holds.held place lives
  refine ⟨other, ?_⟩
  rwa [Function.update_of_ne]
  rintro rfl
  exact different (Option.some.inj (found.symm.trans slot))

theorem Held.move (holds : Held slots heap) {target : β} (source : β)
    (free : slots target = none) :
    Held (Function.update (Function.update slots target (slots source)) source none) heap := by
  refine ⟨(holds.toOwned.move target source).1, fun place lives => ?_⟩
  obtain ⟨other, slot⟩ := holds.held place lives
  obtain rfl | different := eq_or_ne other source
  · refine ⟨target, ?_⟩
    have apart : target ≠ other := by
      rintro rfl
      rw [free] at slot
      cases slot
    rw [Function.update_of_ne apart, Function.update_self, slot]
  · refine ⟨other, ?_⟩
    have apart : other ≠ target := by
      rintro rfl
      rw [free] at slot
      cases slot
    rw [Function.update_of_ne different, Function.update_of_ne apart, slot]

end

end Heap

end Heaps
