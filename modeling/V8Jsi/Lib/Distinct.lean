import Mathlib.Data.List.Nodup

set_option autoImplicit false

/- Keeping what has not come before. -/
namespace Distinct

variable {α β : Type} [DecidableEq α] [DecidableEq β]

/-- The elements of the list that are not seen yet, where they occur first. -/
def unseen (seen : List α) : List α → List α
  | [] => []
  | head :: rest =>
      if head ∈ seen then unseen seen rest else head :: unseen (seen ++ [head]) rest

theorem mem_unseen (list : List α) : ∀ (seen : List α) (element : α),
    element ∈ unseen seen list ↔ element ∈ list ∧ element ∉ seen := by
  induction list with
  | nil =>
    intro seen element
    simp [unseen]
  | cons head rest ih =>
    intro seen element
    rw [unseen]
    split
    · rename_i before
      rw [ih, List.mem_cons]
      constructor
      · rintro ⟨inside, new⟩
        exact ⟨.inr inside, new⟩
      · rintro ⟨rfl | inside, new⟩
        · exact absurd before new
        · exact ⟨inside, new⟩
    · rename_i first
      rw [List.mem_cons, ih, List.mem_cons, List.mem_append, List.mem_singleton]
      by_cases same : element = head
      · subst same
        simp [first]
      · simp [same]

theorem nodup_append_unseen (list : List α) : ∀ seen : List α, seen.Nodup →
    (seen ++ unseen seen list).Nodup := by
  induction list with
  | nil =>
    intro seen nodup
    rw [unseen, List.append_nil]
    exact nodup
  | cons head rest ih =>
    intro seen nodup
    rw [unseen]
    split
    · exact ih seen nodup
    · rename_i first
      have longer := ih (seen ++ [head]) (List.nodup_append.mpr ⟨nodup, by simp, by
        intro element inside other here
        rw [List.mem_singleton] at here
        rw [here]
        rintro rfl
        exact first inside⟩)
      rwa [List.append_assoc, List.singleton_append] at longer

/-- Taking the images of what is new gives the new images, when equal images come from
equal elements. -/
theorem map_unseen (f : α → β) (list : List α) : ∀ seen : List α,
    (∀ first ∈ seen ++ list, ∀ second ∈ list, f first = f second → first = second) →
    (unseen seen list).map f = unseen (seen.map f) (list.map f) := by
  induction list with
  | nil =>
    intro seen injective
    rfl
  | cons head rest ih =>
    intro seen injective
    rw [List.map_cons, unseen, unseen]
    have seenIff : f head ∈ seen.map f ↔ head ∈ seen := by
      constructor
      · intro image
        obtain ⟨element, inside, same⟩ := List.mem_map.mp image
        have equal := injective element (by simp [inside]) head (by simp) same
        rwa [← equal]
      · exact List.mem_map_of_mem
    by_cases before : head ∈ seen
    · rw [if_pos before, if_pos (seenIff.mpr before)]
      refine ih seen fun first firstInside second secondInside => ?_
      refine injective first ?_ second (List.mem_cons_of_mem head secondInside)
      rcases List.mem_append.mp firstInside with inside | inside
      · exact List.mem_append_left _ inside
      · exact List.mem_append_right _ (List.mem_cons_of_mem head inside)
    · rw [if_neg before, if_neg fun image => before (seenIff.mp image), List.map_cons,
        ih (seen ++ [head]), List.map_append, List.map_singleton]
      intro first firstInside second secondInside
      refine injective first ?_ second (List.mem_cons_of_mem head secondInside)
      rwa [List.append_assoc, List.singleton_append] at firstInside

end Distinct
