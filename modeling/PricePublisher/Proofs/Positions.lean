import Mathlib.Data.List.Count

/-!
# Items at positions

A step of a system changes one item of a list or puts one at its end.  This module
says what is found at a position afterwards, and by how much a sum or a count over
the items has changed.
-/

namespace PricePublisher.Positions

variable {α : Type} {items : List α} {item later : α} {position other : Nat}

/-- The new item is found at the end, and the others where they were. -/
theorem concat_cases {last : α} (found : (items ++ [last])[position]? = some item) :
    (position = items.length ∧ item = last) ∨ items[position]? = some item := by
  rcases Nat.lt_or_ge position items.length with inside | beyond
  · rw [List.getElem?_append_left inside] at found
    exact .inr found
  · rw [List.getElem?_append_right beyond, List.getElem?_singleton] at found
    obtain ⟨none, same⟩ := Option.ite_none_right_eq_some.mp found
    exact .inl ⟨Nat.le_antisymm (Nat.sub_eq_zero_iff_le.mp none) beyond,
      (Option.some.inj same).symm⟩

/-- What is found is the changed item, or another one that is as it was. -/
theorem modify_cases {change : α → α}
    (found : items[position]? = some item)
    (after : (items.modify position change)[other]? = some later) :
    (position = other ∧ later = change item) ∨
      (position ≠ other ∧ items[other]? = some later) := by
  by_cases same : position = other
  · subst same
    rw [List.getElem?_modify_eq, found] at after
    exact .inl ⟨rfl, (Option.some.inj after).symm⟩
  · rw [List.getElem?_modify_ne _ _ same] at after
    exact .inr ⟨same, after⟩

/-- What is found is the new item, or one that was there before. -/
theorem set_cases {new : α} (after : (items.set position new)[other]? = some later) :
    (position = other ∧ later = new) ∨ items[other]? = some later := by
  rw [List.getElem?_set] at after
  split at after
  next same =>
    obtain ⟨_, equal⟩ := Option.ite_none_right_eq_some.mp after
    exact .inl ⟨same, (Option.some.inj equal).symm⟩
  next => exact .inr after

/-- A sum over all items changes by as much as one of them does. -/
theorem foldr_set_add (measure : α → Nat) (found : items[position]? = some item) (new : α) :
    (items.set position new).foldr (fun item total => measure item + total) 0
        + measure item =
      items.foldr (fun item total => measure item + total) 0 + measure new := by
  induction items generalizing position with
  | nil => cases found
  | cons first rest induction =>
      cases position with
      | zero =>
          cases found
          simp only [List.set_cons_zero, List.foldr_cons]
          omega
      | succ position =>
          have later := @induction position found
          simp only [List.set_cons_succ, List.foldr_cons]
          omega

theorem foldr_modify_lt {measure : α → Nat} {change : α → α}
    (found : items[position]? = some item)
    (less : measure (change item) < measure item) :
    (items.modify position change).foldr (fun item total => measure item + total) 0 <
      items.foldr (fun item total => measure item + total) 0 := by
  have changed := foldr_set_add measure found (change item)
  rw [List.modify_eq_set_getElem?, found]
  change (items.set position (change item)).foldr _ 0 < _
  omega

/-- Replacing one item exchanges what stems from it. -/
theorem count_flatMap_set
    {β : Type} [BEq β] (parts : α → List β) (found : items[position]? = some item)
    (new : α) (part : β) :
    ((items.set position new).flatMap parts).count part + (parts item).count part =
      (items.flatMap parts).count part + (parts new).count part := by
  induction items generalizing position with
  | nil => cases found
  | cons first rest induction =>
      cases position with
      | zero =>
          cases found
          simp only [List.set_cons_zero, List.flatMap_cons, List.count_append]
          omega
      | succ position =>
          have later := @induction position found
          simp only [List.set_cons_succ, List.flatMap_cons, List.count_append]
          omega

/-- What stems from the items stems from their positions. -/
theorem flatMap_positions {β : Type} (parts : α → List β) (items : List α) :
    (List.range items.length).flatMap
        (fun index => (items[index]?).elim [] parts) =
      items.flatMap parts := by
  induction items with
  | nil => rfl
  | cons item rest induction =>
      rw [List.length_cons, List.range_succ_eq_map, List.flatMap_cons,
        List.flatMap_cons, List.flatMap_map, ← induction]
      simp

end PricePublisher.Positions
