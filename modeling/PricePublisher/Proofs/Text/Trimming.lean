import Mathlib.Data.List.TakeWhile
import PricePublisher.Text.Blank

/-!
# What trimming leaves

Trimming splits a text into blanks, the part that is left, and blanks again.  A part without
blanks is left as it is, whatever blanks surround it.
-/

namespace PricePublisher.Text

variable {characters front core back : List Char}

theorem exists_eq_append_trimChars (characters : List Char) :
    ∃ front back, characters = front ++ trimChars characters ++ back ∧
      (∀ character ∈ front, isBlank character = true) ∧
      ∀ character ∈ back, isBlank character = true := by
  let rest := (characters.dropWhile isBlank).reverse
  refine ⟨characters.takeWhile isBlank, (rest.takeWhile isBlank).reverse, ?_, ?_, ?_⟩
  · calc
      characters = characters.takeWhile isBlank ++ rest.reverse := by
        rw [List.reverse_reverse, List.takeWhile_append_dropWhile]
      _ = characters.takeWhile isBlank ++
          (rest.takeWhile isBlank ++ rest.dropWhile isBlank).reverse := by
        rw [List.takeWhile_append_dropWhile]
      _ = _ := by
        rw [List.reverse_append, List.append_assoc]
        rfl
  · exact List.all_eq_true.mp List.all_takeWhile
  · intro character member
    exact List.all_eq_true.mp List.all_takeWhile character (List.mem_reverse.mp member)

/-- Nothing is dropped in front of a visible character. -/
theorem dropWhile_of_visible (visible : ∀ character ∈ core, isBlank character = false)
    (nonempty : core ≠ []) (back : List Char) :
    (core ++ back).dropWhile isBlank = core ++ back := by
  cases core with
  | nil => exact absurd rfl nonempty
  | cons first rest =>
      exact List.dropWhile_cons_of_neg (Bool.eq_false_iff.mp (visible first List.mem_cons_self))

theorem trimChars_append (frontBlank : ∀ character ∈ front, isBlank character = true)
    (visible : ∀ character ∈ core, isBlank character = false)
    (backBlank : ∀ character ∈ back, isBlank character = true) :
    trimChars (front ++ core ++ back) = core := by
  have backReversed : ∀ character ∈ back.reverse, isBlank character = true := fun _ member =>
    backBlank _ (List.mem_reverse.mp member)
  have visibleReversed : ∀ character ∈ core.reverse, isBlank character = false :=
    fun _ member => visible _ (List.mem_reverse.mp member)
  rw [trimChars, List.append_assoc, List.dropWhile_append_of_pos frontBlank]
  by_cases empty : core = []
  · have dropped : back.dropWhile isBlank = [] := List.dropWhile_eq_nil_iff.mpr backBlank
    rw [empty, List.nil_append, dropped]
    rfl
  · have kept := dropWhile_of_visible visibleReversed (mt List.reverse_eq_nil_iff.mp empty) []
    rw [List.append_nil] at kept
    rw [dropWhile_of_visible visible empty, List.reverse_append,
      List.dropWhile_append_of_pos backReversed, kept, List.reverse_reverse]

theorem trimChars_of_visible (visible : ∀ character ∈ core, isBlank character = false) :
    trimChars core = core := by
  have trimmed : trimChars ([] ++ core ++ []) = core :=
    trimChars_append (List.forall_mem_nil _) visible (List.forall_mem_nil _)
  rwa [List.nil_append, List.append_nil] at trimmed

theorem trimChars_eq_nil_iff :
    trimChars characters = [] ↔ ∀ character ∈ characters, isBlank character = true := by
  constructor
  · intro trimmed
    obtain ⟨front, back, split, frontBlank, backBlank⟩ := exists_eq_append_trimChars characters
    rw [trimmed, List.append_nil] at split
    rw [split]
    exact List.forall_mem_append.mpr ⟨frontBlank, backBlank⟩
  · intro blank
    have nothing : trimChars (characters ++ [] ++ []) = [] :=
      trimChars_append blank (List.forall_mem_nil _) (List.forall_mem_nil _)
    rwa [List.append_nil, List.append_nil] at nothing

theorem trim_eq_empty_iff {text : String} : trim text = "" ↔ isBlankText text = true := by
  rw [trim, isBlankText, List.all_eq_true, ← trimChars_eq_nil_iff, ← String.ofList_nil,
    String.ofList_inj]

end PricePublisher.Text
