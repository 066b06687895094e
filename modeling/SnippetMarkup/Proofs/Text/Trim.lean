import Mathlib
import SnippetMarkup.Text.Basic

/-!
# Trimming

White space at the end of a text is trimmed once and for all.  In a text of two parts, trimming
the start stays within the first part unless that is blank.
-/

namespace SnippetMarkup.Text

open Unicode (isSpace)

variable (text : Text)

theorem trimRight_eq_rdropWhile : trimRight text = List.rdropWhile isSpace text := rfl

@[simp] theorem trimRight_trimRight : trimRight (trimRight text) = trimRight text :=
  List.rdropWhile_idempotent ..

theorem trimRight_eq_nil_iff : trimRight text = [] ↔ isBlank text = true := by
  rw [trimRight_eq_rdropWhile, List.rdropWhile_eq_nil_iff, isBlank, List.all_eq_true]

theorem trimRight_eq_nil_of_isBlank (blank : isBlank (trimRight text) = true) :
    trimRight text = [] := by
  rw [← trimRight_trimRight, trimRight_eq_nil_iff]
  exact blank

variable {text} {rest : Text}

theorem trimRight_append_of_isBlank (blank : isBlank rest = true) :
    trimRight (text ++ rest) = trimRight text := by
  rw [isBlank, List.all_eq_true] at blank
  rw [trimRight, List.reverse_append, List.dropWhile_append_of_pos, trimRight]
  exact fun c member => blank c (List.mem_reverse.1 member)

/-- Trimming the end of a text stays within its last part if that is not blank. -/
theorem trimRight_append_of_visible (visible : isBlank rest = false) :
    trimRight (text ++ rest) = text ++ trimRight rest := by
  have shown : rest.reverse.dropWhile isSpace ≠ [] := by
    rw [ne_eq, ← List.reverse_eq_nil_iff, ← trimRight, trimRight_eq_nil_iff, visible]
    simp
  rw [trimRight, List.reverse_append, List.dropWhile_append,
    if_neg (by rwa [List.isEmpty_iff]), List.reverse_append, List.reverse_reverse, trimRight]

/-- Trimming the end of a text stays within its last part if what is in front of it is trimmed. -/
theorem trimRight_append (trimmed : trimRight text = text) :
    trimRight (text ++ rest) = text ++ trimRight rest := by
  cases blank : isBlank rest with
  | true => rw [trimRight_append_of_isBlank blank, trimmed, (trimRight_eq_nil_iff rest).2 blank,
      List.append_nil]
  | false => exact trimRight_append_of_visible blank

theorem trimRight_drop (trimmed : trimRight text = text) (place : Nat) :
    trimRight (text.drop place) = text.drop place := by
  rw [trimRight_eq_rdropWhile, List.rdropWhile_eq_self_iff] at trimmed ⊢
  intro some
  rw [List.getLast_drop]
  exact trimmed fun nothing => some (by rw [nothing, List.drop_nil])

theorem trimRight_of_suffix {part : Text} (trimmed : trimRight text = text)
    (suffix : part <:+ text) : trimRight part = part := by
  rw [List.suffix_iff_eq_drop.1 suffix]
  exact trimRight_drop trimmed _

/-- White space at the end of a trimmed text is none. -/
theorem eq_nil_of_suffix {part : Text} (trimmed : trimRight text = text) (suffix : part <:+ text)
    (blank : isBlank part = true) : part = [] := by
  rw [← trimRight_of_suffix trimmed suffix]
  exact (trimRight_eq_nil_iff part).2 blank

theorem exists_trimRight_append (text : Text) :
    ∃ space, isBlank space = true ∧ text = trimRight text ++ space := by
  refine ⟨List.rtakeWhile isSpace text, ?_, ?_⟩
  · rw [isBlank, List.all_eq_true]
    exact fun c member => List.mem_rtakeWhile_imp member
  · rw [trimRight_eq_rdropWhile, List.rdropWhile_append_rtakeWhile]

theorem trimRight_subset (text : Text) : trimRight text ⊆ text := by
  obtain ⟨space, -, parts⟩ := exists_trimRight_append text
  exact fun c member => parts ▸ List.mem_append_left space member

theorem trimRight_append_trimRight (text rest : Text) :
    trimRight (text ++ trimRight rest) = trimRight (text ++ rest) := by
  obtain ⟨space, blank, parts⟩ := exists_trimRight_append rest
  conv_rhs => rw [parts, ← List.append_assoc, trimRight_append_of_isBlank blank]

theorem isBlank_append (first second : Text) :
    isBlank (first ++ second) = (isBlank first && isBlank second) :=
  List.all_append

theorem isBlank_eq_false_iff : isBlank text = false ↔ ∃ c ∈ text, isSpace c = false := by
  rw [isBlank, List.all_eq_false]
  simp only [Bool.not_eq_true]

theorem visible_of_subset {part : Text} (within : part ⊆ text) (visible : isBlank part = false) :
    isBlank text = false := by
  obtain ⟨c, member, shown⟩ := isBlank_eq_false_iff.1 visible
  exact isBlank_eq_false_iff.2 ⟨c, within member, shown⟩

theorem isBlank_trimRight (text : Text) : isBlank (trimRight text) = isBlank text := by
  rw [Bool.eq_iff_iff, ← trimRight_eq_nil_iff, trimRight_trimRight, trimRight_eq_nil_iff]

theorem trimLeft_eq_nil_iff : trimLeft text = [] ↔ isBlank text = true := by
  rw [trimLeft, List.dropWhile_eq_nil_iff, isBlank, List.all_eq_true]

theorem trimLeft_append_of_isBlank (blank : isBlank text = true) :
    trimLeft (text ++ rest) = trimLeft rest :=
  List.dropWhile_append_of_pos (List.all_eq_true.1 blank)

theorem trimLeft_append_of_visible (visible : isBlank text = false) :
    trimLeft (text ++ rest) = trimLeft text ++ rest := by
  have shown : trimLeft text ≠ [] := by
    rw [ne_eq, trimLeft_eq_nil_iff, visible]
    simp
  rw [trimLeft, List.dropWhile_append, if_neg (by rwa [List.isEmpty_iff])]
  rfl

end SnippetMarkup.Text
