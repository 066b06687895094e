import Mathlib
import SnippetMarkup.Text.Basic

/-!
# Cutting texts

A text can be cut at the first occurrence of a character, where a run of characters ends, into
lines, and at the occurrences of another text.  What has been cut can be put together again, and
what has been put together can be cut where it was joined.
-/

namespace SnippetMarkup.Text

/-! ## At a character -/

theorem splitFirst?_append_mark {mark : Char} {front : Text} (unmarked : mark ∉ front)
    (rest : Text) : splitFirst? mark (front ++ mark :: rest) = some (front, rest) := by
  induction front with
  | nil => simp [splitFirst?]
  | cons c front ih =>
    rw [List.mem_cons, not_or] at unmarked
    obtain ⟨other, unmarked⟩ := unmarked
    rw [List.cons_append, splitFirst?, if_neg (Ne.symm other), ih unmarked, Option.map_some]

theorem splitFirst?_eq_some_iff {mark : Char} {text front rest : Text} :
    splitFirst? mark text = some (front, rest) ↔ mark ∉ front ∧ text = front ++ mark :: rest := by
  constructor
  · intro cut
    induction text generalizing front with
    | nil => simp [splitFirst?] at cut
    | cons c text ih =>
      rw [splitFirst?] at cut
      split at cut
      · next here =>
        cases cut
        exact ⟨List.not_mem_nil, by rw [here, List.nil_append]⟩
      · next other =>
        obtain ⟨⟨before, after⟩, later, same⟩ := Option.map_eq_some_iff.1 cut
        cases same
        obtain ⟨unmarked, rfl⟩ := ih later
        exact ⟨List.not_mem_cons_of_ne_of_not_mem (Ne.symm other) unmarked, rfl⟩
  · rintro ⟨unmarked, rfl⟩
    exact splitFirst?_append_mark unmarked rest

/-! ## Where a run ends -/

/-- A run within a text ends there, or in front of a character that is none of the run. -/
theorem takeWhile_append_of_stop {p : Char → Bool} {rest : Text}
    (stops : ∀ c ∈ rest.head?, p c = false) (text : Text) :
    (text ++ rest).takeWhile p = text.takeWhile p ∧
      (text ++ rest).dropWhile p = text.dropWhile p ++ rest := by
  induction text with
  | nil =>
    cases rest with
    | nil => simp
    | cons c rest => simp [stops c rfl]
  | cons c text ih => cases held : p c <;> simp [held, ih]

theorem takeWhile_append_of_head {p : Char → Bool} {text rest : Text}
    (taken : ∀ c ∈ text, p c = true) (stops : ∀ c ∈ rest.head?, p c = false) :
    (text ++ rest).takeWhile p = text ∧ (text ++ rest).dropWhile p = rest := by
  obtain ⟨took, left⟩ := takeWhile_append_of_stop stops text
  rw [took, left, List.takeWhile_eq_self_iff.2 taken, List.dropWhile_eq_nil_iff.2 taken]
  exact ⟨rfl, rfl⟩

/-! ## Into lines -/

theorem splitLines_eq_splitOn (text : Text) : splitLines text = text.splitOn '\n' := by
  rw [List.splitOn_eq_splitOnP]
  induction text with
  | nil => rfl
  | cons c rest ih =>
    rw [splitLines, List.splitOnP_cons_eq_if_modifyHead, ih]
    simp only [beq_iff_eq]
    split
    · rfl
    · obtain ⟨first, others, cut⟩ :=
        List.exists_cons_of_ne_nil (List.splitOnP_ne_nil (· == '\n') rest)
      rw [cut]
      rfl

theorem joinLines_cons (line : Text) {lines : List Text} (some : lines ≠ []) :
    joinLines (line :: lines) = line ++ '\n' :: joinLines lines := by
  obtain ⟨next, others, rfl⟩ := List.exists_cons_of_ne_nil some
  rw [joinLines, List.intercalate_cons_cons, List.append_assoc]
  rfl

theorem splitLines_joinLines {lines : List Text} (some : lines ≠ [])
    (oneLine : ∀ line ∈ lines, '\n' ∉ line) : splitLines (joinLines lines) = lines := by
  rw [splitLines_eq_splitOn]
  exact List.splitOn_intercalate '\n' oneLine some

theorem splitLines_ne_nil (text : Text) : splitLines text ≠ [] := by
  rw [splitLines_eq_splitOn, List.splitOn_eq_splitOnP]
  exact List.splitOnP_ne_nil _ text

theorem joinLines_splitLines (text : Text) : joinLines (splitLines text) = text := by
  rw [splitLines_eq_splitOn]
  exact List.intercalate_splitOn '\n'

theorem oneLine_of_mem_splitLines {text line : Text} (member : line ∈ splitLines text) :
    '\n' ∉ line := by
  induction text generalizing line with
  | nil => simp [List.mem_singleton.1 member]
  | cons c rest ih =>
    rw [splitLines] at member
    split at member
    · rcases List.mem_cons.1 member with rfl | later
      · exact List.not_mem_nil
      · exact ih later
    · next other =>
      obtain ⟨first, others, cut⟩ := List.exists_cons_of_ne_nil (splitLines_ne_nil rest)
      rw [cut, consHead] at member
      rw [cut] at ih
      rcases List.mem_cons.1 member with rfl | later
      · rw [List.mem_cons, not_or]
        exact ⟨Ne.symm other, ih List.mem_cons_self⟩
      · exact ih (List.mem_cons_of_mem first later)

/-! ## At the occurrences of a text -/

section Occurrences

variable (part : Text)

theorem intercalate_consHead (c : Char) (pieces : List Text) :
    List.intercalate part (consHead c pieces) = c :: List.intercalate part pieces := by
  match pieces with
  | [] => rfl
  | [first] => simp [consHead]
  | first :: second :: rest => simp [consHead]

theorem cutAt_ne_nil (text : Text) : cutAt part text ≠ [] := by
  have headed (c : Char) (pieces : List Text) : consHead c pieces ≠ [] := by
    cases pieces <;> simp [consHead]
  unfold cutAt
  split
  · split <;> simp
  · split
    · simp
    · split
      · simp
      · exact headed _ _

/-- A part in front of some pieces. -/
theorem intercalate_nil_cons {pieces : List Text} (some : pieces ≠ []) :
    List.intercalate part ([] :: pieces) = part ++ List.intercalate part pieces := by
  obtain ⟨first, rest, rfl⟩ := List.exists_cons_of_ne_nil some
  rw [List.intercalate_cons_cons, List.nil_append]

/-- Where a text was cut, it can be put together again. -/
theorem intercalate_cutAt (text : Text) : List.intercalate part (cutAt part text) = text := by
  fun_induction cutAt part text with
  | case1 empty => simp [empty]
  | case2 => simp
  | case3 c rest empty ih =>
    rw [intercalate_nil_cons]
    · rw [intercalate_consHead, ih, empty, List.nil_append]
    · cases cutAt part rest <;> simp [consHead]
  | case4 c rest given occurs ih =>
    -- The part occurs here, and the text is cut further behind it.
    obtain ⟨d, others, rfl⟩ := List.exists_cons_of_ne_nil given
    obtain ⟨behind, rfl, rfl⟩ : ∃ behind, d = c ∧ rest = others ++ behind := by
      obtain ⟨behind, same⟩ := List.isPrefixOf_iff_prefix.1 occurs
      exact ⟨behind, (List.cons.inj same).1, (List.cons.inj same).2.symm⟩
    rw [intercalate_nil_cons _ (cutAt_ne_nil _ _), ih]
    simp
  | case5 c rest given absent ih => rw [intercalate_consHead, ih]

/-- A text in which a part cannot begin is not cut. -/
theorem cutAt_of_notMem {first : Char} (others : Text) {text : Text} (free : first ∉ text) :
    cutAt (first :: others) text = [text] := by
  induction text with
  | nil => simp [cutAt]
  | cons c rest ih =>
    rw [List.mem_cons, not_or] at free
    have absent : ¬(first :: others).isPrefixOf (c :: rest) := by
      simp [List.isPrefixOf, free.1]
    rw [cutAt, if_neg (List.cons_ne_nil _ _), if_neg absent, ih free.2, consHead]

/-- In front of where a part can begin, nothing is replaced. -/
theorem replaceAll_append {first : Char} {others : Text} (replacement : Text) {front : Text}
    (free : first ∉ front) (text : Text) :
    replaceAll (first :: others) replacement (front ++ text) =
      front ++ replaceAll (first :: others) replacement text := by
  induction front with
  | nil => rfl
  | cons c front ih =>
    rw [List.mem_cons, not_or] at free
    have absent : ¬(first :: others).isPrefixOf (c :: (front ++ text)) := by
      simp [List.isPrefixOf, free.1]
    rw [List.cons_append, List.cons_append, ← ih free.2, replaceAll, replaceAll, cutAt,
      if_neg (List.cons_ne_nil _ _), if_neg absent, intercalate_consHead]

end Occurrences

end SnippetMarkup.Text
