import Mathlib
import SnippetMarkup.Proofs.Text.Cut
import SnippetMarkup.Proofs.Text.Trim
import SnippetMarkup.Text.Indent

/-!
# Moving lines to the right

The indentation that lines share is taken off, so it does not matter how far they are indented
together.  Lines that are moved all by the same width lose that width with the indentation that they
share, as long as one of them has visible text to measure it by.
-/

namespace SnippetMarkup.Text

open Unicode (isSpace)

/-! ## Lines that are moved -/

/-- A line that has been moved to the right by a width. -/
structure Deeper (width : Nat) (line moved : Text) : Prop where
  blank : isBlank moved = isBlank line
  indentation : isBlank line = false →
    Text.indentation moved = width + Text.indentation line
  /-- What is left when the width and more is taken off. -/
  drop (count : Nat) : moved.drop (width + count) = line.drop count

section Moved

variable {width : Nat} {move : Text → Text} {lines : List Text}

theorem dropBlankFirst_map (blank : ∀ line ∈ lines, isBlank (move line) = isBlank line) :
    dropBlankFirst (lines.map move) = (dropBlankFirst lines).map move := by
  cases lines with
  | nil => rfl
  | cons first rest =>
    rw [List.map_cons, dropBlankFirst, dropBlankFirst, blank first List.mem_cons_self]
    split <;> rfl

theorem dropBlankLast_map (blank : ∀ line ∈ lines, isBlank (move line) = isBlank line) :
    dropBlankLast (lines.map move) = (dropBlankLast lines).map move := by
  rw [dropBlankLast, ← List.map_reverse, dropBlankFirst_map, ← List.map_reverse, dropBlankLast]
  exact fun line member => blank line (List.mem_reverse.1 member)

theorem dropBlankFirst_subset (lines : List Text) : dropBlankFirst lines ⊆ lines := by
  cases lines with
  | nil => exact List.Subset.refl _
  | cons first rest =>
    rw [dropBlankFirst]
    split
    · exact List.subset_cons_self first rest
    · exact List.Subset.refl _

theorem dropBlankLast_subset (lines : List Text) : dropBlankLast lines ⊆ lines :=
  fun _ member => List.mem_reverse.1 (dropBlankFirst_subset _ (List.mem_reverse.1 member))

/-- The indentations of the lines with visible text. -/
def indentations (lines : List Text) : List Nat :=
  (lines.filter fun line => !isBlank line).map indentation

theorem commonIndentation_eq (lines : List Text) :
    commonIndentation lines =
      match indentations lines with
      | [] => 0
      | first :: rest => rest.foldl min first := rfl

theorem indentations_ne_nil (shown : ∃ line ∈ lines, isBlank line = false) :
    indentations lines ≠ [] := by
  obtain ⟨line, member, visible⟩ := shown
  have listed : indentation line ∈ indentations lines :=
    List.mem_map_of_mem (List.mem_filter.2 ⟨member, by simp [visible]⟩)
  exact List.ne_nil_of_mem listed

theorem indentations_map (deeper : ∀ line ∈ lines, Deeper width line (move line)) :
    indentations (lines.map move) = (indentations lines).map (width + ·) := by
  induction lines with
  | nil => rfl
  | cons line rest ih =>
    rw [List.forall_mem_cons] at deeper
    have others := ih deeper.2
    unfold indentations at others ⊢
    rw [List.map_cons, List.filter_cons, List.filter_cons, deeper.1.blank]
    cases visible : isBlank line with
    | true => exact others
    | false =>
      simp only [Bool.not_false, if_true, List.map_cons, others, deeper.1.indentation visible]

theorem commonIndentation_map (deeper : ∀ line ∈ lines, Deeper width line (move line))
    (shown : ∃ line ∈ lines, isBlank line = false) :
    commonIndentation (lines.map move) = width + commonIndentation lines := by
  rw [commonIndentation_eq, commonIndentation_eq, indentations_map deeper]
  obtain ⟨first, rest, measured⟩ := List.exists_cons_of_ne_nil (indentations_ne_nil shown)
  rw [measured, List.map_cons]
  dsimp only
  rw [List.foldl_map]
  exact List.foldl_hom (width + ·) fun least depth => Nat.add_min_add_left width least depth

/-- Lines that are moved by the same width are the same lines without the indentation that they
share. -/
theorem trimIndentLines_map (deeper : ∀ line ∈ lines, Deeper width line (move line))
    (shown : ∃ line ∈ lines, isBlank line = false) :
    trimIndentLines (lines.map move) = trimIndentLines lines := by
  have blank (line : Text) (member : line ∈ dropBlankFirst lines) :
      isBlank (move line) = isBlank line :=
    (deeper line (dropBlankFirst_subset lines member)).blank
  rw [trimIndentLines, trimIndentLines, commonIndentation_map deeper shown,
    dropBlankFirst_map fun line member => (deeper line member).blank, dropBlankLast_map blank,
    List.map_map]
  refine List.map_congr_left fun line member => ?_
  exact (deeper line (dropBlankFirst_subset _ (dropBlankLast_subset _ member))).drop _

end Moved

/-! ## Lines with white space in front -/

/-- Whether a text begins with something visible. -/
def startsVisible (text : Text) : Bool := text.head?.any fun c => !isSpace c

theorem exists_cons_of_startsVisible {text : Text} (visible : startsVisible text = true) :
    ∃ first others, text = first :: others ∧ isSpace first = false := by
  cases text with
  | nil => simp [startsVisible] at visible
  | cons first others => exact ⟨first, others, rfl, by simpa [startsVisible] using visible⟩

section Indented

variable {space line : Text}

theorem deeper_append (blank : isBlank space) (line : Text) :
    Deeper space.length line (space ++ line) where
  blank := by rw [isBlank_append, blank, Bool.true_and]
  indentation _ := by
    rw [indentation, List.takeWhile_append_of_pos (List.all_eq_true.1 blank), List.length_append,
      indentation]
  drop count := List.drop_length_add_append count

/-- A line with white space in front of what is visible of it. -/
def indent (space line : Text) : Text := trimRight (space ++ line)

theorem indent_of_isBlank (blank : isBlank space) (nothing : isBlank line) :
    indent space line = [] := by
  rw [indent, trimRight_eq_nil_iff, isBlank_append, blank, nothing, Bool.and_self]

theorem indent_of_visible (visible : isBlank line = false) (trimmed : trimRight line = line) :
    indent space line = space ++ line := by
  rw [indent, trimRight_append_of_visible visible, trimmed]

theorem isBlank_indent (blank : isBlank space) (line : Text) :
    isBlank (indent space line) = isBlank line := by
  rw [indent, isBlank_trimRight, isBlank_append, blank, Bool.true_and]

theorem deeper_indent (blank : isBlank space) (trimmed : trimRight line = line) :
    Deeper space.length line (indent space line) := by
  cases nothing : isBlank line with
  | false =>
    rw [indent_of_visible nothing trimmed]
    exact deeper_append blank line
  | true =>
    obtain rfl : line = [] := by rw [← trimmed, trimRight_eq_nil_iff, nothing]
    rw [indent_of_isBlank blank nothing]
    exact ⟨rfl, fun visible => by simp [nothing] at visible, fun count => by simp⟩

/-- What does the same behind white space as without it does the same to an indented line, up to white
space at the end. -/
theorem trimRight_indent (act : Text → Text) (append : ∀ line, act (space ++ line) = space ++ act line)
    (nil : act [] = []) (blank : isBlank space) (trimmed : trimRight line = line) :
    trimRight (act (indent space line)) = indent space (trimRight (act line)) := by
  cases nothing : isBlank line with
  | true =>
    obtain rfl : line = [] := by rw [← trimmed, trimRight_eq_nil_iff, nothing]
    rw [indent_of_isBlank blank nothing, nil, indent_of_isBlank blank rfl]
    rfl
  | false =>
    rw [indent_of_visible nothing trimmed, append, indent, trimRight_append_trimRight]

theorem trimIndentLines_indent {lines : List Text} (blank : isBlank space)
    (trimmed : ∀ line ∈ lines, trimRight line = line) :
    trimIndentLines (lines.map (indent space)) = trimIndentLines lines := by
  by_cases shown : ∃ line ∈ lines, isBlank line = false
  · exact trimIndentLines_map (fun line member => deeper_indent blank (trimmed line member)) shown
  · -- Without visible text there is nothing to indent.
    have same : lines.map (indent space) = lines := by
      conv_rhs => rw [← List.map_id lines]
      refine List.map_congr_left fun line member => ?_
      have nothing : isBlank line := by
        by_contra visible
        exact shown ⟨line, member, by simpa using visible⟩
      rw [indent_of_isBlank blank nothing, id, ← trimmed line member, eq_comm,
        trimRight_eq_nil_iff]
      exact nothing
    rw [same]

/-- The text of some lines is the same if they are all indented by the same white space. -/
theorem trimIndent_indent {lines : List Text} (blank : isBlank space) (spaceOneLine : '\n' ∉ space)
    (trimmed : ∀ line ∈ lines, trimRight line = line) (oneLine : ∀ line ∈ lines, '\n' ∉ line) :
    trimIndent (joinLines (lines.map (indent space))) = trimIndent (joinLines lines) := by
  cases lines with
  | nil => rfl
  | cons first rest =>
    have movedOneLine : ∀ moved ∈ (first :: rest).map (indent space), '\n' ∉ moved := by
      intro moved member
      obtain ⟨line, inside, rfl⟩ := List.mem_map.1 member
      intro broken
      rcases List.mem_append.1 (trimRight_subset _ broken) with front | behind
      · exact spaceOneLine front
      · exact oneLine line inside behind
    rw [trimIndent, trimIndent, splitLines_joinLines (by simp) movedOneLine,
      splitLines_joinLines (by simp) oneLine, trimIndentLines_indent blank trimmed]

end Indented

end SnippetMarkup.Text
