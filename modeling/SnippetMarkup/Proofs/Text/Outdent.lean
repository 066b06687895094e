import Mathlib
import SnippetMarkup.Proofs.Text.Indent

/-!
# Taking off the shared indentation

What is taken off lines with the indentation that they share is white space only, and as much of it
as can be: of the lines that are left, one begins with something visible.  No line is taken off as a
whole but a blank first and a blank last one.
-/

namespace SnippetMarkup.Text

open Unicode (isSpace)

variable {lines : List Text} {line : Text} {count : Nat}

/-! ## Blank lines at the ends -/

theorem append_dropBlankFirst (lines : List Text) :
    lines = (lines.head?.filter isBlank).toList ++ dropBlankFirst lines := by
  cases lines with
  | nil => rfl
  | cons first rest =>
    cases blank : isBlank first <;> simp [dropBlankFirst, blank, Option.filter_some]

theorem dropBlankLast_append (lines : List Text) :
    lines = dropBlankLast lines ++ (lines.getLast?.filter isBlank).toList := by
  have mirrored := congrArg List.reverse (append_dropBlankFirst lines.reverse)
  rw [List.reverse_reverse, List.reverse_append, List.head?_reverse] at mirrored
  conv_lhs => rw [mirrored]
  rw [dropBlankLast]
  cases lines.getLast?.filter isBlank <;> rfl

theorem mem_dropBlankFirst (member : line ∈ lines) (visible : isBlank line = false) :
    line ∈ dropBlankFirst lines := by
  rw [append_dropBlankFirst lines, List.mem_append, Option.mem_toList] at member
  refine member.resolve_left fun first => ?_
  simp [(Option.filter_eq_some_iff.1 first).2] at visible

theorem mem_dropBlankLast (member : line ∈ lines) (visible : isBlank line = false) :
    line ∈ dropBlankLast lines :=
  List.mem_reverse.2 (mem_dropBlankFirst (List.mem_reverse.2 member) visible)

/-- Where something is to be seen, the first line and the last one are dropped each for itself. -/
theorem eq_append_dropBlank (shown : ∃ line ∈ lines, isBlank line = false) :
    lines = (lines.head?.filter isBlank).toList ++ dropBlankLast (dropBlankFirst lines) ++
      (lines.getLast?.filter isBlank).toList := by
  obtain ⟨line, member, visible⟩ := shown
  have left := List.ne_nil_of_mem (mem_dropBlankFirst member visible)
  have last : (dropBlankFirst lines).getLast? = lines.getLast? := by
    conv_rhs => rw [append_dropBlankFirst lines]
    rw [List.getLast?_append_of_ne_nil _ left]
  rw [List.append_assoc, ← last, ← dropBlankLast_append, ← append_dropBlankFirst]

/-! ## The least indentation -/

theorem mem_indentations_iff {depth : Nat} :
    depth ∈ indentations lines ↔ ∃ line ∈ lines, isBlank line = false ∧ indentation line = depth := by
  simp [indentations, and_assoc]

/-- The shared indentation is the least of all, if there is a line to measure it by. -/
theorem isLeast_commonIndentation (shown : ∃ line ∈ lines, isBlank line = false) :
    IsLeast {depth | ∃ line ∈ lines, isBlank line = false ∧ indentation line = depth}
      (commonIndentation lines) := by
  have least : (indentations lines).min? = some (commonIndentation lines) := by
    obtain ⟨first, rest, measured⟩ := List.exists_cons_of_ne_nil (indentations_ne_nil shown)
    rw [commonIndentation_eq, measured]
    rfl
  obtain ⟨attained, below⟩ := List.min?_eq_some_iff.1 least
  exact ⟨mem_indentations_iff.1 attained, fun depth measured =>
    below depth (mem_indentations_iff.2 measured)⟩

theorem isBlank_take (blank : isBlank line = true) : isBlank (line.take count) = true :=
  List.all_eq_true.2 fun c member => List.all_eq_true.1 blank c (List.mem_of_mem_take member)

/-- Within the indentation of a line is nothing but white space. -/
theorem isBlank_take_of_le_indentation (within : count ≤ indentation line) :
    isBlank (line.take count) = true := by
  have parts : line = line.takeWhile isSpace ++ line.dropWhile isSpace :=
    List.takeWhile_append_dropWhile.symm
  rw [parts, List.take_append_of_le_length within]
  exact isBlank_take (List.all_eq_true.2 fun c member => List.mem_takeWhile_imp member)

theorem drop_indentation (line : Text) : line.drop (indentation line) = trimLeft line := by
  have parts : line.takeWhile isSpace ++ trimLeft line = line := List.takeWhile_append_dropWhile
  calc line.drop (indentation line)
      = (line.takeWhile isSpace ++ trimLeft line).drop (line.takeWhile isSpace).length := by
        rw [parts, indentation]
    _ = trimLeft line := List.drop_left

/-- Behind its indentation a line begins with something visible, if it holds anything like that. -/
theorem startsVisible_drop_indentation (visible : isBlank line = false) :
    startsVisible (line.drop (indentation line)) = true := by
  have some : trimLeft line ≠ [] := fun nothing => by
    rw [trimLeft_eq_nil_iff, visible] at nothing
    exact Bool.false_ne_true nothing
  obtain ⟨first, others, left⟩ := List.exists_cons_of_ne_nil some
  have stops := List.head?_dropWhile_not isSpace line
  rw [← trimLeft, left, List.head?_cons] at stops
  rw [drop_indentation, left, startsVisible, List.head?_cons, Option.any_some]
  simpa using stops

theorem isBlank_take_commonIndentation (member : line ∈ lines) :
    isBlank (line.take (commonIndentation lines)) = true := by
  cases blank : isBlank line with
  | true => exact isBlank_take blank
  | false =>
    have least := isLeast_commonIndentation ⟨line, member, blank⟩
    exact isBlank_take_of_le_indentation (least.2 ⟨line, member, blank, rfl⟩)

/-! ## Texts -/

theorem splitLines_trimIndent {text : Text} (shown : ∃ line ∈ splitLines text, isBlank line = false) :
    splitLines (trimIndent text) = trimIndentLines (splitLines text) := by
  obtain ⟨line, member, visible⟩ := shown
  have kept := mem_dropBlankLast (mem_dropBlankFirst member visible) visible
  refine splitLines_joinLines ?_ fun outdented left => ?_
  · exact List.map_eq_nil_iff.not.2 (List.ne_nil_of_mem kept)
  · obtain ⟨source, inside, rfl⟩ := List.mem_map.1 left
    have given := dropBlankFirst_subset _ (dropBlankLast_subset _ inside)
    exact fun broken => oneLine_of_mem_splitLines given (List.mem_of_mem_drop broken)

/-- The lines of a text lose the least indentation of those with visible text, which is white space
on each of them, and a blank first and a blank last line are dropped.  Then one line begins with
something visible.  It does not matter by which white space all lines are moved to the right. -/
theorem trimIndent_lines {text : Text} (shown : ∃ line ∈ splitLines text, isBlank line = false) :
    ∃ width kept,
      IsLeast {depth | ∃ line ∈ splitLines text, isBlank line = false ∧ indentation line = depth}
        width ∧
      splitLines text = ((splitLines text).head?.filter isBlank).toList ++ kept ++
        ((splitLines text).getLast?.filter isBlank).toList ∧
      splitLines (trimIndent text) = kept.map (·.drop width) ∧
      (∀ line ∈ kept, isBlank (line.take width) = true) ∧
      (∃ line ∈ splitLines (trimIndent text), startsVisible line = true) ∧
      ∀ space, isBlank space = true → '\n' ∉ space →
        trimIndent (joinLines ((splitLines text).map (space ++ ·))) = trimIndent text := by
  have least := isLeast_commonIndentation shown
  have outdented := splitLines_trimIndent shown
  refine ⟨commonIndentation (splitLines text), dropBlankLast (dropBlankFirst (splitLines text)),
    least, eq_append_dropBlank shown, outdented, fun line member => ?taken, ?flush,
    fun space blank spaceOneLine => ?moved⟩
  case taken =>
    exact isBlank_take_commonIndentation
      (dropBlankFirst_subset _ (dropBlankLast_subset _ member))
  case flush =>
    -- A line with the least indentation is left without any.
    obtain ⟨line, member, visible, attained⟩ := least.1
    have kept := mem_dropBlankLast (mem_dropBlankFirst member visible) visible
    refine ⟨line.drop (indentation line), ?_, startsVisible_drop_indentation visible⟩
    rw [outdented, attained]
    exact List.mem_map_of_mem kept
  case moved =>
    have movedOneLine : ∀ moved ∈ (splitLines text).map (space ++ ·), '\n' ∉ moved := by
      intro moved member
      obtain ⟨line, inside, rfl⟩ := List.mem_map.1 member
      intro broken
      rcases List.mem_append.1 broken with front | behind
      · exact spaceOneLine front
      · exact oneLine_of_mem_splitLines inside behind
    have some : (splitLines text).map (space ++ ·) ≠ [] :=
      List.map_eq_nil_iff.not.2 (splitLines_ne_nil text)
    rw [trimIndent, splitLines_joinLines some movedOneLine,
      trimIndentLines_map (fun line _ => deeper_append blank line) shown, trimIndent]

/-- Between lines that are indented by a tab and spaces stand blank ones, both shorter and longer than
the indentation that is taken off. -/
theorem trimIndent_lines_mixed :
    let text := "\n\t\u3000 a\n \n\t\t\t\n\t b\n  ".toList
    (∃ line ∈ splitLines text, isBlank line = false) ∧
      trimIndent text = " a\n\n\t\nb".toList ∧
      ∃ width kept,
        IsLeast {depth | ∃ line ∈ splitLines text, isBlank line = false ∧ indentation line = depth}
          width ∧
        splitLines text = [] :: kept ++ ["  ".toList] ∧
        splitLines (trimIndent text) = kept.map (·.drop width) ∧
        (∀ line ∈ kept, isBlank (line.take width) = true) ∧
        (∃ line ∈ splitLines (trimIndent text), startsVisible line = true) ∧
        trimIndent (joinLines ((splitLines text).map ("\u2003\t".toList ++ ·))) =
          trimIndent text := by
  intro text
  have shown : ∃ line ∈ splitLines text, isBlank line = false :=
    ⟨"\t b".toList, by decide, by decide⟩
  obtain ⟨width, kept, least, parts, outdented, taken, flush, moved⟩ := trimIndent_lines shown
  exact ⟨shown, by decide, width, kept, least, parts, outdented, taken, flush,
    moved _ (by decide) (by decide)⟩

end SnippetMarkup.Text
