import Mathlib
import SnippetMarkup.Proofs.Markup.Padding

/-!
# Comments behind a line

A comment that is put behind a line without one is the comment of the whole.  The line may hold
introducers, tags and even the beginning of a comment: an introducer at its end is not the one that
counts, because the next one stands between it and the tag.
-/

namespace SnippetMarkup

open Unicode (isSpace)

namespace Introducer

/-- An introducer begins with something visible, and not with an `@`. -/
theorem exists_visible (introducer : Introducer) :
    ∃ mark others, introducer.written = mark :: others ∧ isSpace mark = false ∧ mark ≠ '@' := by
  obtain ⟨mark, others, shape⟩ := introducer.exists_written_eq_cons
  have member : mark ∈ introducer.written := shape ▸ List.mem_cons_self
  exact ⟨mark, others, shape, introducer.isSpace_of_mem_written member, fun same =>
    introducer.mark_notMem_written (same ▸ member)⟩

end Introducer

theorem Tag.isSpace_of_mem_written (tag : Tag) {c : Char} (member : c ∈ tag.written) :
    isSpace c = false := by
  have visible : tag.written.any isSpace = false := by cases tag <;> decide
  simpa using List.any_eq_false.1 visible c member

namespace CommentParts

variable {parts : CommentParts} {front rest : Text} {c : Char}

/-- Behind the white space in front of a tag stands nothing but white space and the tag. -/
theorem isSpace_or_eq_mark {space : Text} (blank : Text.isBlank space = true) (tag : Tag)
    (spaced : space ++ tag.written = front ++ ' ' :: c :: rest) : isSpace c = true ∨ c = '@' := by
  rcases List.append_eq_append_iff.1 spaced with ⟨inner, -, tail⟩ | ⟨inner, shape, tail⟩
  · have inside : ' ' ∈ tag.written := by simp [tail]
    exact absurd (tag.isSpace_of_mem_written inside) (by decide)
  · cases inner with
    | nil => exact absurd (List.cons.inj tail).1 (by decide)
    | cons d inner =>
      rw [List.cons_append, List.cons.injEq] at tail
      cases inner with
      | nil => exact .inr (List.cons.inj tail.2).1
      | cons e inner =>
        obtain rfl := (List.cons.inj tail.2).1
        exact .inl (List.all_eq_true.1 blank c (by simp [shape]))

/-- A comment up to its tag does not reach over white space and a character that is neither white
space nor an `@`. -/
theorem head_ne_append (wellFormed : parts.WellFormed) (visible : isSpace c = false)
    (other : c ≠ '@') : parts.head ≠ front ++ ' ' :: c :: rest := by
  intro headed
  have apart (front : Text) : parts.gap ++ parts.tag.written ≠ front ++ ' ' :: c :: rest := by
    intro spaced
    rcases isSpace_or_eq_mark wellFormed.gap parts.tag spaced with space | mark
    · simp [visible] at space
    · exact other mark
  rw [head, List.append_assoc] at headed
  rcases List.append_eq_append_iff.1 headed with ⟨inner, -, tail⟩ | ⟨inner, shape, tail⟩
  · exact apart inner tail
  · cases inner with
    | nil => exact apart [] tail.symm
    | cons d inner =>
      obtain rfl := (List.cons.inj tail).1
      have inside : ' ' ∈ parts.introducer.written := by simp [shape]
      exact absurd (parts.introducer.isSpace_of_mem_written inside) (by decide)

/-- If a line ends in something visible, a comment that reaches over the white space behind it
makes a comment of what it has in the line. -/
theorem exists_written_in_front (wellFormed : parts.WellFormed) (visible : isSpace c = false)
    (other : c ≠ '@') (trimmed : Text.trimRight front = front)
    (written : front ++ ' ' :: c :: rest = parts.written) :
    ∃ own : CommentParts, own.WellFormed ∧ front = own.written := by
  have headTrimmed := parts.trimRight_append_head []
  rw [List.nil_append] at headTrimmed
  rw [written_eq_head] at written
  obtain ⟨tail, cut, tailed⟩ :
      ∃ tail, front = parts.head ++ tail ∧ parts.tail = tail ++ ' ' :: c :: rest := by
    rcases List.append_eq_append_iff.1 written with ⟨inner, headed, tail⟩ | found
    · cases inner with
      | nil => exact ⟨[], by simpa using headed.symm, tail.symm⟩
      | cons d inner =>
        obtain ⟨space, tail⟩ := List.cons.inj tail
        rw [← space] at headed
        cases inner with
        | nil =>
          rw [headed, Text.trimRight_append_of_isBlank (by decide), trimmed] at headTrimmed
          simp at headTrimmed
        | cons e inner =>
          obtain rfl := (List.cons.inj tail).1
          exact (head_ne_append wellFormed visible other headed).elim
    · exact found
  refine ⟨{ parts with tail := tail }, ⟨wellFormed.gap, ?_⟩, by rw [cut, written_eq_head]; rfl⟩
  rcases wellFormed.tail with nothing | ⟨d, more, shape, white, -⟩
  · simp [nothing] at tailed
  · cases tail with
    | nil => exact .inl rfl
    | cons e tail =>
      obtain rfl : d = e := (List.cons.inj (shape.symm.trans tailed)).1
      refine .inr ⟨d, tail, rfl, white, fun single => ?_⟩
      -- A single white-space character would stand at the end of the line.
      rw [cut, single, Text.trimRight_append_of_isBlank (by simp [Text.isBlank, white]),
        headTrimmed] at trimmed
      simp at trimmed

end CommentParts

namespace MarkupComment

variable {line : Text} {parts : CommentParts}

/-- A comment on a line of its own has no code in front of it. -/
theorem scan_written (wellFormed : parts.WellFormed) (oneLine : '\n' ∉ parts.written) :
    scan parts.written = some ⟨parts.introducer, parts.body, []⟩ := by
  have here : parts.written.drop 0 = parts.written := List.drop_zero
  exact scan_of_written oneLine wellFormed here fun before earlier =>
    (Nat.not_lt_zero _ earlier).elim

/-- A comment behind a line without one is the comment of the whole, and the line is its code. -/
theorem scan_append_written (oneLine : '\n' ∉ line) (trimmed : Text.trimRight line = line)
    (unmarked : scan line = none) (wellFormed : parts.WellFormed)
    (oneLineToo : '\n' ∉ parts.written) :
    scan (line ++ ' ' :: parts.written) = some ⟨parts.introducer, parts.body, line⟩ := by
  have oneLineWhole : '\n' ∉ line ++ ' ' :: parts.written := by simp [oneLine, oneLineToo]
  have place : (line ++ ' ' :: parts.written).drop (line.length + 1) = parts.written := by simp
  have nowhere := (scan_eq_none_iff oneLine).1 unmarked
  have leftmost : ∀ before < line.length + 1, ¬BeginsAt (line ++ ' ' :: parts.written) before := by
    rintro before earlier ⟨other, otherWellFormed, written⟩
    obtain ⟨mark, others, introduced, visible, unlike⟩ := parts.introducer.exists_visible
    have begins : parts.written = mark :: (others ++ parts.gap ++ parts.body) := by
      simp [CommentParts.written, introduced]
    rw [List.drop_append_of_le_length (by omega), begins] at written
    obtain ⟨own, ownWellFormed, found⟩ :=
      CommentParts.exists_written_in_front otherWellFormed visible unlike
        (Text.trimRight_drop trimmed before) written
    exact nowhere before ⟨own, ownWellFormed, found⟩
  rw [scan_of_written oneLineWhole wellFormed place leftmost]
  have front : (line ++ ' ' :: parts.written).take (line.length + 1) = line ++ [' '] := by
    simp [List.take_append]
  rw [front, Text.trimRight_append_of_isBlank (by decide), trimmed]

/-- A comment that is put behind a line without one is read back, whatever else the line holds: the
introducer, the body from its tag on, and the line as the code in front of it. -/
theorem scan_append_comment (oneLine : '\n' ∉ line) (trimmed : Text.trimRight line = line)
    (unmarked : scan line = none) (introducer : Introducer) {body : Text}
    (oneLineBody : '\n' ∉ body) (tagged : ∃ tag rest, body = Tag.written tag ++ rest ∧
      (rest = [] ∨ ∃ c more, rest = c :: more ∧ isSpace c = true ∧ more ≠ [])) :
    scan (line ++ ' ' :: (introducer.written ++ ' ' :: body)) = some ⟨introducer, body, line⟩ := by
  obtain ⟨tag, rest, rfl, shape⟩ := tagged
  let parts : CommentParts := ⟨introducer, [' '], tag, rest⟩
  have wellFormed : parts.WellFormed := ⟨rfl, shape⟩
  have written : parts.written = introducer.written ++ ' ' :: (tag.written ++ rest) := by
    simp [parts, CommentParts.written, CommentParts.body]
  have oneLineParts : '\n' ∉ parts.written := by
    rw [written, List.mem_append, List.mem_cons]
    rintro (inside | blank | inside)
    · exact absurd (introducer.isSpace_of_mem_written inside) (by decide)
    · exact absurd blank (by decide)
    · exact oneLineBody inside
  rw [← written]
  exact scan_append_written oneLine trimmed unmarked wellFormed oneLineParts

/-- Behind a line with four introducers, the last one at its end, and two words that only look like
tags. -/
theorem scan_append_comment_amid :
    let line := "it's // @linked rem @end: #".toList
    let body := "@replace region='# @end' replacement=':".toList
    '\n' ∉ line ∧ Text.trimRight line = line ∧ scan line = none ∧ '\n' ∉ body ∧
      scan (line ++ ' ' :: (Introducer.upperRem.written ++ ' ' :: body)) =
        some ⟨.upperRem, body, line⟩ := by
  intro line body
  have oneLine : '\n' ∉ line := by decide
  have trimmed : Text.trimRight line = line := by decide
  have unmarked : scan line = none := by decide
  have oneLineBody : '\n' ∉ body := by decide
  refine ⟨oneLine, trimmed, unmarked, oneLineBody,
    scan_append_comment oneLine trimmed unmarked .upperRem oneLineBody ?_⟩
  exact ⟨.replace, " region='# @end' replacement=':".toList, rfl,
      .inr ⟨' ', _, rfl, rfl, by decide⟩⟩

end MarkupComment

end SnippetMarkup
