import Mathlib
import SnippetMarkup.Proofs.Markup.Attributes
import SnippetMarkup.Proofs.Markup.Grammar

/-!
# White space behind a line

White space behind a line changes neither the place of its comment, nor the tag and the attributes
that are read from it.  It tells in two ways.  A body is not trimmed, so that one with white space
behind its colon is meant for its own line; and white space behind a tag has to be followed by
something, so that a tag with a single white-space character behind it is no comment.
-/

namespace SnippetMarkup

open Unicode (isSpace)

/-! ## Parts with white space behind them -/

namespace CommentParts

/-- The same parts with something put behind them. -/
def padded (parts : CommentParts) (space : Text) : CommentParts :=
  { parts with tail := parts.tail ++ space }

/-- A comment up to its tag. -/
def head (parts : CommentParts) : Text :=
  parts.introducer.written ++ parts.gap ++ parts.tag.written

variable (parts : CommentParts) (space : Text)

@[simp] theorem padded_tail : (parts.padded space).tail = parts.tail ++ space := rfl

@[simp] theorem padded_body : (parts.padded space).body = parts.body ++ space :=
  (List.append_assoc ..).symm

@[simp] theorem padded_written : (parts.padded space).written = parts.written ++ space := by
  rw [written, padded_body, ← List.append_assoc]
  rfl

theorem written_eq_head : parts.written = parts.head ++ parts.tail := by
  simp only [written, head, body, List.append_assoc]

theorem head_ne_nil : parts.head ≠ [] := by
  obtain ⟨mark, others, shape⟩ := parts.introducer.exists_written_eq_cons
  simp [head, shape]

/-- Up to its tag, a comment ends in something visible. -/
theorem trimRight_append_head (front : Text) :
    Text.trimRight (front ++ parts.head) = front ++ parts.head := by
  have visible : Text.isBlank parts.tag.written = false := by cases parts.tag <;> rfl
  rw [head, ← List.append_assoc, Text.trimRight_append_of_visible visible,
    Attributes.trimRight_written]

variable {parts space}

/-- White space behind a comment becomes a part of it, unless it is a single character behind the
tag. -/
theorem WellFormed.padded_or (wellFormed : parts.WellFormed) (blank : Text.isBlank space = true) :
    (parts.padded space).WellFormed ∨ parts.tail = [] ∧ ∃ c, space = [c] ∧ isSpace c = true := by
  rcases wellFormed.tail with bare | ⟨c, more, tail, white, some⟩
  · cases space with
    | nil => exact .inl ⟨wellFormed.gap, .inl (by simp [bare])⟩
    | cons c rest =>
      rw [Text.isBlank, List.all_cons, Bool.and_eq_true] at blank
      by_cases single : rest = []
      · exact .inr ⟨bare, c, by rw [single], blank.1⟩
      · exact .inl ⟨wellFormed.gap, .inr ⟨c, rest, by simp [bare], blank.1, single⟩⟩
  · exact .inl ⟨wellFormed.gap, .inr ⟨c, more ++ space, by simp [tail], white, by simp [some]⟩⟩

/-- Without the white space behind it, a comment is still one, unless a single character of it is
left behind the tag. -/
theorem WellFormed.of_padded (wellFormed : (parts.padded space).WellFormed) :
    parts.WellFormed ∨ (∃ c, parts.tail = [c] ∧ isSpace c = true) ∧ space ≠ [] := by
  have gap : Text.isBlank parts.gap = true := wellFormed.gap
  cases tail : parts.tail with
  | nil => exact .inl ⟨gap, .inl tail⟩
  | cons c inner =>
    rcases wellFormed.tail with nothing | ⟨d, more, shape, white, some⟩
    · simp [tail] at nothing
    · rw [padded_tail, tail, List.cons_append, List.cons.injEq] at shape
      obtain ⟨rfl, rfl⟩ := shape
      by_cases single : inner = []
      · subst single
        exact .inr ⟨⟨c, rfl, white⟩, some⟩
      · exact .inl ⟨gap, .inr ⟨c, inner, tail, white, single⟩⟩

end CommentParts

namespace MarkupComment

/-- A line that ends in a tag with a single white-space character behind it, where a comment could
have been, and in which no comment begins in front of that. -/
def EndsBare (line : Text) : Prop :=
  ∃ place, ∃ parts : CommentParts, line.drop place = parts.written ∧
    Text.isBlank parts.gap = true ∧ (∃ c, parts.tail = [c] ∧ isSpace c = true) ∧
    ∀ before < place, ¬BeginsAt line before

/-- What the comment of a line and that of the line with white space behind it have in common. -/
structure Padded (space : Text) (comment padded : MarkupComment) : Prop where
  introducer : padded.introducer = comment.introducer
  code : padded.code = comment.code
  tag : Tag.ofBody? padded.body = Tag.ofBody? comment.body
  attributes : ∀ tag, Tag.ofBody? comment.body = some tag →
    Attributes.parse tag padded.body = Attributes.parse tag comment.body
  continues : padded.continues = (comment.continues && space.isEmpty)

/-! ## Places -/

section Places

variable {line space : Text} {place : Nat} {parts : CommentParts}

/-- The white space at the end of a line that ends in a tag and white space. -/
theorem length_trimRight_add_tail (written : line.drop place = parts.written)
    (blank : Text.isBlank parts.tail = true) :
    (Text.trimRight line).length + parts.tail.length = line.length := by
  have cut : line = line.take place ++ parts.head ++ parts.tail := by
    rw [List.append_assoc, ← parts.written_eq_head, ← written, List.take_append_drop]
  have trimmed : Text.trimRight line = line.take place ++ parts.head := by
    conv_lhs => rw [cut]
    rw [Text.trimRight_append_of_isBlank blank, parts.trimRight_append_head]
  rw [trimmed, ← List.length_append, ← cut]

/-- A line that ends in a single white-space character does not end in none, or in several. -/
theorem not_endsBare_of_written (written : line.drop place = parts.written)
    (blank : Text.isBlank parts.tail = true) (other : parts.tail.length ≠ 1) :
    ¬EndsBare line := by
  rintro ⟨_, bare, bareWritten, -, ⟨c, single, white⟩, -⟩
  have lengths := length_trimRight_add_tail written blank
  have bareLengths := length_trimRight_add_tail bareWritten (by simp [Text.isBlank, single, white])
  rw [single, List.length_singleton] at bareLengths
  omega

theorem lt_length_of_drop_eq_head {tail : Text} (headed : line.drop place = parts.head ++ tail) :
    place < line.length := by
  by_contra outside
  rw [List.drop_eq_nil_of_le (by omega)] at headed
  exact parts.head_ne_nil (List.append_eq_nil_iff.1 headed.symm).1

theorem drop_append_written (written : line.drop place = parts.written) (space : Text) :
    (line ++ space).drop place = (parts.padded space).written := by
  have inside := lt_length_of_drop_eq_head (written.trans parts.written_eq_head)
  rw [List.drop_append_of_le_length inside.le, written, CommentParts.padded_written]

/-- Nothing of a comment up to its tag stands in the white space at the end of a line. -/
theorem exists_written_of_append (blank : Text.isBlank space = true)
    (written : (line ++ space).drop place = parts.written) :
    ∃ own : CommentParts, line.drop place = own.written ∧ parts = own.padded space := by
  -- What is left of the white space at the place is white space.
  have left : Text.isBlank (space.drop (place - line.length)) = true :=
    List.all_eq_true.2 fun c member => List.all_eq_true.1 blank c (List.mem_of_mem_drop member)
  rw [List.drop_append, parts.written_eq_head, List.append_eq_append_iff] at written
  obtain ⟨tail, ended, tailed⟩ : ∃ tail, line.drop place = parts.head ++ tail ∧
      parts.tail = tail ++ space.drop (place - line.length) := by
    rcases written with ⟨more, headed, spaced⟩ | ended
    · -- The head would end in white space if it went on behind the line.
      rw [spaced, Text.isBlank_append, Bool.and_eq_true] at left
      have trimmed := parts.trimRight_append_head []
      rw [List.nil_append, headed, Text.trimRight_append_of_isBlank left.1] at trimmed
      have shorter := congrArg List.length trimmed
      have bound := (List.rdropWhile_prefix isSpace (l := line.drop place)).length_le
      rw [← Text.trimRight_eq_rdropWhile, shorter, List.length_append] at bound
      obtain rfl : more = [] := List.eq_nil_of_length_eq_zero (by omega)
      exact ⟨[], by simp [headed], by simp [spaced]⟩
    · exact ended
  have inside : place < line.length := lt_length_of_drop_eq_head ended
  rw [Nat.sub_eq_zero_of_le inside.le, List.drop_zero] at tailed
  refine ⟨{ parts with tail := tail }, ?_, ?_⟩
  · rw [ended, CommentParts.written_eq_head]
    rfl
  · simp [CommentParts.padded, ← tailed]

end Places

/-! ## The leftmost place -/

section Leftmost

variable {line space : Text} {place : Nat} {parts : CommentParts}

theorem scan_eq_none_iff (oneLine : '\n' ∉ line) :
    scan line = none ↔ ∀ place, ¬BeginsAt line place := by
  rw [← Option.not_isSome_iff_eq_none, scan, isSome_scanFrom_iff, not_exists]
  exact forall_congr' fun place => not_congr (beginsAt_iff oneLine place).symm

theorem scan_of_written (oneLine : '\n' ∉ line) (wellFormed : parts.WellFormed)
    (written : line.drop place = parts.written)
    (leftmost : ∀ before < place, ¬BeginsAt line before) :
    scan line = some ⟨parts.introducer, parts.body, Text.trimRight (line.take place)⟩ := by
  have oneLineHere := notMem_drop oneLine place
  have read : read? (line.drop place) = some (parts.introducer, parts.body) := by
    rw [written] at oneLineHere ⊢
    exact read?_written wellFormed oneLineHere
  refine scanFrom_leftmost read (fun before earlier => ?_) []
  rw [← Option.not_isSome_iff_eq_none, ← beginsAt_iff oneLine]
  exact leftmost before earlier

/-- White space behind a body changes neither its tag nor its attributes. -/
theorem padded_of_parts (parts : CommentParts) (blank : Text.isBlank space = true) (code : Text) :
    Padded space ⟨parts.introducer, parts.body, code⟩
      ⟨parts.introducer, (parts.padded space).body, code⟩ := by
  refine ⟨rfl, rfl, ?tag, fun tag tagged => ?attributes, ?continues⟩
  case tag =>
    rw [CommentParts.body, CommentParts.body, Tag.ofBody?_written, Tag.ofBody?_written]
    rfl
  case attributes =>
    rw [CommentParts.body, Tag.ofBody?_written, Option.some.injEq] at tagged
    subst tagged
    have trimmed : Text.trimRight (parts.body ++ space) = Text.trimRight parts.body :=
      Text.trimRight_append_of_isBlank blank
    dsimp only
    rw [CommentParts.padded_body]
    rw [CommentParts.body, List.append_assoc] at trimmed ⊢
    rw [← Attributes.parse_trimRight, trimmed, Attributes.parse_trimRight]
  case continues =>
    dsimp only [continues]
    rw [CommentParts.padded_body]
    rcases List.eq_nil_or_concat' space with rfl | ⟨init, last, rfl⟩
    · simp
    · have white : isSpace last = true := List.all_eq_true.1 blank last (by simp)
      have other : some last ≠ some ':' := by
        rintro ⟨⟩
        exact absurd white (by decide)
      have put : (init ++ [last]).isEmpty = false := List.isEmpty_eq_false_iff.2 (by simp)
      rw [← List.append_assoc, List.getLast?_concat, put, Bool.and_false]
      exact beq_eq_false_iff_ne.2 other

/-- Where a comment begins in a line both with and without the white space behind it, and none
begins before in either, it is read alike. -/
theorem rel_padded_of_written (oneLine : '\n' ∉ line ++ space) (blank : Text.isBlank space = true)
    (wellFormed : parts.WellFormed) (wellFormedPadded : (parts.padded space).WellFormed)
    (written : line.drop place = parts.written)
    (leftmost : ∀ before < place, ¬(BeginsAt line before ∨ BeginsAt (line ++ space) before)) :
    Option.Rel (Padded space) (scan line) (scan (line ++ space)) := by
  have inside := lt_length_of_drop_eq_head (written.trans parts.written_eq_head)
  have oneLineFront : '\n' ∉ line := fun member => oneLine (List.mem_append_left _ member)
  rw [scan_of_written oneLineFront wellFormed written fun before earlier begins =>
      leftmost before earlier (.inl begins),
    scan_of_written oneLine wellFormedPadded (drop_append_written written space)
      fun before earlier begins => leftmost before earlier (.inr begins),
    List.take_append_of_le_length inside.le]
  exact .some (padded_of_parts parts blank _)

/-- A comment that begins first in the line itself is left as it is, unless the line ends in its tag
and a single white-space character is put behind that. -/
theorem rel_padded_of_beginsAt (oneLine : '\n' ∉ line ++ space) (blank : Text.isBlank space = true)
    (alike : EndsBare line ↔ EndsBare (line ++ space)) (begins : BeginsAt line place)
    (leftmost : ∀ before < place, ¬(BeginsAt line before ∨ BeginsAt (line ++ space) before)) :
    Option.Rel (Padded space) (scan line) (scan (line ++ space)) := by
  obtain ⟨parts, wellFormed, written⟩ := begins
  rcases wellFormed.padded_or blank with wellFormedPadded | ⟨bare, c, single, white⟩
  · exact rel_padded_of_written oneLine blank wellFormed wellFormedPadded written leftmost
  · subst single
    have ends : EndsBare (line ++ [c]) := ⟨_, parts.padded [c], drop_append_written written [c],
      wellFormed.gap, ⟨c, by simp [bare], white⟩, fun before earlier begins =>
        leftmost before earlier (.inr begins)⟩
    -- But the line itself ends in its tag.
    refine (not_endsBare_of_written written ?_ ?_ (alike.2 ends)).elim
    · rw [bare]; rfl
    · simp [bare]

/-- A comment that begins first in the line with white space behind it is one without that, too,
unless the line itself has a single white-space character behind the tag. -/
theorem rel_padded_of_beginsAt_append (oneLine : '\n' ∉ line ++ space)
    (blank : Text.isBlank space = true) (alike : EndsBare line ↔ EndsBare (line ++ space))
    (begins : BeginsAt (line ++ space) place)
    (leftmost : ∀ before < place, ¬(BeginsAt line before ∨ BeginsAt (line ++ space) before)) :
    Option.Rel (Padded space) (scan line) (scan (line ++ space)) := by
  obtain ⟨parts, wellFormed, written⟩ := begins
  obtain ⟨own, writtenOwn, rfl⟩ := exists_written_of_append blank written
  rcases wellFormed.of_padded with wellFormedOwn | ⟨⟨c, single, white⟩, some⟩
  · exact rel_padded_of_written oneLine blank wellFormedOwn wellFormed writtenOwn leftmost
  · have ends : EndsBare line := ⟨_, own, writtenOwn, wellFormed.gap, ⟨c, single, white⟩,
      fun before earlier begins => leftmost before earlier (.inl begins)⟩
    have put := List.length_pos_iff.2 some
    -- But with the white space behind it, the line ends in several white-space characters.
    refine (not_endsBare_of_written written ?_ ?_ (alike.1 ends)).elim
    · simp only [CommentParts.padded_tail, single, Text.isBlank_append, blank, Bool.and_true]
      simp [Text.isBlank, white]
    · simp only [CommentParts.padded_tail, single, List.length_append, List.length_singleton]
      omega

/-- White space behind a line leaves the comment of the line as it is, apart from the colon at its
end, unless just one of the two lines ends in a tag with a single white-space character. -/
theorem scan_append_blank (oneLine : '\n' ∉ line ++ space) (blank : Text.isBlank space = true)
    (alike : EndsBare line ↔ EndsBare (line ++ space)) :
    Option.Rel (Padded space) (scan line) (scan (line ++ space)) := by
  classical
  by_cases found : ∃ place, BeginsAt line place ∨ BeginsAt (line ++ space) place
  · have leftmost := fun before earlier => Nat.find_min found (m := before) earlier
    rcases Nat.find_spec found with begins | begins
    · exact rel_padded_of_beginsAt oneLine blank alike begins leftmost
    · exact rel_padded_of_beginsAt_append oneLine blank alike begins leftmost
  · rw [not_exists] at found
    have oneLineFront : '\n' ∉ line := fun member => oneLine (List.mem_append_left _ member)
    rw [(scan_eq_none_iff oneLineFront).2 fun place begins => found place (.inl begins),
      (scan_eq_none_iff oneLine).2 fun place begins => found place (.inr begins)]
    exact .none

end Leftmost

/-- A tag inside of a comment, with white space of two characters behind it. -/
theorem scan_append_blank_inner :
    let line := "a // @link target=b # @end".toList
    let space := [' ', '\u3000']
    '\n' ∉ line ++ space ∧ Text.isBlank space = true ∧ (EndsBare line ↔ EndsBare (line ++ space)) ∧
      Option.Rel (Padded space) (scan line) (scan (line ++ space)) ∧
      (scan line).map (·.body) = some "@link target=b # @end".toList := by
  intro line space
  have oneLine : '\n' ∉ line ++ space := by decide
  have blank : Text.isBlank space = true := by decide
  let parts : CommentParts := ⟨.hash, [' '], .finish, []⟩
  have written : line.drop 20 = parts.written := by decide
  have alike : EndsBare line ↔ EndsBare (line ++ space) :=
    iff_of_false (not_endsBare_of_written written rfl (by decide))
      (not_endsBare_of_written (drop_append_written written space) blank (by decide))
  exact ⟨oneLine, blank, alike, scan_append_blank oneLine blank alike, by decide⟩

/-- With a single blank behind it, a comment for the next line is meant for its own, and a bare tag
is no comment any more. -/
theorem scan_append_blank_differs :
    let colon := "a // @highlight substring=a:".toList
    let bare := "a // @end".toList
    '\n' ∉ colon ∧ '\n' ∉ bare ∧ Text.isBlank [' '] = true ∧
      (scan colon).map (·.continues) = some true ∧
      (scan (colon ++ [' '])).map (·.continues) = some false ∧
      (scan bare).isSome = true ∧ scan (bare ++ [' ']) = none := by
  decide

end MarkupComment

end SnippetMarkup
