import Mathlib
import SnippetMarkup.Proofs.Markup.Scan
import SnippetMarkup.Proofs.Snippet.Step

/-!
# The grammar of markup comments

From its introducer on, a line that ends in a markup comment has four parts, and it has them in one
way only.  A comment is found exactly where there is such a place in the line; it is the leftmost
one that counts, and nothing of the line is lost.  Since each comment has a tag, no tag is ever
passed over.
-/

namespace SnippetMarkup

open Unicode (isSpace)

/-! ## Parts of a comment -/

/-- What a line is made of from the introducer of its comment on. -/
structure CommentParts where
  introducer : Introducer
  gap : Text
  tag : Tag
  tail : Text
  deriving DecidableEq, Repr

namespace CommentParts

def body (parts : CommentParts) : Text := parts.tag.written ++ parts.tail

def written (parts : CommentParts) : Text := parts.introducer.written ++ parts.gap ++ parts.body

/-- White space up to the tag, and behind the tag nothing, or white space and some text. -/
structure WellFormed (parts : CommentParts) : Prop where
  gap : Text.isBlank parts.gap = true
  tail : parts.tail = [] ∨ ∃ c more, parts.tail = c :: more ∧ isSpace c = true ∧ more ≠ []

end CommentParts

theorem Introducer.read?_written (introducer : Introducer) (rest : Text) :
    read? (introducer.written ++ rest) = some (introducer, rest) := by
  cases introducer <;> rfl

theorem Tag.trimLeft_written (tag : Tag) (rest : Text) :
    Text.trimLeft (tag.written ++ rest) = tag.written ++ rest := by
  cases tag <;> rfl

namespace CommentParts

variable {parts other : CommentParts}

theorem trimLeft_gap (wellFormed : parts.WellFormed) :
    Text.trimLeft (parts.gap ++ parts.body) = parts.body := by
  rw [Text.trimLeft_append_of_isBlank wellFormed.gap, body, Tag.trimLeft_written]

/-- The parts of a comment can be told from how it is written. -/
theorem WellFormed.eq_of_written (wellFormed : parts.WellFormed)
    (wellFormedToo : other.WellFormed) (same : parts.written = other.written) :
    parts = other := by
  have introduced := Introducer.read?_written parts.introducer (parts.gap ++ parts.body)
  rw [← List.append_assoc, ← written, same, written, List.append_assoc,
    Introducer.read?_written, Option.some.injEq, Prod.mk.injEq] at introduced
  obtain ⟨sameIntroducer, sameRest⟩ := introduced
  have sameBody : parts.body = other.body := by
    rw [← trimLeft_gap wellFormed, ← sameRest, trimLeft_gap wellFormedToo]
  have sameGap : parts.gap = other.gap :=
    List.append_cancel_right (sameRest.symm.trans (congrArg (other.gap ++ ·) sameBody.symm))
  have tagged := Tag.read?_written parts.tag parts.tail
  rw [← body, sameBody, body, Tag.read?_written, Option.some.injEq, Prod.mk.injEq] at tagged
  obtain ⟨introducer, gap, tag, tail⟩ := parts
  obtain ⟨introducerToo, gapToo, tagToo, tailToo⟩ := other
  simp_all

end CommentParts

namespace MarkupComment

/-! ## Reading a comment -/

theorem read?_nil : read? [] = none := rfl

theorem read?_written {parts : CommentParts} (wellFormed : parts.WellFormed)
    (oneLine : '\n' ∉ parts.written) :
    read? parts.written = some (parts.introducer, parts.body) := by
  have oneLineBody : '\n' ∉ parts.body :=
    fun member => oneLine (List.mem_append_right _ member)
  have bodied : body? parts.body = some parts.body :=
    (body?_eq_some_iff oneLineBody).2 ⟨rfl, parts.tag, parts.tail, rfl, wellFormed.tail⟩
  rw [read?, CommentParts.written, List.append_assoc, Introducer.read?_written, Option.bind_some]
  dsimp only
  rw [CommentParts.trimLeft_gap wellFormed, bodied, Option.map_some]

theorem exists_parts_of_read? {text body : Text} {introducer : Introducer}
    (oneLine : '\n' ∉ text) (read : read? text = some (introducer, body)) :
    ∃ parts : CommentParts, parts.WellFormed ∧ text = parts.written ∧
      parts.introducer = introducer ∧ parts.body = body := by
  obtain ⟨⟨opened, rest⟩, found, bodied⟩ := Option.bind_eq_some_iff.1 read
  obtain ⟨shown, bodyRead, same⟩ := Option.map_eq_some_iff.1 bodied
  obtain ⟨rfl, rfl⟩ := Prod.mk.inj same
  obtain rfl := Introducer.eq_of_read? found
  have cut : rest = rest.takeWhile isSpace ++ Text.trimLeft rest :=
    List.takeWhile_append_dropWhile.symm
  have oneLineShown : '\n' ∉ Text.trimLeft rest := fun member =>
    oneLine (List.mem_append_right _ ((List.dropWhile_sublist isSpace).subset member))
  obtain ⟨rfl, tag, tail, shape, tailed⟩ := (body?_eq_some_iff oneLineShown).1 bodyRead
  refine ⟨⟨opened, rest.takeWhile isSpace, tag, tail⟩, ⟨?_, tailed⟩, ?_, rfl, shape.symm⟩
  · exact List.all_eq_true.2 fun c member => List.mem_takeWhile_imp member
  · rw [CommentParts.written, CommentParts.body, ← shape, List.append_assoc, ← cut]

/-- Whether a comment reaches from a place in a line to its end. -/
def BeginsAt (line : Text) (place : Nat) : Prop :=
  ∃ parts : CommentParts, parts.WellFormed ∧ line.drop place = parts.written

theorem notMem_drop {c : Char} {line : Text} (absent : c ∉ line) (place : Nat) :
    c ∉ line.drop place :=
  fun member => absent (List.mem_of_mem_drop member)

theorem beginsAt_iff {line : Text} (oneLine : '\n' ∉ line) (place : Nat) :
    BeginsAt line place ↔ (read? (line.drop place)).isSome := by
  have oneLineHere := notMem_drop oneLine place
  constructor
  · rintro ⟨parts, wellFormed, written⟩
    rw [written] at oneLineHere ⊢
    rw [read?_written wellFormed oneLineHere, Option.isSome_some]
  · intro read
    obtain ⟨⟨introducer, body⟩, found⟩ := Option.isSome_iff_exists.1 read
    obtain ⟨parts, wellFormed, written, -⟩ := exists_parts_of_read? oneLineHere found
    exact ⟨parts, wellFormed, written⟩

/-! ## The leftmost place -/

theorem isSome_scanFrom_iff (passed line : Text) :
    (scanFrom passed line).isSome ↔ ∃ place, (read? (line.drop place)).isSome := by
  induction line generalizing passed with
  | nil => simp [scanFrom, read?_nil]
  | cons c rest ih =>
    rw [scanFrom]
    cases found : read? (c :: rest) with
    | some opened => exact iff_of_true rfl ⟨0, by simp [found]⟩
    | none =>
      rw [ih]
      constructor
      · rintro ⟨place, read⟩
        exact ⟨place + 1, read⟩
      · rintro ⟨place, read⟩
        cases place with
        | zero => simp [found] at read
        | succ place => exact ⟨place, read⟩

/-- The comment at the leftmost place is the one that is found. -/
theorem scanFrom_leftmost {line body : Text} {introducer : Introducer} {place : Nat}
    (read : read? (line.drop place) = some (introducer, body))
    (leftmost : ∀ before < place, read? (line.drop before) = none) (passed : Text) :
    scanFrom passed line =
      some ⟨introducer, body, Text.trimRight (passed.reverse ++ line.take place)⟩ := by
  induction place generalizing passed line with
  | zero =>
    cases line with
    | nil => simp [read?_nil] at read
    | cons c rest =>
      rw [List.drop_zero] at read
      simp only [scanFrom, read, List.take_zero, List.append_nil]
  | succ place ih =>
    cases line with
    | nil => simp [read?_nil] at read
    | cons c rest =>
      have unread : read? (c :: rest) = none := leftmost 0 place.succ_pos
      have later := ih read (fun before earlier => leftmost (before + 1) (by omega)) (c :: passed)
      simp only [scanFrom, unread, later, List.reverse_cons, List.append_assoc, List.take_succ_cons,
        List.singleton_append]

/-! ## Tags of comments -/

/-- No comment is without a tag. -/
theorem exists_tag_of_scan {line : Text} {comment : MarkupComment}
    (scanned : scan line = some comment) : ∃ tag, Tag.ofBody? comment.body = some tag := by
  obtain ⟨text, -, read⟩ := exists_body?_of_scanFrom scanned
  obtain ⟨⟨tag, rest⟩, -, bodied⟩ := Option.bind_eq_some_iff.1 read
  obtain ⟨tail, -, written⟩ := Option.map_eq_some_iff.1 bodied
  exact ⟨tag, by rw [← written, Tag.ofBody?_written]⟩

open Progress in
/-- A comment is found exactly where a line can be read as one up to its end, and the leftmost such
place decides.  The parts of the comment are the only ones there; together with the code in front
of it and white space they are the line.  The tag is the one that acts. -/
theorem scan_grammar {line : Text} (oneLine : '\n' ∉ line) :
    ((scan line).isSome ↔ ∃ place, BeginsAt line place) ∧
      (∀ place, BeginsAt line place → (∀ before < place, ¬BeginsAt line before) →
        ∃ parts : CommentParts, parts.WellFormed ∧ line.drop place = parts.written ∧
          (∀ other : CommentParts, other.WellFormed → line.drop place = other.written →
            other = parts) ∧
          scan line = some ⟨parts.introducer, parts.body, Text.trimRight (line.take place)⟩ ∧
          (∃ space, Text.isBlank space = true ∧
            line = Text.trimRight (line.take place) ++ space ++ parts.written) ∧
          Tag.ofBody? parts.body = some parts.tag) ∧
      ∀ (whole : Text) (comment : MarkupComment), scan whole = some comment →
        comment.continues = false → ∃ tag, Tag.ofBody? comment.body = some tag ∧
          ∀ (progress : Progress) (context : SnippetContext) (isLast : Bool) (code : Text),
            progress.render comment.code = .ok code →
              progress.collect context isLast whole =
                settle (progress.handleTag context tag comment.body code) := by
  refine ⟨?accepted, ?leftmost, ?acted⟩
  case accepted =>
    rw [scan, isSome_scanFrom_iff]
    exact exists_congr fun place => (beginsAt_iff oneLine place).symm
  case leftmost =>
    rintro place ⟨parts, wellFormed, written⟩ leftmost
    have read : read? (line.drop place) = some (parts.introducer, parts.body) := by
      have oneLineHere := notMem_drop oneLine place
      rw [written] at oneLineHere ⊢
      exact read?_written wellFormed oneLineHere
    have unread : ∀ before < place, read? (line.drop before) = none := fun before earlier => by
      rw [← Option.not_isSome_iff_eq_none, ← beginsAt_iff oneLine]
      exact leftmost before earlier
    refine ⟨parts, wellFormed, written, fun other wellFormedToo writtenToo => ?unique,
      scanFrom_leftmost read unread [], ?whole, Tag.ofBody?_written _ _⟩
    case unique => exact wellFormedToo.eq_of_written wellFormed (writtenToo.symm.trans written)
    case whole =>
      obtain ⟨space, blank, cut⟩ := Text.exists_trimRight_append (line.take place)
      refine ⟨space, blank, ?_⟩
      rw [← cut, ← written, List.take_append_drop]
  case acted =>
    intro whole comment scanned settled
    obtain ⟨tag, tagged⟩ := exists_tag_of_scan scanned
    refine ⟨tag, tagged, fun progress context isLast code rendered => ?_⟩
    rw [collect_acting progress scanned settled tagged, rendered]

/-- In the value of an attribute stands a text that would be a comment by itself. -/
theorem scan_grammar_inner :
    let line := "x = y # 2 // @link target='# @end a'".toList
    '\n' ∉ line ∧ BeginsAt line 10 ∧ BeginsAt line 27 ∧
      ∃ parts : CommentParts, parts.WellFormed ∧ line.drop 10 = parts.written ∧
        scan line = some ⟨parts.introducer, parts.body, "x = y # 2".toList⟩ ∧
        Tag.ofBody? parts.body = some parts.tag := by
  intro line
  have oneLine : '\n' ∉ line := by decide
  have begins : BeginsAt line 10 ∧ BeginsAt line 27 := by
    rw [beginsAt_iff oneLine, beginsAt_iff oneLine]
    decide
  have leftmost : ∀ before < 10, ¬BeginsAt line before := by
    simp only [beginsAt_iff oneLine]
    decide
  obtain ⟨parts, wellFormed, written, -, scanned, -, tagged⟩ :=
    (scan_grammar oneLine).2.1 10 begins.1 leftmost
  exact ⟨oneLine, begins.1, begins.2, parts, wellFormed, written, scanned, tagged⟩

end MarkupComment

end SnippetMarkup
