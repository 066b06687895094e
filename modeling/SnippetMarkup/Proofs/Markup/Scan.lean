import Mathlib
import SnippetMarkup.Markup.Comment
import SnippetMarkup.Proofs.Text.Trim

/-!
# Scanning for markup comments

The code in front of a comment has no white space at its end.  Without an `@` there is no comment,
and up to the first `@` of a line the place where its comment begins does not depend on what
follows: it is the leftmost one from which an introducer and white space lead up to the `@`.
-/

namespace SnippetMarkup

open Unicode (isSpace)

/-! ## Tags and bodies -/

@[simp] theorem Tag.read?_written (tag : Tag) (rest : Text) :
    Tag.read? (tag.written ++ rest) = some (tag, rest) := by
  cases tag <;> rfl

@[simp] theorem Tag.ofBody?_written (tag : Tag) (rest : Text) :
    Tag.ofBody? (tag.written ++ rest) = some tag := by
  simp [Tag.ofBody?]

theorem Tag.eq_of_read? {text rest : Text} {tag : Tag} (read : Tag.read? text = some (tag, rest)) :
    text = tag.written ++ rest := by
  obtain ⟨found, -, matched⟩ := List.exists_of_findSome?_eq_some read
  obtain ⟨after, isPrefix, same⟩ := Option.map_eq_some_iff.1 matched
  simp only [Prod.mk.injEq] at same
  rw [← same.1, ← same.2]
  exact (List.isPrefixOf?_eq_some_iff_append_eq.1 isPrefix).symm

namespace MarkupComment

/-- The white space after a tag must be followed by something. -/
theorem tail?_eq_some_iff {rest tail : Text} (oneLine : '\n' ∉ rest) :
    tail? rest = some tail ↔
      tail = rest ∧ (rest = [] ∨ ∃ c more, rest = c :: more ∧ isSpace c = true ∧ more ≠ []) := by
  cases rest with
  | nil =>
    have nothing : tail? [] = some [] := rfl
    simp only [nothing, Option.some.injEq, true_or, and_true]
    exact eq_comm
  | cons c more =>
    have plain : ∀ d ∈ more, (d != '\n') = true := by
      intro d member
      simp only [bne_iff_ne]
      rintro rfl
      exact oneLine (List.mem_cons_of_mem c member)
    have shown : more.takeWhile (· != '\n') = more := List.takeWhile_eq_self_iff.2 plain
    have ended : more.dropWhile (· != '\n') = [] := List.dropWhile_eq_nil_iff.2 plain
    have first : (c :: more == ['\n']) = false := by
      rw [beq_eq_false_iff_ne]
      rintro same
      exact oneLine (same ▸ List.mem_cons_self)
    simp only [tail?, shown, ended, atEnd, first]
    cases space : isSpace c with
    | false => simp [space]
    | true =>
      cases more with
      | nil => simp
      | cons d more =>
        simp only [List.isEmpty_cons, Bool.not_false, BEq.rfl, Bool.true_or, Bool.and_true,
          if_true, Option.some.injEq]
        exact ⟨fun same => ⟨same.symm, .inr ⟨c, d :: more, rfl, space, by simp⟩⟩,
          fun same => same.1.symm⟩

/-- The body of a comment is all of the line from its tag on. -/
theorem body?_eq_some_iff {text body : Text} (oneLine : '\n' ∉ text) :
    body? text = some body ↔
      body = text ∧ ∃ tag rest, text = Tag.written tag ++ rest ∧
        (rest = [] ∨ ∃ c more, rest = c :: more ∧ isSpace c = true ∧ more ≠ []) := by
  constructor
  · intro read
    obtain ⟨⟨tag, rest⟩, tagged, found⟩ := Option.bind_eq_some_iff.1 read
    obtain ⟨tail, shaped, rfl⟩ := Option.map_eq_some_iff.1 found
    obtain rfl := Tag.eq_of_read? tagged
    have restOneLine : '\n' ∉ rest := fun member => oneLine (List.mem_append_right _ member)
    obtain ⟨rfl, shape⟩ := (tail?_eq_some_iff restOneLine).1 shaped
    exact ⟨rfl, tag, tail, rfl, shape⟩
  · rintro ⟨rfl, tag, rest, rfl, shape⟩
    have restOneLine : '\n' ∉ rest := fun member => oneLine (List.mem_append_right _ member)
    simp [body?, (tail?_eq_some_iff restOneLine).2 ⟨rfl, shape⟩]

/-! ## Places -/

theorem trimRight_code {passed line : Text} {comment : MarkupComment}
    (scanned : scanFrom passed line = some comment) :
    Text.trimRight comment.code = comment.code := by
  induction line generalizing passed with
  | nil => simp [scanFrom] at scanned
  | cons c rest ih =>
    rw [scanFrom] at scanned
    split at scanned
    · simp only [Option.some.injEq] at scanned
      simp [← scanned]
    · exact ih scanned

theorem code_eq_nil {passed line : Text} {comment : MarkupComment}
    (scanned : scanFrom passed line = some comment) (blank : Text.isBlank comment.code = true) :
    comment.code = [] := by
  rw [← trimRight_code scanned] at blank ⊢
  exact Text.trimRight_eq_nil_of_isBlank _ blank

end MarkupComment

/-- The introducer that a text is, with white space after it. -/
def opener? (text : Text) : Option Introducer :=
  (Introducer.read? text).bind fun (introducer, rest) =>
    if Text.isBlank rest then some introducer else none

theorem isPrefixOf?_append_mark {pattern front rest : Text} (unmarked : '@' ∉ pattern) :
    pattern.isPrefixOf? (front ++ '@' :: rest) =
      (pattern.isPrefixOf? front).map (· ++ '@' :: rest) := by
  induction pattern generalizing front with
  | nil => simp [List.isPrefixOf?]
  | cons c pattern ih =>
    simp only [List.mem_cons, not_or] at unmarked
    cases front with
    | nil => simp [List.isPrefixOf?, Ne.symm unmarked.1]
    | cons d front =>
      simp only [List.cons_append, List.isPrefixOf?]
      split
      · exact ih unmarked.2
      · rfl

namespace Introducer

theorem mark_notMem_written (introducer : Introducer) : '@' ∉ introducer.written := by
  cases introducer <;> decide

theorem isSpace_of_mem_written (introducer : Introducer) {c : Char}
    (member : c ∈ introducer.written) : isSpace c = false := by
  cases introducer <;> simp only [written, List.mem_cons, List.not_mem_nil, or_false] at member <;>
    rcases member with rfl | rfl | rfl <;> rfl

theorem exists_written_eq_cons (introducer : Introducer) :
    ∃ mark others, introducer.written = mark :: others := by
  cases introducer <;> exact ⟨_, _, rfl⟩

theorem exists_mem_written (introducer : Introducer) : ∃ c, c ∈ introducer.written := by
  obtain ⟨mark, others, shape⟩ := introducer.exists_written_eq_cons
  exact ⟨mark, shape ▸ List.mem_cons_self⟩

theorem eq_of_read? {text rest : Text} {introducer : Introducer}
    (read : read? text = some (introducer, rest)) : text = introducer.written ++ rest := by
  obtain ⟨found, -, matched⟩ := List.exists_of_findSome?_eq_some read
  obtain ⟨after, isPrefix, same⟩ := Option.map_eq_some_iff.1 matched
  simp only [Prod.mk.injEq] at same
  rw [← same.1, ← same.2]
  exact (List.isPrefixOf?_eq_some_iff_append_eq.1 isPrefix).symm

/-- No introducer reaches over an `@`. -/
theorem read?_append_mark (front rest : Text) :
    read? (front ++ '@' :: rest) =
      (read? front).map fun (introducer, after) => (introducer, after ++ '@' :: rest) := by
  unfold read?
  rw [List.map_findSome?]
  congr 1
  funext introducer
  simp [isPrefixOf?_append_mark introducer.mark_notMem_written, Option.map_map,
    Function.comp_def]

end Introducer

namespace MarkupComment

theorem body?_eq_none {c : Char} {rest : Text} (other : c ≠ '@') : body? (c :: rest) = none := by
  rw [body?, Option.bind_eq_none_iff]
  intro (tag, after) read
  have starts := Tag.eq_of_read? read
  rw [Tag.written, List.cons_append, List.cons.injEq] at starts
  exact (other starts.1).elim

theorem body?_trimLeft_eq_none {text : Text} (unmarked : '@' ∉ text) :
    body? (Text.trimLeft text) = none := by
  have unmarkedShown : '@' ∉ Text.trimLeft text :=
    fun member => unmarked ((List.dropWhile_sublist isSpace).subset member)
  cases trimmed : Text.trimLeft text with
  | nil => rfl
  | cons c shown =>
    rw [trimmed] at unmarkedShown
    exact body?_eq_none fun same => unmarkedShown (same ▸ List.mem_cons_self)

/-- In front of an `@`, nothing but an introducer and white space makes a comment of it. -/
theorem read?_append_mark {front : Text} (unmarked : '@' ∉ front) (rest : Text) :
    read? (front ++ '@' :: rest) =
      (opener? front).bind fun introducer =>
        (body? ('@' :: rest)).map fun body => (introducer, body) := by
  rw [read?, Introducer.read?_append_mark, opener?]
  cases found : Introducer.read? front with
  | none => rfl
  | some opened =>
    obtain ⟨introducer, after⟩ := opened
    have unmarkedAfter : '@' ∉ after := by
      rw [Introducer.eq_of_read? found] at unmarked
      exact fun member => unmarked (List.mem_append_right _ member)
    simp only [Option.map_some, Option.bind_some]
    cases blank : Text.isBlank after with
    | true =>
      rw [Text.trimLeft_append_of_isBlank blank]
      rfl
    | false =>
      rw [Text.trimLeft_append_of_visible blank]
      cases trimmed : Text.trimLeft after with
      | nil =>
        rw [Text.trimLeft_eq_nil_iff, blank] at trimmed
        simp at trimmed
      | cons c shown =>
        have other : c ≠ '@' := by
          rintro rfl
          refine unmarkedAfter ((List.dropWhile_sublist isSpace).subset ?_)
          rw [← Text.trimLeft, trimmed]
          exact List.mem_cons_self
        simp [body?_eq_none other]

/-- Without an `@` there is no comment. -/
theorem scanFrom_eq_none {text : Text} (unmarked : '@' ∉ text) (passed : Text) :
    scanFrom passed text = none := by
  induction text generalizing passed with
  | nil => rfl
  | cons c rest ih =>
    have nothing : read? (c :: rest) = none := by
      rw [read?, Option.bind_eq_none_iff]
      rintro ⟨introducer, after⟩ found
      have inside := Introducer.eq_of_read? found
      rw [inside] at unmarked
      simp [body?_trimLeft_eq_none fun member => unmarked (List.mem_append_right _ member)]
    rw [scanFrom, nothing]
    exact ih (fun member => unmarked (List.mem_cons_of_mem c member)) (c :: passed)

/-- The introducer of the leftmost comment that begins in a text and has its `@` right after it,
and the code in front of that comment. -/
def begins? (passed : Text) : Text → Option (Introducer × Text)
  | [] => none
  | c :: rest =>
    match opener? (c :: rest) with
    | some introducer => some (introducer, Text.trimRight passed.reverse)
    | none => begins? (c :: passed) rest

theorem opener?_written (introducer : Introducer) :
    opener? (introducer.written ++ [' ']) = some introducer := by
  cases introducer <;> rfl

/-- No introducer reaches over the white space in front of another one. -/
theorem opener?_eq_none (front : Text) (introducer : Introducer) :
    opener? (front ++ ' ' :: introducer.written ++ [' ']) = none := by
  obtain ⟨mark, member⟩ := introducer.exists_mem_written
  have visible := introducer.isSpace_of_mem_written member
  rw [opener?, Option.bind_eq_none_iff]
  rintro ⟨other, rest⟩ read
  have cut := Introducer.eq_of_read? read
  suffices shown : mark ∈ rest by
    have notBlank : Text.isBlank rest = false := by
      rw [Text.isBlank, List.all_eq_false]
      exact ⟨mark, shown, by simp [visible]⟩
    simp [notBlank]
  rw [List.append_assoc, List.append_eq_append_iff] at cut
  rcases cut with ⟨inner, whole, tail⟩ | ⟨inner, whole, tail⟩
  · cases inner with
    | nil =>
      rw [List.nil_append] at tail
      simp [← tail, member]
    | cons c inner =>
      rw [List.cons_append, List.cons_append, List.cons.injEq] at tail
      have space : isSpace c = false :=
        other.isSpace_of_mem_written (by simp [whole])
      rw [← tail.1] at space
      exact absurd space (by decide)
  · simp [tail, member]

theorem begins?_introducer (passed front : Text) (introducer : Introducer) :
    begins? passed (front ++ ' ' :: introducer.written ++ [' ']) =
      some (introducer, Text.trimRight (passed.reverse ++ front)) := by
  induction front generalizing passed with
  | nil =>
    have here := opener?_eq_none [] introducer
    have opened := opener?_written introducer
    obtain ⟨mark, rest, shape⟩ := introducer.exists_written_eq_cons
    simp only [List.nil_append, List.append_nil, List.cons_append, shape] at here opened ⊢
    rw [begins?, here]
    simp only [begins?, opened, List.reverse_cons]
    rw [Text.trimRight_append_of_isBlank (by decide)]
  | cons c front ih =>
    have here := opener?_eq_none (c :: front) introducer
    simp only [List.cons_append] at here ⊢
    rw [begins?, here]
    simpa using ih (c :: passed)

/-- A comment whose `@` is the first of its line begins where it would with any other body. -/
theorem scanFrom_append_mark {front rest body : Text} (unmarked : '@' ∉ front)
    (read : body? ('@' :: rest) = some body) (passed : Text) :
    scanFrom passed (front ++ '@' :: rest) =
      match begins? passed front with
      | some (introducer, code) => some ⟨introducer, body, code⟩
      | none => scanFrom (front.reverse ++ passed) ('@' :: rest) := by
  induction front generalizing passed with
  | nil => rfl
  | cons c front ih =>
    have later := ih (fun member => unmarked (List.mem_cons_of_mem c member)) (c :: passed)
    have here := read?_append_mark unmarked rest
    rw [read] at here
    rw [List.cons_append] at here ⊢
    rw [scanFrom, here, begins?]
    cases opener? (c :: front) with
    | some introducer => rfl
    | none => simpa using later

/-- If nothing can be read from the first `@` of a line, no comment ends there. -/
theorem scanFrom_append_mark_eq_none {front rest : Text} (unmarked : '@' ∉ front)
    (unmarkedRest : '@' ∉ rest) (unread : body? ('@' :: rest) = none) (passed : Text) :
    scanFrom passed (front ++ '@' :: rest) = none := by
  induction front generalizing passed with
  | nil =>
    have nothing : read? ('@' :: rest) = none := by
      rw [read?, show Introducer.read? ('@' :: rest) = none from
        Introducer.read?_append_mark [] rest]
      rfl
    rw [List.nil_append, scanFrom, nothing]
    exact scanFrom_eq_none unmarkedRest _
  | cons c front ih =>
    have here := read?_append_mark unmarked rest
    rw [unread] at here
    rw [List.cons_append] at here ⊢
    rw [scanFrom, here]
    cases opener? (c :: front) with
    | some introducer => exact ih (fun member => unmarked (List.mem_cons_of_mem c member)) _
    | none => exact ih (fun member => unmarked (List.mem_cons_of_mem c member)) _

theorem exists_body?_of_scanFrom {passed line : Text} {comment : MarkupComment}
    (scanned : scanFrom passed line = some comment) :
    ∃ text, text <:+ line ∧ body? text = some comment.body := by
  induction line generalizing passed with
  | nil => simp [scanFrom] at scanned
  | cons c rest ih =>
    rw [scanFrom] at scanned
    split at scanned
    · next introducer body read =>
      obtain ⟨⟨opened, after⟩, found, bodied⟩ := Option.bind_eq_some_iff.1 read
      obtain ⟨shown, bodyRead, same⟩ := Option.map_eq_some_iff.1 bodied
      simp only [Prod.mk.injEq] at same
      simp only [Option.some.injEq] at scanned
      refine ⟨Text.trimLeft after, ?_, by rw [bodyRead, ← scanned, same.2]⟩
      rw [Introducer.eq_of_read? found]
      exact (List.dropWhile_suffix isSpace).trans (List.suffix_append _ _)
    · obtain ⟨text, suffix, read⟩ := ih scanned
      exact ⟨text, suffix.trans (List.suffix_cons c rest), read⟩

theorem body_oneLine {passed line : Text} {comment : MarkupComment}
    (scanned : scanFrom passed line = some comment) (oneLine : '\n' ∉ line) :
    '\n' ∉ comment.body := by
  obtain ⟨text, suffix, read⟩ := exists_body?_of_scanFrom scanned
  have textOneLine : '\n' ∉ text := fun member => oneLine (suffix.subset member)
  exact ((body?_eq_some_iff textOneLine).1 read).1 ▸ textOneLine

theorem code_subset {passed line : Text} {comment : MarkupComment}
    (scanned : scanFrom passed line = some comment) : comment.code ⊆ passed.reverse ++ line := by
  induction line generalizing passed with
  | nil => simp [scanFrom] at scanned
  | cons c rest ih =>
    rw [scanFrom] at scanned
    split at scanned
    · obtain rfl := Option.some.inj scanned
      exact List.Subset.trans (Text.trimRight_subset _) (List.subset_append_left _ _)
    · simpa using ih scanned

/-! ## Indented lines -/

/-- What has been passed over before stands in front of the code. -/
theorem scanFrom_append (front passed line : Text) :
    scanFrom (passed ++ front.reverse) line =
      (scanFrom passed line).map fun comment =>
        { comment with code := Text.trimRight (front ++ comment.code) } := by
  induction line generalizing passed with
  | nil => rfl
  | cons c rest ih =>
    rw [scanFrom, scanFrom]
    split
    · rw [List.reverse_append, List.reverse_reverse, Option.map_some,
        Text.trimRight_append_trimRight]
    · rw [← List.cons_append]
      exact ih (c :: passed)

theorem read?_of_isSpace {c : Char} (space : isSpace c = true) (rest : Text) :
    read? (c :: rest) = none := by
  rw [read?, Option.bind_eq_none_iff]
  rintro ⟨introducer, after⟩ read
  have cut := Introducer.eq_of_read? read
  obtain ⟨mark, others, shape⟩ := introducer.exists_written_eq_cons
  rw [shape, List.cons_append, List.cons.injEq] at cut
  have visible := introducer.isSpace_of_mem_written (shape ▸ List.mem_cons_self)
  rw [← cut.1, space] at visible
  simp at visible

/-- No comment begins with white space. -/
theorem scanFrom_append_of_isBlank {space : Text} (blank : Text.isBlank space) (passed line : Text) :
    scanFrom passed (space ++ line) = scanFrom (space.reverse ++ passed) line := by
  induction space generalizing passed with
  | nil => rfl
  | cons c space ih =>
    rw [Text.isBlank, List.all_cons, Bool.and_eq_true] at blank
    rw [List.cons_append, scanFrom, read?_of_isSpace blank.1]
    simpa using ih blank.2 (c :: passed)

/-- The comment of a line is that of the line with white space in front. -/
theorem scan_append_of_isBlank {space : Text} (blank : Text.isBlank space) (line : Text) :
    scan (space ++ line) =
      (scan line).map fun comment =>
        { comment with code := Text.trimRight (space ++ comment.code) } := by
  rw [scan, scanFrom_append_of_isBlank blank, List.append_nil]
  exact scanFrom_append space [] line

section Appended

variable {line rest : Text} (unmarked : '@' ∉ line) (introducer : Introducer)
include unmarked

theorem mark_notMem_appended : '@' ∉ line ++ ' ' :: introducer.written ++ [' '] := by
  have other := introducer.mark_notMem_written
  simp [unmarked, other]

/-- A comment that is put at the end of a line without an `@` is the comment of that line. -/
theorem scan_appended {body : Text} (read : body? ('@' :: rest) = some body) :
    scan (line ++ ' ' :: introducer.written ++ ' ' :: '@' :: rest) =
      some ⟨introducer, body, Text.trimRight line⟩ := by
  have whole : line ++ ' ' :: introducer.written ++ ' ' :: '@' :: rest =
      line ++ ' ' :: introducer.written ++ [' '] ++ '@' :: rest := by simp
  rw [scan, whole, scanFrom_append_mark (mark_notMem_appended unmarked introducer) read,
    begins?_introducer]
  rfl

theorem scan_appended_eq_none (unmarkedRest : '@' ∉ rest) (unread : body? ('@' :: rest) = none) :
    scan (line ++ ' ' :: introducer.written ++ ' ' :: '@' :: rest) = none := by
  have whole : line ++ ' ' :: introducer.written ++ ' ' :: '@' :: rest =
      line ++ ' ' :: introducer.written ++ [' '] ++ '@' :: rest := by simp
  rw [scan, whole]
  exact scanFrom_append_mark_eq_none (mark_notMem_appended unmarked introducer) unmarkedRest
    unread []

end Appended

end MarkupComment

end SnippetMarkup
