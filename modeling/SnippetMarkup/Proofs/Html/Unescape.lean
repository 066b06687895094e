import Mathlib
import SnippetMarkup.Proofs.Html.Escape
import SnippetMarkup.Proofs.Text.Outdent

/-!
# Reading escaped texts

The entities of an escaped text can be read as the characters that they stand for, and then the text
is there again.  Since no white space is escaped, a text is cut into lines, trimmed and moved to the
left in the same way before it is escaped and after that.
-/

namespace SnippetMarkup.Html

open Unicode (isSpace)
open Text (isBlank trimRight splitLines joinLines)

/-! ## Entities -/

/-- The character whose entity stands at the start of a text, and the text behind it. -/
def readEntity? (text : Text) : Option (Char × Text) :=
  entities.findSome? fun (c, entity) => (entity.isPrefixOf? text).map fun rest => (c, rest)

theorem length_of_readEntity? {text rest : Text} {c : Char}
    (read : readEntity? text = some (c, rest)) : rest.length < text.length := by
  obtain ⟨⟨d, entity⟩, listed, found⟩ := List.exists_of_findSome?_eq_some read
  obtain ⟨behind, isPrefix, same⟩ := Option.map_eq_some_iff.1 found
  obtain ⟨rfl, rfl⟩ := Prod.mk.inj same
  have some : ∀ entity ∈ entities, 0 < entity.2.length := by decide
  rw [← List.isPrefixOf?_eq_some_iff_append_eq.1 isPrefix, List.length_append]
  exact Nat.lt_add_of_pos_left (some _ listed)

/-- A text with every entity read as the character that it stands for, from left to right. -/
def unescape : Text → Text
  | [] => []
  | c :: rest =>
    match _found : readEntity? (c :: rest) with
    | some (d, behind) => d :: unescape behind
    | none => c :: unescape rest
termination_by text => text.length
decreasing_by
  · exact length_of_readEntity? _found
  · exact Nat.lt_succ_self _

theorem unescape_of_readEntity? {text behind : Text} {c : Char}
    (read : readEntity? text = some (c, behind)) : unescape text = c :: unescape behind := by
  cases text with
  | nil => exact absurd (length_of_readEntity? read) (Nat.not_lt_zero _)
  | cons d rest =>
    rw [unescape]
    split
    · next found => rw [read] at found; cases found; rfl
    · next found => rw [read] at found; cases found

theorem unescape_of_unread {c : Char} {rest : Text} (unread : readEntity? (c :: rest) = none) :
    unescape (c :: rest) = c :: unescape rest := by
  rw [unescape]
  split
  · next found => rw [unread] at found; cases found
  · rfl

/-- No entity begins in front of the next one, so that each is read by itself. -/
theorem unescape_entityOf_append (c : Char) (rest : Text) :
    unescape (entityOf c ++ rest) = c :: unescape rest := by
  cases listed : entities.lookup c with
  | some entity =>
    obtain ⟨before, after, found, -⟩ := List.lookup_eq_some_iff.1 listed
    have member : (c, entity) ∈ entities := found ▸ List.mem_append_right before List.mem_cons_self
    have reads : ∀ known ∈ entities, readEntity? (known.2 ++ rest) = some (known.1, rest) := by
      simp [entities, readEntity?, List.isPrefixOf?]
    rw [entityOf, listed, Option.getD_some]
    exact unescape_of_readEntity? (reads _ member)
  | none =>
    have other : '&' ≠ c := by
      rintro rfl
      simp [entities] at listed
    rw [entityOf, listed, Option.getD_none]
    exact unescape_of_unread (by simp [entities, readEntity?, List.isPrefixOf?, other])

/-- An escaped text is read as the text that it was before. -/
theorem unescape_escape (text : Text) : unescape (escape text) = text := by
  rw [escape_eq_flatMap]
  induction text with
  | nil => rw [List.flatMap_nil, unescape]
  | cons c rest ih => rw [List.flatMap_cons, unescape_entityOf_append, ih]

/-! ## White space -/

theorem isBlank_escape (text : Text) : isBlank (escape text) = isBlank text := by
  cases blank : isBlank text with
  | true => rw [escape_of_isBlank blank, blank]
  | false => exact visible_escape blank

theorem escape_append_of_isBlank {space : Text} (blank : isBlank space = true) (text : Text) :
    escape (space ++ text) = space ++ escape text := by
  rw [escape_append, escape_of_isBlank blank]

/-- A character and its entity both begin and end with something visible, or neither does. -/
theorem entityOf_visible {c : Char} (visible : isSpace c = false) :
    Text.startsVisible (entityOf c) = true ∧ trimRight (entityOf c) = entityOf c ∧
      isBlank (entityOf c) = false := by
  have shown : ∀ entity ∈ entities, Text.startsVisible entity.2 = true ∧
      trimRight entity.2 = entity.2 ∧ isBlank entity.2 = false := by decide
  rw [entityOf]
  cases listed : entities.lookup c with
  | some entity =>
    obtain ⟨before, after, found, -⟩ := List.lookup_eq_some_iff.1 listed
    exact shown (c, entity) (found ▸ List.mem_append_right before List.mem_cons_self)
  | none => simp [Text.startsVisible, Text.trimRight, Text.isBlank, visible]

theorem trimRight_escape (text : Text) : trimRight (escape text) = escape (trimRight text) := by
  induction text using List.reverseRecOn with
  | nil => rfl
  | append_singleton front c ih =>
    cases space : isSpace c with
    | true =>
      have blank : isBlank [c] = true := by simp [Text.isBlank, space]
      rw [escape_append, escape_of_isBlank blank, Text.trimRight_append_of_isBlank blank,
        Text.trimRight_append_of_isBlank blank, ih]
    | false =>
      obtain ⟨-, trimmed, visible⟩ := entityOf_visible space
      have alone : trimRight [c] = [c] := by simp [Text.trimRight, space]
      rw [escape_append, escape_singleton, Text.trimRight_append_of_visible visible, trimmed,
        Text.trimRight_append_of_visible (by simp [Text.isBlank, space]), alone, escape_append,
        escape_singleton]

theorem indentation_escape (line : Text) : Text.indentation (escape line) = Text.indentation line := by
  induction line with
  | nil => rfl
  | cons c rest ih =>
    rw [← List.singleton_append, escape_append, escape_singleton]
    cases space : isSpace c with
    | true =>
      have same : entityOf c = [c] := by
        rw [← escape_singleton, escape_of_isBlank (by simp [Text.isBlank, space])]
      rw [Text.indentation] at ih
      simp [Text.indentation, same, space, ih]
    | false =>
      obtain ⟨begins, -⟩ := entityOf_visible space
      obtain ⟨first, others, shape, visible⟩ := Text.exists_cons_of_startsVisible begins
      simp [Text.indentation, shape, space, visible]

/-- White space can be taken off before a line is escaped and after that. -/
theorem drop_escape {line : Text} {count : Nat} (blank : isBlank (line.take count) = true) :
    (escape line).drop count = escape (line.drop count) := by
  have parts : escape line = line.take count ++ escape (line.drop count) := by
    rw [← escape_append_of_isBlank blank, List.take_append_drop]
  rcases Nat.le_total count line.length with within | beyond
  · rw [parts]
    exact List.drop_left' (List.length_take_of_le within)
  · rw [List.drop_of_length_le beyond] at parts ⊢
    rw [parts]
    exact List.drop_of_length_le (by simp [escape, entities, replaceChar])

/-! ## Lines -/

theorem escape_joinLines (lines : List Text) :
    escape (joinLines lines) = joinLines (lines.map escape) := by
  unfold joinLines
  induction lines with
  | nil => rfl
  | cons first rest ih =>
    cases rest with
    | nil => simp
    | cons second others =>
      rw [List.intercalate_cons_cons, List.map_cons, List.map_cons, List.intercalate_cons_cons,
        escape_append, escape_append, ih, List.map_cons]
      rfl

theorem splitLines_escape (text : Text) :
    splitLines (escape text) = (splitLines text).map escape := by
  conv_lhs => rw [← Text.joinLines_splitLines text, escape_joinLines]
  refine Text.splitLines_joinLines (by simp [Text.splitLines_ne_nil]) fun escaped member => ?_
  obtain ⟨line, inside, rfl⟩ := List.mem_map.1 member
  exact lineFeed_notMem_escape (Text.oneLine_of_mem_splitLines inside)

theorem commonIndentation_escape (lines : List Text) :
    Text.commonIndentation (lines.map escape) = Text.commonIndentation lines := by
  have same : Text.indentations (lines.map escape) = Text.indentations lines := by
    simp [Text.indentations, List.filter_map, Function.comp_def, isBlank_escape, indentation_escape]
  rw [Text.commonIndentation_eq, Text.commonIndentation_eq, same]

/-- The indentation that lines share can be taken off before they are escaped and after that. -/
theorem trimIndentLines_escape (lines : List Text) :
    Text.trimIndentLines (lines.map escape) = (Text.trimIndentLines lines).map escape := by
  rw [Text.trimIndentLines, Text.trimIndentLines, commonIndentation_escape,
    Text.dropBlankFirst_map fun line _ => isBlank_escape line,
    Text.dropBlankLast_map fun line _ => isBlank_escape line, List.map_map, List.map_map]
  refine List.map_congr_left fun line kept => drop_escape ?_
  exact Text.isBlank_take_commonIndentation
    (Text.dropBlankFirst_subset _ (Text.dropBlankLast_subset _ kept))

theorem trimIndent_escape (text : Text) :
    Text.trimIndent (escape text) = escape (Text.trimIndent text) := by
  rw [Text.trimIndent, Text.trimIndent, splitLines_escape, trimIndentLines_escape, escape_joinLines]

end SnippetMarkup.Html
