import Mathlib
import SnippetMarkup.Proofs.Html.Unescape
import SnippetMarkup.Proofs.Text.Cut
import SnippetMarkup.Snippet.Converter

/-!
# Texts inside of HTML

Escaping puts entities in the place of four characters, all at once, and the text can be read back.
So a text that is escaped can stand between tags and in double-quoted attributes: no tag begins and
no value ends before the text does, and what is read there is the text.
-/

namespace SnippetMarkup.Html

open Converter (idAttribute inLanguage)

variable {text : Text}

/-! ## Entities -/

/-- The characters that are not left as they are. -/
def marks : List Char := ['&', '<', '>', '"']

/-- What takes the place of a character. -/
def substitute : Char → Text
  | '&' => ['&', 'a', 'm', 'p', ';']
  | '<' => ['&', 'l', 't', ';']
  | '>' => ['&', 'g', 't', ';']
  | '"' => ['&', 'q', 'u', 'o', 't', ';']
  | c => [c]

theorem substitute_of_notMem {c : Char} (unmarked : c ∉ marks) : substitute c = [c] := by
  unfold substitute
  split
  case h_5 => rfl
  all_goals exact absurd (by decide) unmarked

theorem entityOf_eq_substitute (c : Char) : entityOf c = substitute c := by
  by_cases marked : c ∈ marks
  · have same : ∀ c ∈ marks, entityOf c = substitute c := by
      simp only [marks, List.forall_mem_cons]
      exact ⟨rfl, rfl, rfl, rfl, List.forall_mem_nil _⟩
    exact same c marked
  · rw [substitute_of_notMem marked, entityOf_of_ne]
    intro entity listed same
    have known : ∀ entity ∈ entities, entity.1 ∈ marks := by decide
    exact marked (same ▸ known entity listed)

theorem escape_eq_substitute (text : Text) : escape text = text.flatMap substitute := by
  rw [escape_eq_flatMap]
  exact List.flatMap_congr fun c _ => entityOf_eq_substitute c

/-- The only ampersand in what takes the place of a character is the one that an entity begins
with. -/
theorem of_substitute_eq_append {c : Char} {before behind : Text}
    (same : substitute c = before ++ '&' :: behind) : before = [] ∧ c ∈ marks := by
  by_cases marked : c ∈ marks
  · have once : ∀ c ∈ marks, '&' ∉ (substitute c).drop 1 := by
      simp [marks, substitute]
    cases before with
    | nil => exact ⟨rfl, marked⟩
    | cons first others =>
      refine absurd ?_ (once c marked)
      simp [same]
  · rw [substitute_of_notMem marked] at same
    have ampersand : '&' ∈ [c] := same ▸ List.mem_append_right before List.mem_cons_self
    rw [List.mem_singleton] at ampersand
    exact absurd (ampersand ▸ by decide) marked

/-- Every ampersand of an escaped text is the start of an entity. -/
theorem exists_entity_of_escape {before behind : Text}
    (same : escape text = before ++ '&' :: behind) :
    ∃ c ∈ marks, substitute c <+: '&' :: behind := by
  rw [escape_eq_substitute] at same
  induction text generalizing before with
  | nil => simp at same
  | cons c rest ih =>
    rw [List.flatMap_cons] at same
    rcases List.append_eq_append_iff.1 same with ⟨middle, -, later⟩ | ⟨middle, here, later⟩
    · exact ih later
    · cases middle with
      | nil => exact @ih [] (by simpa using later.symm)
      | cons d middle =>
        -- The ampersand belongs to what has taken the place of the first character.
        obtain ⟨rfl, goesOn⟩ := List.cons.inj later
        obtain ⟨rfl, marked⟩ := of_substitute_eq_append here
        refine ⟨c, marked, ?_⟩
        rw [here, goesOn]
        exact List.prefix_append ('&' :: middle) (rest.flatMap substitute)

/-! ## Reading -/

/-- The text up to the next tag, and what begins with the tag. -/
def readContent (text : Text) : Text × Text :=
  (unescape (text.takeWhile (· != '<')), text.dropWhile (· != '<'))

/-- The value of an attribute whose opening quote has been read, and what follows the closing
one. -/
def readValue? (text : Text) : Option (Text × Text) :=
  (Text.splitFirst? '"' text).map fun (value, behind) => (unescape value, behind)

/-- Whether a text begins as given and goes on with a quoted value, which is read as the given one
and followed by the given text. -/
def Quotes (written front value behind : Text) : Prop :=
  ∃ quoted, written = front ++ ['=', '"'] ++ quoted ∧ readValue? quoted = some (value, behind)

theorem readContent_escape (text behind : Text) :
    readContent (escape text ++ '<' :: behind) = (text, '<' :: behind) := by
  have untagged : ∀ c ∈ escape text, (c != '<') = true := fun c member =>
    bne_iff_ne.2 fun same => notMem_escape (by decide) text (same ▸ member)
  rw [readContent, List.takeWhile_append_of_pos untagged, List.dropWhile_append_of_pos untagged]
  simp [unescape_escape]

theorem readValue?_escape (text behind : Text) :
    readValue? (escape text ++ '"' :: behind) = some (text, behind) := by
  have unquoted : '"' ∉ escape text := notMem_escape (by decide) text
  rw [readValue?, Text.splitFirst?_append_mark unquoted]
  show some (unescape (escape text), behind) = some (text, behind)
  rw [unescape_escape]

/-! ## Attributes -/

theorem quotes_idAttribute {snippet : Snippet} (given : snippet.id = some text)
    (some : text ≠ []) : Quotes (idAttribute snippet) " id".toList text [] := by
  obtain ⟨c, rest, rfl⟩ := List.exists_cons_of_ne_nil some
  refine ⟨escape (c :: rest) ++ ['"'], ?_, readValue?_escape _ _⟩
  simp [idAttribute, given]

theorem quotes_inLanguage {snippet : Snippet} (given : snippet.lang = some text)
    (some : text ≠ []) (body : Text) :
    Quotes (inLanguage snippet body) "<code class".toList ("language-".toList ++ text)
      ('>' :: body ++ "</code>".toList) := by
  obtain ⟨c, rest, rfl⟩ := List.exists_cons_of_ne_nil some
  -- The words that are put in front of the language need not be escaped.
  have plain : escape "language-".toList = "language-".toList := by rfl
  refine ⟨escape ("language-".toList ++ c :: rest) ++ '"' :: ('>' :: body ++ "</code>".toList), ?_,
    readValue?_escape _ _⟩
  rw [escape_append, plain]
  simp [inLanguage, given]

theorem quotes_wrapAnchor (attrName text body : Text) :
    Quotes (Operation.wrapAnchor attrName text body) (['<', 'a', ' '] ++ attrName) text
      ('>' :: body ++ Operation.anchorClosing) := by
  refine ⟨escape text ++ '"' :: ('>' :: body ++ Operation.anchorClosing), ?_,
    readValue?_escape _ _⟩
  simp [Operation.wrapAnchor, Operation.anchorOpening]

/-! ## Escaping -/

/-- Escaping a text is putting entities in the place of four characters, all at once.  So texts can
be escaped in parts; in an escaped text there are no angle brackets, no double quotes and no
ampersands but those of entities; reading the entities gives the text back, and no two texts are
escaped to the same.  This is what makes texts safe between tags and as values of attributes, such
as the id and the language of a snippet and the ids of references. -/
theorem escape_substitutes (text : Text) :
    escape text = text.flatMap substitute ∧
      (∀ more, escape (text ++ more) = escape text ++ escape more) ∧
      (∀ c ∈ ['<', '>', '"'], c ∉ escape text) ∧
      (∀ before behind, escape text = before ++ '&' :: behind →
        ∃ c ∈ marks, substitute c <+: '&' :: behind) ∧
      unescape (escape text) = text ∧
      (∀ other, escape other = escape text → other = text) ∧
      (∀ behind, readContent (escape text ++ '<' :: behind) = (text, '<' :: behind)) ∧
      (∀ behind, readValue? (escape text ++ '"' :: behind) = some (text, behind)) ∧
      (∀ snippet : Snippet, snippet.id = some text → text ≠ [] →
        Quotes (idAttribute snippet) " id".toList text []) ∧
      (∀ (snippet : Snippet) (body : Text), snippet.lang = some text → text ≠ [] →
        Quotes (inLanguage snippet body) "<code class".toList ("language-".toList ++ text)
          ('>' :: body ++ "</code>".toList)) ∧
      ∀ attrName body, Quotes (Operation.wrapAnchor attrName text body)
        (['<', 'a', ' '] ++ attrName) text ('>' :: body ++ Operation.anchorClosing) := by
  have injective (other : Text) (same : escape other = escape text) : other = text := by
    rw [← unescape_escape other, same, unescape_escape]
  exact ⟨escape_eq_substitute text, escape_append text, fun c member => notMem_escape member text,
    fun before behind same => exists_entity_of_escape same, unescape_escape text, injective,
    readContent_escape text, readValue?_escape text,
    fun snippet given some => quotes_idAttribute given some,
    fun snippet body given some => quotes_inLanguage given some body,
    fun attrName body => quotes_wrapAnchor attrName text body⟩

/-- A text with an entity in it is not read as the character that the entity stands for. -/
theorem escape_substitutes_entity :
    escape ['"', '&', 'l', 't', ';'] =
        ['&', 'q', 'u', 'o', 't', ';', '&', 'a', 'm', 'p', ';', 'l', 't', ';'] ∧
      unescape (escape ['"', '&', 'l', 't', ';']) = ['"', '&', 'l', 't', ';'] ∧
      Quotes (idAttribute { id := some ['"', '&', 'l', 't', ';'] }) " id".toList
        ['"', '&', 'l', 't', ';'] [] := by
  obtain ⟨substituted, -, -, -, read, -, -, -, ids, -⟩ :=
    escape_substitutes ['"', '&', 'l', 't', ';']
  exact ⟨substituted.trans rfl, read, ids _ rfl (List.cons_ne_nil _ _)⟩

end SnippetMarkup.Html
