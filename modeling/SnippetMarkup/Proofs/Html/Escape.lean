import Mathlib
import SnippetMarkup.Html.Escape
import SnippetMarkup.Proofs.Lookup
import SnippetMarkup.Proofs.Text.Trim

/-!
# Escaped texts

No entity holds a character that is escaped after it, so escaping a text one character after the
other is escaping each of its characters by itself.  An escaped text has no angle brackets and no
double quotes, and its white space is that of the text.
-/

namespace SnippetMarkup.Html

open Unicode (isSpace)

variable {text : Text}

/-! ## Replacing characters in turn -/

section Table

variable {table : List (Char × Text)}

theorem flatMap_eq_self (free : ∀ row ∈ table, row.1 ∉ text) :
    text.flatMap (fun c => (table.lookup c).getD [c]) = text := by
  conv_rhs => rw [← List.flatMap_singleton' text]
  refine List.flatMap_congr fun c member => ?_
  have unlisted : table.lookup c = none :=
    List.lookup_eq_none_iff.2 fun row listed =>
      bne_iff_ne.2 fun same => free row listed (same ▸ member)
  rw [unlisted, Option.getD_none]

/-- The rows of a table can be applied one after the other, as if all were applied at once, if no
text that a row puts in holds a character that a later row replaces. -/
theorem foldl_replaceChar (inOrder : table.Pairwise fun early late => late.1 ∉ early.2)
    (text : Text) :
    table.foldl (fun text (c, replacement) => replaceChar c replacement text) text =
      text.flatMap fun c => (table.lookup c).getD [c] := by
  induction table generalizing text with
  | nil => simp
  | cons row rest ih =>
    obtain ⟨key, replacement⟩ := row
    obtain ⟨free, inOrder⟩ := List.pairwise_cons.1 inOrder
    rw [List.foldl_cons, ih inOrder]
    show (replaceChar key replacement text).flatMap _ = _
    rw [replaceChar, List.flatMap_assoc]
    refine List.flatMap_congr fun c _ => ?_
    rw [lookup_cons_eq_ite]
    by_cases same : c = key
    · -- What has been put in for the character stays as it is.
      rw [if_pos same, if_pos same, Option.getD_some]
      exact flatMap_eq_self free
    · rw [if_neg same, if_neg same, List.flatMap_singleton]

end Table

/-! ## Entities -/

/-- What a character becomes in an escaped text. -/
def entityOf (c : Char) : Text := (entities.lookup c).getD [c]

/-- Of the characters, only four are written as entities. -/
theorem entityOf_of_ne {c : Char} (free : ∀ entity ∈ entities, c ≠ entity.1) :
    entityOf c = [c] := by
  have unlisted : entities.lookup c = none :=
    List.lookup_eq_none_iff.2 fun entity member => bne_iff_ne.2 (free entity member)
  rw [entityOf, unlisted, Option.getD_none]

theorem escape_eq_flatMap (text : Text) : escape text = text.flatMap entityOf :=
  foldl_replaceChar (by decide) text

theorem escape_append (first second : Text) :
    escape (first ++ second) = escape first ++ escape second := by
  rw [escape_eq_flatMap, escape_eq_flatMap, escape_eq_flatMap, List.flatMap_append]

theorem escape_singleton (c : Char) : escape [c] = entityOf c := by
  rw [escape_eq_flatMap, List.flatMap_singleton]

/-- The characters that no escaped text holds. -/
def forbidden : List Char := ['<', '>', '"']

/-- A character stays as it is or becomes an entity, from an ampersand to a semicolon. -/
theorem entityOf_cases (c : Char) :
    entityOf c = [c] ∧ c ∉ forbidden ∨
      ∃ name, entityOf c = '&' :: (name ++ [';']) ∧ ∀ d ∈ forbidden, d ∉ name := by
  by_cases ampersand : c = '&'
  · subst ampersand
    exact .inr ⟨['a', 'm', 'p'], rfl, by simp [forbidden]⟩
  by_cases less : c = '<'
  · subst less
    exact .inr ⟨['l', 't'], rfl, by simp [forbidden]⟩
  by_cases greater : c = '>'
  · subst greater
    exact .inr ⟨['g', 't'], rfl, by simp [forbidden]⟩
  by_cases quote : c = '"'
  · subst quote
    exact .inr ⟨['q', 'u', 'o', 't'], rfl, by simp [forbidden]⟩
  refine .inl ⟨entityOf_of_ne ?_, by simp [forbidden, less, greater, quote]⟩
  simp [entities, ampersand, less, greater, quote]

theorem notMem_escape {d : Char} (member : d ∈ forbidden) (text : Text) : d ∉ escape text := by
  rw [escape_eq_flatMap]
  intro escaped
  obtain ⟨c, -, inside⟩ := List.mem_flatMap.1 escaped
  rcases entityOf_cases c with ⟨same, allowed⟩ | ⟨name, same, others⟩
  · rw [same, List.mem_singleton] at inside
    exact allowed (inside ▸ member)
  · have unnamed := others d member
    have framed : d ≠ '&' ∧ d ≠ ';' := by
      constructor <;> rintro rfl <;> exact absurd member (by decide)
    simp [same, unnamed, framed] at inside

/-- A character of an escaped text is one of the text or of an entity. -/
theorem mem_or_mem_entity_of_mem_escape {d : Char} (member : d ∈ escape text) :
    d ∈ text ∨ ∃ entity ∈ entities, d ∈ entity.2 := by
  rw [escape_eq_flatMap] at member
  obtain ⟨c, inside, member⟩ := List.mem_flatMap.1 member
  rw [entityOf] at member
  cases listed : entities.lookup c with
  | none =>
    rw [listed, Option.getD_none, List.mem_singleton] at member
    exact .inl (member ▸ inside)
  | some entity =>
    obtain ⟨before, after, found, -⟩ := List.lookup_eq_some_iff.1 listed
    rw [listed, Option.getD_some] at member
    exact .inr ⟨(c, entity), found ▸ List.mem_append_right before List.mem_cons_self, member⟩

/-! ## Angle brackets -/

/-- A text without angle brackets. -/
def Plain (text : Text) : Prop := '<' ∉ text ∧ '>' ∉ text

instance (text : Text) : Decidable (Plain text) := inferInstanceAs (Decidable (_ ∧ _))

theorem plain_append_iff {first second : Text} :
    Plain (first ++ second) ↔ Plain first ∧ Plain second := by
  simp only [Plain, List.mem_append, not_or]
  exact and_and_and_comm

theorem Plain.of_subset {part : Text} (plain : Plain text) (within : part ⊆ text) : Plain part :=
  ⟨fun member => plain.1 (within member), fun member => plain.2 (within member)⟩

theorem plain_of_isBlank (blank : Text.isBlank text = true) : Plain text := by
  rw [Text.isBlank, List.all_eq_true] at blank
  exact ⟨fun member => absurd (blank '<' member) (by decide),
    fun member => absurd (blank '>' member) (by decide)⟩

theorem plain_escape (text : Text) : Plain (escape text) :=
  ⟨notMem_escape (by decide) text, notMem_escape (by decide) text⟩

/-! ## White space -/

theorem escape_of_isBlank (blank : Text.isBlank text = true) : escape text = text := by
  induction text with
  | nil => rfl
  | cons c rest ih =>
    rw [Text.isBlank, List.all_cons, Bool.and_eq_true] at blank
    have same : entityOf c = [c] := by
      refine entityOf_of_ne fun entity member same => ?_
      have shown : ∀ entity ∈ entities, isSpace entity.1 = false := by decide
      rw [same, shown entity member] at blank
      exact absurd blank.1 Bool.false_ne_true
    rw [← List.singleton_append, escape_append, escape_singleton, same, ih blank.2]

theorem visible_escape (visible : Text.isBlank text = false) :
    Text.isBlank (escape text) = false := by
  obtain ⟨c, member, shown⟩ := Text.isBlank_eq_false_iff.1 visible
  have within : entityOf c ⊆ escape text := fun d inside => by
    rw [escape_eq_flatMap]
    exact List.mem_flatMap_of_mem member inside
  refine Text.visible_of_subset within (Text.isBlank_eq_false_iff.2 ?_)
  rcases entityOf_cases c with ⟨same, -⟩ | ⟨name, entity, -⟩
  · exact ⟨c, by simp [same], shown⟩
  · exact ⟨'&', by simp [entity], by decide⟩

theorem lineFeed_notMem_escape (oneLine : '\n' ∉ text) : '\n' ∉ escape text := by
  intro member
  rcases mem_or_mem_entity_of_mem_escape member with inside | ⟨entity, listed, inside⟩
  · exact oneLine inside
  · have plain : ∀ entity ∈ entities, '\n' ∉ entity.2 := by decide
    exact plain entity listed inside

/-- White space at the end of an escaped text stood at the end of the text. -/
theorem exists_escape_of_append {front space : Text} (same : escape text = front ++ space)
    (blank : Text.isBlank space = true) : ∃ part, front = escape part := by
  induction space using List.reverseRecOn generalizing text with
  | nil => exact ⟨text, by simpa using same.symm⟩
  | append_singleton space c ih =>
    rw [Text.isBlank, List.all_append, Bool.and_eq_true] at blank
    have isSpace_c : isSpace c = true := by simpa using blank.2
    rcases List.eq_nil_or_concat' text with rfl | ⟨init, last, rfl⟩
    · have lengths := congrArg List.length same
      simp [escape_eq_flatMap] at lengths
    · rw [escape_append, escape_singleton, ← List.append_assoc] at same
      rcases entityOf_cases last with ⟨alone, -⟩ | ⟨name, entity, -⟩
      · rw [alone] at same
        exact ih (List.append_inj_left' same rfl) blank.1
      · -- The last character of an entity is no white space.
        have ends : c = ';' := by
          rw [entity, ← List.cons_append, ← List.append_assoc] at same
          exact (List.singleton_inj.1 (List.append_inj_right' same rfl)).symm
        rw [ends] at isSpace_c
        exact absurd isSpace_c (by decide)

end SnippetMarkup.Html
