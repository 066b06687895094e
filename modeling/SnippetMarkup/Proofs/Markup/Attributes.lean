import Mathlib
import SnippetMarkup.Markup.Attributes
import SnippetMarkup.Proofs.Text.Trim

/-!
# Attributes and white space

White space at the end of a markup body says nothing: it neither ends a quoted value, nor belongs
to a bare one, nor begins a name.  And an attribute that is given nothing but white space has no
value.
-/

namespace SnippetMarkup

open Unicode (isSpace isWord covers)

/-! ## Ranges -/

namespace Unicode

/-- The code points in some ranges. -/
def points (ranges : List (Nat × Nat)) : List Nat :=
  ranges.flatMap fun (low, high) => List.range' low (high + 1 - low)

theorem mem_points_of_covers {ranges : List (Nat × Nat)} {n : Nat}
    (covered : covers ranges n = true) : n ∈ points ranges := by
  induction ranges with
  | nil => simp [covers] at covered
  | cons range rest ih =>
    obtain ⟨low, high⟩ := range
    rw [covers] at covered
    rw [points, List.flatMap_cons, List.mem_append]
    split at covered
    · simp at covered
    · split at covered
      · left
        rw [List.mem_range'_1]
        omega
      · exact .inr (ih covered)

theorem isWord_of_isSpace {c : Char} (space : isSpace c = true) : isWord c = false := by
  have apart : ∀ n ∈ points spaceRanges, covers wordRanges n = false := by decide +kernel
  exact apart _ (mem_points_of_covers space)

end Unicode

/-! ## White space behind a text -/

section Behind

variable {space : Text} (blank : Text.isBlank space = true)
include blank

theorem takeWhile_append_of_isBlank {p : Char → Bool} (stops : ∀ c, isSpace c = true → p c = false)
    (text : Text) : (text ++ space).takeWhile p = text.takeWhile p := by
  induction text with
  | nil =>
    cases space with
    | nil => rfl
    | cons c rest =>
      simp only [Text.isBlank, List.all_cons, Bool.and_eq_true] at blank
      simp [stops c blank.1]
  | cons c text ih => by_cases taken : p c <;> simp [taken, ih]

theorem dropWhile_append_of_isBlank {p : Char → Bool} (stops : ∀ c, isSpace c = true → p c = false)
    (text : Text) : (text ++ space).dropWhile p = text.dropWhile p ++ space := by
  induction text with
  | nil =>
    cases space with
    | nil => rfl
    | cons c rest =>
      simp only [Text.isBlank, List.all_cons, Bool.and_eq_true] at blank
      simp [stops c blank.1]
  | cons c text ih => by_cases dropped : p c <;> simp [dropped, ih]

theorem splitFirst?_append_of_isBlank {mark : Char} (visible : isSpace mark = false)
    (text : Text) :
    Text.splitFirst? mark (text ++ space) =
      (Text.splitFirst? mark text).map fun (before, after) => (before, after ++ space) := by
  induction text with
  | nil =>
    induction space with
    | nil => rfl
    | cons c rest ih =>
      simp only [Text.isBlank, List.all_cons, Bool.and_eq_true] at blank
      have other : c ≠ mark := by
        rintro rfl
        simp [visible] at blank
      have unsplit := ih blank.2
      simp only [List.nil_append] at unsplit ⊢
      simp [Text.splitFirst?, other, unsplit]
  | cons c text ih =>
    rw [List.cons_append, Text.splitFirst?, Text.splitFirst?, ih]
    split
    · rfl
    · simp [Option.map_map, Function.comp_def]

namespace WrittenValue

theorem readBare_append (text : Text) :
    readBare (text ++ space) = ((readBare text).1, (readBare text).2 ++ space) := by
  have stops : ∀ c, isSpace c = true → (!isSpace c) = false := by simp
  rw [readBare, readBare, takeWhile_append_of_isBlank blank stops,
    dropWhile_append_of_isBlank blank stops]

omit blank in
theorem readAssigned_eq_readBare {text : Text} (single : ∀ rest, text ≠ '\'' :: rest)
    (double : ∀ rest, text ≠ '"' :: rest) : readAssigned text = readBare text := by
  unfold readAssigned
  split
  · exact (single _ rfl).elim
  · exact (double _ rfl).elim
  · rfl

theorem readAssigned_append (text : Text) :
    readAssigned (text ++ space) = ((readAssigned text).1, (readAssigned text).2 ++ space) := by
  have bare := readBare_append blank
  cases text with
  | nil =>
    have unquoted : ∀ c, isSpace c = false → ∀ rest, space ≠ c :: rest := by
      rintro c visible rest rfl
      simp [Text.isBlank, visible] at blank
    rw [List.nil_append, readAssigned_eq_readBare (unquoted _ (by decide))
      (unquoted _ (by decide)), readAssigned_eq_readBare (by simp) (by simp)]
    exact bare []
  | cons c text =>
    rw [List.cons_append]
    by_cases single : c = '\''
    · subst single
      have visible : isSpace '\'' = false := by decide
      simp only [readAssigned, splitFirst?_append_of_isBlank blank visible]
      cases Text.splitFirst? '\'' text with
      | none => exact bare ('\'' :: text)
      | some cut => rfl
    · by_cases double : c = '"'
      · subst double
        have visible : isSpace '"' = false := by decide
        simp only [readAssigned, splitFirst?_append_of_isBlank blank visible]
        cases Text.splitFirst? '"' text with
        | none => exact bare ('"' :: text)
        | some cut => rfl
      · rw [readAssigned_eq_readBare (by simp [single]) (by simp [double]),
          readAssigned_eq_readBare (by simp [single]) (by simp [double])]
        exact bare (c :: text)

omit blank in
theorem read_eq_absent {text : Text} (unassigned : ∀ rest, Text.trimLeft text ≠ '=' :: rest) :
    read text = (absent, Text.trimLeft text) := by
  unfold read
  split
  · next found => exact (unassigned _ found).elim
  · rfl

theorem read_append (text : Text) :
    ∃ rest, Text.isBlank rest = true ∧
      read (text ++ space) = ((read text).1, (read text).2 ++ rest) := by
  have trimmed := Text.trimLeft_eq_nil_iff.2 blank
  cases textBlank : Text.isBlank text with
  | true =>
    have nothing := Text.trimLeft_eq_nil_iff.2 textBlank
    refine ⟨[], rfl, ?_⟩
    simp only [read, Text.trimLeft_append_of_isBlank textBlank, trimmed, nothing]
    rfl
  | false =>
    have whole : Text.trimLeft (text ++ space) = Text.trimLeft text ++ space :=
      Text.trimLeft_append_of_visible textBlank
    by_cases assigned : ∃ rest, Text.trimLeft text = '=' :: rest
    · obtain ⟨rest, found⟩ := assigned
      rw [found] at whole
      simp only [read, whole, found, List.cons_append]
      cases restBlank : Text.isBlank rest with
      | true =>
        have nothing := Text.trimLeft_eq_nil_iff.2 restBlank
        refine ⟨[], rfl, ?_⟩
        simp only [Text.trimLeft_append_of_isBlank restBlank, trimmed, nothing, List.append_nil]
      | false =>
        refine ⟨space, blank, ?_⟩
        rw [Text.trimLeft_append_of_visible restBlank, readAssigned_append blank]
    · simp only [not_exists] at assigned
      refine ⟨space, blank, ?_⟩
      rw [read_eq_absent assigned, read_eq_absent, whole]
      intro rest found
      rw [whole] at found
      cases shown : Text.trimLeft text with
      | nil => simp [Text.trimLeft_eq_nil_iff, textBlank] at shown
      | cons c others =>
        rw [shown, List.cons_append, List.cons.injEq] at found
        exact assigned others (found.1 ▸ shown)

end WrittenValue

namespace Assignment

omit blank in
theorem readAll_eq_nil {text : Text} (nothing : text.dropWhile (fun c => !isWord c) = []) :
    readAll text = [] := by
  rw [readAll]
  split
  · rfl
  · next found =>
    rw [nothing] at found
    simp at found

omit blank in
theorem readAll_eq_cons {text rest : Text} {c : Char}
    (begins : text.dropWhile (fun c => !isWord c) = c :: rest) :
    readAll text =
      ⟨c :: rest.takeWhile isWord, (WrittenValue.read (rest.dropWhile isWord)).1⟩ ::
        readAll (WrittenValue.read (rest.dropWhile isWord)).2 := by
  rw [readAll]
  split
  · next found =>
    rw [begins] at found
    simp at found
  · next found =>
    rw [begins, List.cons.injEq] at found
    obtain ⟨rfl, rfl⟩ := found
    rfl

/-- White space behind assignments makes no assignment. -/
theorem readAll_append (text : Text) : readAll (text ++ space) = readAll text := by
  have noWord : ∀ c, isSpace c = true → isWord c = false := fun c => Unicode.isWord_of_isSpace
  -- What is left over after a value ends in white space again, but not in the same.
  induction text using readAll.induct generalizing space
  case case1 text nothing =>
    have passed : space.dropWhile (fun c => !isWord c) = [] := by
      refine List.dropWhile_eq_nil_iff.2 fun c member => ?_
      simp [noWord c (List.all_eq_true.1 blank c member)]
    rw [readAll_eq_nil nothing, readAll_eq_nil]
    rw [List.dropWhile_append, nothing]
    exact passed
  case case2 text c rest begins value ih =>
    have whole : (text ++ space).dropWhile (fun c => !isWord c) = c :: (rest ++ space) := by
      rw [List.dropWhile_append, begins]
      rfl
    obtain ⟨behind, behindBlank, valued⟩ :=
      WrittenValue.read_append blank (rest.dropWhile isWord)
    rw [readAll_eq_cons whole, readAll_eq_cons begins, takeWhile_append_of_isBlank blank noWord,
      dropWhile_append_of_isBlank blank noWord, valued, ih behindBlank]

end Assignment

end Behind

/-! ## White space behind a body -/

namespace Attributes

theorem text_written (tag : Tag) (rest : Text) :
    text tag (tag.written ++ rest) = Text.trimLeft rest := by
  rw [text, List.isPrefixOf?_eq_some_iff_append_eq.2 rfl, Option.getD_some]

theorem trimRight_written (tag : Tag) : Text.trimRight tag.written = tag.written := by
  cases tag <;> decide

/-- White space at the end of a body changes no attribute. -/
theorem parse_trimRight (tag : Tag) (rest : Text) :
    parse tag (Text.trimRight (tag.written ++ rest)) = parse tag (tag.written ++ rest) := by
  obtain ⟨space, blank, cut⟩ := Text.exists_trimRight_append rest
  rw [Text.trimRight_append (trimRight_written tag), parse, parse, text_written, text_written]
  generalize Text.trimRight rest = front at cut ⊢
  subst cut
  cases frontBlank : Text.isBlank front with
  | true =>
    rw [Text.trimLeft_append_of_isBlank frontBlank, Text.trimLeft_eq_nil_iff.2 blank,
      Text.trimLeft_eq_nil_iff.2 frontBlank]
  | false => rw [Text.trimLeft_append_of_visible frontBlank, Assignment.readAll_append blank]

end Attributes

/-! ## Values -/

theorem WrittenValue.visible_of_value? {written : WrittenValue} {value : Text}
    (given : written.value? = some value) : Text.isBlank value = false := by
  have candidate (text : Text) (found : Text.firstVisible? [some text] = some value) :
      Text.isBlank value = false := by
    simp only [Text.firstVisible?, List.findSome?_cons] at found
    split at found
    · next shown kept =>
      obtain rfl := Option.some.inj found
      simpa using (Option.filter_eq_some_iff.1 kept).2
    · simp at found
  cases written with
  | absent => simp [value?] at given
  | single text => exact candidate text given
  | double text => exact candidate text given
  | bare text => exact candidate text given

namespace Attributes

theorem visible_of_mem_collect (tag : Tag) (assignments : List Assignment) :
    ∀ entry ∈ (collect tag assignments).1, ∀ value ∈ entry.2, Text.isBlank value = false := by
  refine List.foldlRecOn (motive := fun collected : Attributes × List Text =>
    ∀ entry ∈ collected.1, ∀ value ∈ entry.2, Text.isBlank value = false) assignments _ (by simp) ?_
  rintro ⟨attributes, refused⟩ visible assignment -
  cases tag.attribute? assignment.name with
  | none => exact visible
  | some name =>
    intro entry member value given
    rcases List.mem_append.1 member with earlier | here
    · exact visible entry (List.mem_of_mem_filter earlier) value given
    · rw [List.mem_singleton.1 here] at given
      exact WrittenValue.visible_of_value? given

/-- No value that a tag is given is blank. -/
theorem visible_of_parse {tag : Tag} {body value : Text} {name : AttributeName}
    (given : (parse tag body).1.value? name = some value) : Text.isBlank value = false := by
  have listed := Option.join_eq_some_iff.1 given
  obtain ⟨before, after, entries, -⟩ := List.lookup_eq_some_iff.1 listed
  exact visible_of_mem_collect tag _ (name, some value) (by rw [← parse, entries]; simp) value rfl

end Attributes
end SnippetMarkup
