import Mathlib
import SnippetMarkup.Proofs.Lookup
import SnippetMarkup.Proofs.Markup.Attributes
import SnippetMarkup.Proofs.Text.Cut

/-!
# Writing attributes

Attributes that a tag accepts can be written behind it in many ways: with any white space between
them and around their equals signs, with values in either kind of quotes or in none.  However they
are written, they are read back: nothing is refused, and each name has the value that it is given
last.
-/

namespace SnippetMarkup

open Unicode (isSpace isWord)

/-! ## Written values -/

namespace WrittenValue

/-- A value as it stands behind its equals sign. -/
def written : WrittenValue → Text
  | absent => []
  | single text => '\'' :: (text ++ ['\''])
  | double text => '"' :: (text ++ ['"'])
  | bare text => text

/-- Whether a value ends where it is meant to: a quoted one does not hold its quote, and one without
quotes neither holds white space nor begins with a quote. -/
def Writable : WrittenValue → Prop
  | absent => True
  | single text => '\'' ∉ text
  | double text => '"' ∉ text
  | bare text =>
    text ≠ [] ∧ text.any isSpace = false ∧ text.head? ≠ some '\'' ∧ text.head? ≠ some '"'

instance : DecidablePred Writable
  | absent => inferInstanceAs (Decidable True)
  | single _ => inferInstanceAs (Decidable (¬_))
  | double _ => inferInstanceAs (Decidable (¬_))
  | bare _ => inferInstanceAs (Decidable (_ ∧ _))

/-- The value that a name gets: none if nothing but white space is written between quotes. -/
def meant? : WrittenValue → Option Text
  | absent => none
  | single text => if Text.isBlank text then none else some text
  | double text => if Text.isBlank text then none else some text
  | bare text => some text

end WrittenValue

/-- An attribute, and the white space with which it is written. -/
structure WrittenAttribute where
  lead : Text := [' ']
  name : AttributeName
  /-- White space in front of the equals sign. -/
  before : Text := []
  /-- White space behind the equals sign. -/
  after : Text := []
  value : WrittenValue := .absent
  deriving DecidableEq, Repr

namespace WrittenAttribute

/-- What is written behind the name. -/
def assigned (entry : WrittenAttribute) : Text :=
  match entry.value with
  | .absent => []
  | value => entry.before ++ '=' :: (entry.after ++ value.written)

def written (entry : WrittenAttribute) : Text :=
  entry.lead ++ (entry.name.written ++ entry.assigned)

/-- Whether an attribute is set off from what is in front of it, and its value can be told. -/
def WellFormed (entry : WrittenAttribute) : Prop :=
  entry.lead ≠ [] ∧ Text.isBlank entry.lead ∧ Text.isBlank entry.before ∧
    Text.isBlank entry.after ∧ entry.value.Writable

instance : DecidablePred WellFormed := fun _ => inferInstanceAs (Decidable (_ ∧ _))

def assignment (entry : WrittenAttribute) : Assignment :=
  ⟨entry.name.written, entry.value⟩

end WrittenAttribute

/-! ## Reading them back -/

/-- What may follow a value: nothing, or something that begins with white space. -/
def SetOff (rest : Text) : Prop := ∀ c ∈ rest.head?, isSpace c = true

namespace WrittenValue

variable {value : WrittenValue} {rest : Text}

theorem value?_eq_meant? (writable : value.Writable) : value.value? = value.meant? := by
  cases value with
  | absent => rfl
  | single text => cases blank : Text.isBlank text <;> simp [value?, meant?, Text.firstVisible?, blank]
  | double text => cases blank : Text.isBlank text <;> simp [value?, meant?, Text.firstVisible?, blank]
  | bare text =>
    obtain ⟨c, others, rfl⟩ := List.exists_cons_of_ne_nil writable.1
    have shown := List.any_eq_false.1 writable.2.1 c List.mem_cons_self
    have visible : Text.isBlank (c :: others) = false := by simp [Text.isBlank, shown]
    simp [value?, meant?, Text.firstVisible?, visible]

/-- A value is read up to where it ends. -/
theorem readAssigned_written (given : value ≠ absent) (writable : value.Writable)
    (setOff : SetOff rest) : readAssigned (value.written ++ rest) = (value, rest) := by
  cases value with
  | absent => exact (given rfl).elim
  | single text =>
    have ends := Text.splitFirst?_append_mark writable rest
    simp [written, readAssigned, ends]
  | double text =>
    have ends := Text.splitFirst?_append_mark writable rest
    simp [written, readAssigned, ends]
  | bare text =>
    obtain ⟨some, visible, unquoted⟩ := writable
    obtain ⟨c, others, rfl⟩ := List.exists_cons_of_ne_nil some
    rw [List.head?_cons] at unquoted
    have cut : (c :: others ++ rest).takeWhile (!isSpace ·) = c :: others ∧
        (c :: others ++ rest).dropWhile (!isSpace ·) = rest :=
      Text.takeWhile_append_of_head (by simpa using visible) (by simpa [SetOff] using setOff)
    rw [written, readAssigned_eq_readBare (by simpa using unquoted.1) (by simpa using unquoted.2),
      readBare, cut.1, cut.2]

theorem trimLeft_written (given : value ≠ absent) (writable : value.Writable) (rest : Text) :
    Text.trimLeft (value.written ++ rest) = value.written ++ rest := by
  obtain ⟨c, others, shape, visible⟩ :
      ∃ c others, value.written = c :: others ∧ isSpace c = false := by
    cases value with
    | absent => exact (given rfl).elim
    | single text => exact ⟨_, _, rfl, by decide⟩
    | double text => exact ⟨_, _, rfl, by decide⟩
    | bare text =>
      obtain ⟨c, others, rfl⟩ := List.exists_cons_of_ne_nil writable.1
      have visible := List.any_eq_false.1 writable.2.1 c List.mem_cons_self
      exact ⟨c, others, rfl, by simpa using visible⟩
  simp [Text.trimLeft, shape, visible]

end WrittenValue

namespace Assignment

/-- Whatever is in front of the first name is passed over. -/
theorem readAll_congr {text other : Text}
    (same : text.dropWhile (fun c => !isWord c) = other.dropWhile (fun c => !isWord c)) :
    readAll text = readAll other := by
  cases begins : other.dropWhile (fun c => !isWord c) with
  | nil => rw [readAll_eq_nil begins, readAll_eq_nil (same.trans begins)]
  | cons c rest => rw [readAll_eq_cons begins, readAll_eq_cons (same.trans begins)]

theorem readAll_blank_append {space : Text} (blank : Text.isBlank space = true) (text : Text) :
    readAll (space ++ text) = readAll text := by
  refine readAll_congr (List.dropWhile_append_of_pos fun c member => ?_)
  simp [Unicode.isWord_of_isSpace (List.all_eq_true.1 blank c member)]

theorem readAll_trimLeft (text : Text) : readAll (Text.trimLeft text) = readAll text := by
  have blank : Text.isBlank (text.takeWhile isSpace) = true :=
    List.all_eq_true.2 fun c member => List.mem_takeWhile_imp member
  rw [← readAll_blank_append blank, Text.trimLeft, List.takeWhile_append_dropWhile]

end Assignment

theorem AttributeName.exists_written (name : AttributeName) :
    ∃ c others, name.written = c :: others ∧ isWord c = true ∧
      ∀ d ∈ others, isWord d = true := by
  have words : name.written.all isWord = true := by cases name <;> decide +kernel
  obtain ⟨c, others, shape⟩ : ∃ c others, name.written = c :: others := by
    cases name <;> exact ⟨_, _, rfl⟩
  rw [shape, List.all_cons, Bool.and_eq_true, List.all_eq_true] at words
  exact ⟨c, others, shape, words⟩

namespace WrittenAttribute

variable {entry : WrittenAttribute} {rest : Text}

theorem setOff_written (wellFormed : entry.WellFormed) (rest : Text) :
    SetOff (entry.written ++ rest) := by
  obtain ⟨some, blank, -⟩ := wellFormed
  obtain ⟨c, others, shape⟩ := List.exists_cons_of_ne_nil some
  rw [shape, Text.isBlank, List.all_cons, Bool.and_eq_true] at blank
  simpa [SetOff, written, shape] using blank.1

theorem setOff_flatMap {entries : List WrittenAttribute}
    (wellFormed : ∀ entry ∈ entries, entry.WellFormed) : SetOff (entries.flatMap (·.written)) := by
  cases entries with
  | nil => simp [SetOff]
  | cons entry rest =>
    rw [List.flatMap_cons]
    exact setOff_written (wellFormed entry List.mem_cons_self) _

/-- Behind the name of an attribute stands no further character of a name. -/
theorem not_isWord_of_mem_head? (wellFormed : entry.WellFormed) (setOff : SetOff rest) :
    ∀ c ∈ (entry.assigned ++ rest).head?, isWord c = false := by
  obtain ⟨-, -, blank, -⟩ := wellFormed
  have restStops : ∀ c ∈ rest.head?, isWord c = false := fun c first =>
    Unicode.isWord_of_isSpace (setOff c first)
  unfold assigned
  split
  · exact restStops
  · cases shape : entry.before with
    | nil => simpa using (by decide +kernel : isWord '=' = false)
    | cons c others =>
      rw [shape, Text.isBlank, List.all_cons, Bool.and_eq_true] at blank
      simpa using Unicode.isWord_of_isSpace blank.1

/-- What is left over behind a value holds the same assignments as what was written behind it. -/
theorem read_assigned (wellFormed : entry.WellFormed) (setOff : SetOff rest)
    (unassigned : ∀ more, Text.trimLeft rest ≠ '=' :: more) :
    ∃ left, WrittenValue.read (entry.assigned ++ rest) = (entry.value, left) ∧
      Assignment.readAll left = Assignment.readAll rest := by
  obtain ⟨-, -, before, after, writable⟩ := wellFormed
  by_cases absent : entry.value = .absent
  · refine ⟨Text.trimLeft rest, ?_, Assignment.readAll_trimLeft rest⟩
    have nothing : entry.assigned = [] := by simp [assigned, absent]
    rw [nothing, List.nil_append, WrittenValue.read_eq_absent unassigned, absent]
  · refine ⟨rest, ?_, rfl⟩
    have shape : entry.assigned = entry.before ++ '=' :: (entry.after ++ entry.value.written) := by
      unfold assigned
      split
      · next given => exact (absent given).elim
      · rfl
    have begins : Text.trimLeft (entry.assigned ++ rest) =
        '=' :: (entry.after ++ (entry.value.written ++ rest)) := by
      rw [shape, List.append_assoc, Text.trimLeft_append_of_isBlank before]
      simp [Text.trimLeft, show isSpace '=' = false by decide]
    simp only [WrittenValue.read, begins]
    rw [Text.trimLeft_append_of_isBlank after, WrittenValue.trimLeft_written absent writable,
      WrittenValue.readAssigned_written absent writable setOff]

theorem readAll_written (wellFormed : entry.WellFormed) (setOff : SetOff rest)
    (unassigned : ∀ more, Text.trimLeft rest ≠ '=' :: more) :
    Assignment.readAll (entry.written ++ rest) =
      entry.assignment :: Assignment.readAll rest := by
  obtain ⟨c, others, name, word, words⟩ := entry.name.exists_written
  obtain ⟨left, read, same⟩ := read_assigned wellFormed setOff unassigned
  have cut := Text.takeWhile_append_of_head words (not_isWord_of_mem_head? wellFormed setOff)
  have begins : (entry.name.written ++ (entry.assigned ++ rest)).dropWhile (fun c => !isWord c) =
      c :: (others ++ (entry.assigned ++ rest)) := by
    simp [name, word]
  rw [written, List.append_assoc, List.append_assoc,
    Assignment.readAll_blank_append wellFormed.2.1, Assignment.readAll_eq_cons begins, cut.1, cut.2,
    read, same, assignment, name]

/-- No equals sign stands in front of the first name. -/
theorem trimLeft_flatMap_ne {entries : List WrittenAttribute}
    (wellFormed : ∀ entry ∈ entries, entry.WellFormed) (more : Text) :
    Text.trimLeft (entries.flatMap (·.written)) ≠ '=' :: more := by
  cases entries with
  | nil => simp [Text.trimLeft]
  | cons entry rest =>
    obtain ⟨-, blank, -⟩ := wellFormed entry List.mem_cons_self
    obtain ⟨c, others, name, word, -⟩ := entry.name.exists_written
    have visible : isSpace c = false := by
      cases space : isSpace c with
      | false => rfl
      | true => simp [Unicode.isWord_of_isSpace space] at word
    have other : c ≠ '=' := by
      rintro rfl
      exact absurd word (by decide +kernel)
    rw [List.flatMap_cons, written, List.append_assoc, Text.trimLeft_append_of_isBlank blank, name]
    simp [Text.trimLeft, visible, other]

/-- Attributes are read one after the other, however they are written. -/
theorem readAll_flatMap {entries : List WrittenAttribute}
    (wellFormed : ∀ entry ∈ entries, entry.WellFormed) :
    Assignment.readAll (entries.flatMap (·.written)) = entries.map assignment := by
  induction entries with
  | nil => exact Assignment.readAll_eq_nil rfl
  | cons entry rest ih =>
    rw [List.forall_mem_cons] at wellFormed
    rw [List.flatMap_cons, readAll_written wellFormed.1 (setOff_flatMap wellFormed.2)
      (trimLeft_flatMap_ne wellFormed.2), ih wellFormed.2, List.map_cons]

end WrittenAttribute

/-! ## The mapping -/

namespace Attributes

variable {name other : AttributeName} {value : Option Text}

theorem lookup_set (attributes : Attributes) :
    (attributes.set other value).lookup name =
      if name = other then some value else attributes.lookup name :=
  lookup_filter_append (fun _ => bne_iff_ne) attributes value name

theorem mentions_eq (attributes : Attributes) (name : AttributeName) :
    attributes.mentions name = (attributes.lookup name).isSome := by
  induction attributes with
  | nil => rfl
  | cons entry rest ih =>
    rw [lookup_cons_eq_ite, mentions, List.any_cons, ← mentions, ih]
    by_cases same : name = entry.1
    · simp [same]
    · simp [same, Ne.symm same]

theorem nodup_set {attributes : Attributes} (nodup : (attributes.map (·.1)).Nodup) :
    ((attributes.set other value).map (·.1)).Nodup := by
  rw [set, List.map_append, List.nodup_append]
  refine ⟨(List.filter_sublist.map _).nodup nodup, List.nodup_singleton _, ?_⟩
  intro written member new added
  obtain ⟨entry, kept, rfl⟩ := List.mem_map.1 member
  obtain rfl := List.mem_singleton.1 added
  simpa using (List.mem_filter.1 kept).2

theorem collect_append_accepted {tag : Tag} {assignments : List Assignment}
    {assignment : Assignment} (accepted : tag.attribute? assignment.name = some name) :
    collect tag (assignments ++ [assignment]) =
      ((collect tag assignments).1.set name assignment.written.value?,
        (collect tag assignments).2) := by
  simp only [collect, List.foldl_append, List.foldl_cons, List.foldl_nil, accepted]

theorem collect_append_refused {tag : Tag} {assignments : List Assignment}
    {assignment : Assignment} (refused : tag.attribute? assignment.name = none) :
    (collect tag (assignments ++ [assignment])).1 = (collect tag assignments).1 := by
  simp only [collect, List.foldl_append, List.foldl_cons, List.foldl_nil, refused]

end Attributes

theorem Tag.attribute?_written {tag : Tag} {name : AttributeName}
    (accepted : name ∈ tag.accepted) : tag.attribute? name.written = some name := by
  have known : AttributeName.ofText? name.written = some name := by cases name <;> rfl
  simp [attribute?, known, accepted]

theorem Tag.attribute?_written_of_notMem {tag : Tag} {name : AttributeName}
    (other : name ∉ tag.accepted) : tag.attribute? name.written = none := by
  have known : AttributeName.ofText? name.written = some name := by cases name <;> rfl
  simp [attribute?, known, other]

namespace WrittenAttribute

/-- The last value that is written for a name, if the name is written at all. -/
def last? (entries : List WrittenAttribute) (name : AttributeName) : Option (Option Text) :=
  (entries.filter (·.name = name)).getLast?.map (·.value.meant?)

theorem last?_append_singleton (entries : List WrittenAttribute) (entry : WrittenAttribute)
    (name : AttributeName) :
    last? (entries ++ [entry]) name =
      if name = entry.name then some entry.value.meant? else last? entries name := by
  unfold last?
  rw [List.filter_append]
  split
  · next same => simp [same]
  · next different =>
    have unequal : ¬entry.name = name := fun same => different same.symm
    simp [unequal]

variable {tag : Tag} {entries : List WrittenAttribute}

/-- Attributes that a tag accepts are collected, and the last value of each name counts. -/
theorem collect_written (accepted : ∀ entry ∈ entries, entry.name ∈ tag.accepted)
    (wellFormed : ∀ entry ∈ entries, entry.WellFormed) :
    (Attributes.collect tag (entries.map assignment)).2 = [] ∧
      ((Attributes.collect tag (entries.map assignment)).1.map (·.1)).Nodup ∧
      ∀ name, (Attributes.collect tag (entries.map assignment)).1.lookup name =
        last? entries name := by
  induction entries using List.reverseRecOn with
  | nil => exact ⟨rfl, List.nodup_nil, fun _ => rfl⟩
  | append_singleton entries entry ih =>
    rw [List.forall_mem_append, List.forall_mem_singleton] at accepted wellFormed
    obtain ⟨refused, nodup, values⟩ := ih accepted.1 wellFormed.1
    have known : tag.attribute? entry.assignment.name = some entry.name :=
      Tag.attribute?_written accepted.2
    rw [List.map_append, List.map_singleton, Attributes.collect_append_accepted known]
    refine ⟨refused, Attributes.nodup_set nodup, fun name => ?_⟩
    rw [Attributes.lookup_set, last?_append_singleton, values, assignment,
      WrittenValue.value?_eq_meant? wellFormed.2.2.2.2.2]

/-- Whatever else is written, the last value of each name that a tag accepts counts. -/
theorem lookup_collect_written {name : AttributeName} (accepted : name ∈ tag.accepted)
    (wellFormed : ∀ entry ∈ entries, entry.WellFormed) :
    (Attributes.collect tag (entries.map assignment)).1.lookup name = last? entries name := by
  induction entries using List.reverseRecOn with
  | nil => rfl
  | append_singleton entries entry ih =>
    rw [List.forall_mem_append, List.forall_mem_singleton] at wellFormed
    rw [List.map_append, List.map_singleton, last?_append_singleton, ← ih wellFormed.1]
    by_cases own : entry.name ∈ tag.accepted
    · rw [Attributes.collect_append_accepted (Tag.attribute?_written own), Attributes.lookup_set,
        assignment, WrittenValue.value?_eq_meant? wellFormed.2.2.2.2.2]
    · have other : name ≠ entry.name := fun same => own (same ▸ accepted)
      rw [Attributes.collect_append_refused (Tag.attribute?_written_of_notMem own), if_neg other]

end WrittenAttribute

/-- What is written as attributes of a tag is read as these attributes: no name is refused, and the
names are those that are written, each once and with its last value. -/
theorem Attributes.parse_flatMap_written {tag : Tag} {entries : List WrittenAttribute}
    (accepted : ∀ entry ∈ entries, entry.name ∈ tag.accepted)
    (wellFormed : ∀ entry ∈ entries, entry.WellFormed) :
    (parse tag (tag.written ++ entries.flatMap (·.written))).2 = [] ∧
      ((parse tag (tag.written ++ entries.flatMap (·.written))).1.map (·.1)).Nodup ∧
      ∀ name, (parse tag (tag.written ++ entries.flatMap (·.written))).1.lookup name =
        WrittenAttribute.last? entries name := by
  rw [parse, text_written, Assignment.readAll_trimLeft, WrittenAttribute.readAll_flatMap wellFormed]
  exact WrittenAttribute.collect_written accepted wellFormed

/-- A value that looks like another attribute, a name without a value, and a name with two. -/
theorem Attributes.parse_flatMap_written_again :
    let entries : List WrittenAttribute := [
      { name := .region },
      { lead := ['\t', ' '], name := .substring, before := [' '],
        value := .single "type=x".toList },
      { name := .type, value := .double [' '] },
      { name := .substring, after := ['\u3000'], value := .bare "a='b'".toList }]
    (∀ entry ∈ entries, entry.name ∈ Tag.highlight.accepted) ∧
      (∀ entry ∈ entries, entry.WellFormed) ∧
      (parse .highlight (Tag.highlight.written ++ entries.flatMap (·.written))).2 = [] ∧
      (parse .highlight (Tag.highlight.written ++ entries.flatMap (·.written))).1.lookup
          .substring = some (some "a='b'".toList) ∧
      (parse .highlight (Tag.highlight.written ++ entries.flatMap (·.written))).1.lookup
          .type = some none := by
  intro entries
  have accepted : ∀ entry ∈ entries, entry.name ∈ Tag.highlight.accepted := by decide
  have wellFormed : ∀ entry ∈ entries, entry.WellFormed := by decide +kernel
  obtain ⟨refused, -, values⟩ := parse_flatMap_written accepted wellFormed
  refine ⟨accepted, wellFormed, refused, ?_, ?_⟩
  · rw [values]
    decide
  · rw [values]
    decide

end SnippetMarkup
