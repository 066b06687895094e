import Mathlib
import SnippetMarkup.Operation.Basic
import SnippetMarkup.Proofs.Html.Escape
import SnippetMarkup.Proofs.Text.Cut

/-!
# Tags in a line

A line is read from left to right as text and tags.  Every `<` begins a tag and every `>` ends
one; a tag opens an element or closes the one opened last; and at the end of a well-formed line all
elements are closed.  What is visible of a line is what stands outside of its tags.

Elements may be put around some stretches of a line if each stretch begins outside of the tags that
are on the line already and is well formed by itself.
-/

namespace SnippetMarkup.Html

/-! ## Elements -/

inductive Element where
  | styled (style : Style)
  | anchor
  deriving DecidableEq, Repr

namespace Element

/-- What stands after the slash in the tag that closes an element. -/
def name : Element → Text
  | styled style => style.element
  | anchor => ['a']

/-- The element that is opened by a tag with this text between its angle brackets.  An anchor has
one attribute, with a value in double quotes. -/
def ofOpening? (attrName tag : Text) : Option Element :=
  if tag = Style.bold.element then some (styled .bold)
  else if tag = Style.italic.element then some (styled .italic)
  else if tag = Style.marked.element then some (styled .marked)
  else
    (('a' :: ' ' :: attrName ++ ['=', '"']).isPrefixOf? tag).bind fun rest =>
      (Text.splitFirst? '"' rest).bind fun (_, after) => if after = [] then some anchor else none

theorem ofOpening?_styled (attrName : Text) (style : Style) :
    ofOpening? attrName style.element = some (styled style) := by
  cases style <;> rfl

theorem ofOpening?_anchor (attrName : Text) {value : Text} (unquoted : '"' ∉ value) :
    ofOpening? attrName ('a' :: ' ' :: attrName ++ ['=', '"'] ++ value ++ ['"']) =
      some anchor := by
  have unstyled (style : Style) :
      'a' :: ' ' :: attrName ++ ['=', '"'] ++ value ++ ['"'] ≠ style.element := by
    cases style <;> simp [Style.element]
  rw [ofOpening?, if_neg (unstyled _), if_neg (unstyled _), if_neg (unstyled _),
    List.append_assoc _ value, List.isPrefixOf?_eq_some_iff_append_eq.2 rfl, Option.bind_some,
    Text.splitFirst?_append_mark unquoted, Option.bind_some]
  exact if_pos rfl

end Element

/-! ## Reading -/

/-- What is known of a line after some of it: the elements that are open, the innermost first, and
what there is of a tag that has not ended. -/
structure Reading where
  elements : List Element := []
  tag : Option Text := none
  deriving DecidableEq, Repr

namespace Reading

/-- The open elements after a tag. -/
def takeTag (attrName : Text) (elements : List Element) (tag : Text) : Option (List Element) :=
  match tag with
  | '/' :: name =>
    match elements with
    | element :: outer => if name = element.name then some outer else none
    | [] => none
  | _ => (Element.ofOpening? attrName tag).map (· :: elements)

def takeChar (attrName : Text) (reading : Reading) (c : Char) : Option Reading :=
  match reading.tag with
  | none =>
    if c = '<' then some ⟨reading.elements, some []⟩
    else if c = '>' then none
    else some reading
  | some tag =>
    if c = '<' then none
    else if c = '>' then (takeTag attrName reading.elements tag).map (⟨·, none⟩)
    else some ⟨reading.elements, some (tag ++ [c])⟩

end Reading

/-- Reads on in a line, unless it turns out not to be made of text and tags. -/
def read (attrName text : Text) (reading : Reading) : Option Reading :=
  text.foldlM (Reading.takeChar attrName) reading

/-- A line of text and tags, in which every element is closed, the innermost first. -/
def WellFormed (attrName text : Text) : Prop := read attrName text {} = some {}

instance (attrName text : Text) : Decidable (WellFormed attrName text) :=
  inferInstanceAs (Decidable (_ = _))

/-- Whether a tag has not ended after a text that begins inside or outside of a tag. -/
def insideTag (inside : Bool) (text : Text) : Bool :=
  text.foldl (fun inside c => if inside then c != '>' else c == '<') inside

/-- What a text that begins inside or outside of a tag has outside of its tags. -/
def visibleFrom : Bool → Text → Text
  | _, [] => []
  | true, c :: rest => visibleFrom (c != '>') rest
  | false, c :: rest => if c = '<' then visibleFrom true rest else c :: visibleFrom false rest

/-- A line without its tags, each of them a `<` and all up to the next `>`. -/
def visible (line : Text) : Text := visibleFrom false line

section Reading

variable {attrName text : Text} {elements : List Element}

@[simp] theorem read_nil (reading : Reading) : read attrName [] reading = some reading := rfl

theorem read_cons (c : Char) (rest : Text) (reading : Reading) :
    read attrName (c :: rest) reading = (reading.takeChar attrName c).bind (read attrName rest) :=
  List.foldlM_cons ..

theorem read_append (first second : Text) (reading : Reading) :
    read attrName (first ++ second) reading =
      (read attrName first reading).bind (read attrName second) :=
  List.foldlM_append ..

theorem insideTag_append (inside : Bool) (first second : Text) :
    insideTag inside (first ++ second) = insideTag (insideTag inside first) second :=
  List.foldl_append ..

theorem visibleFrom_append (inside : Bool) (first second : Text) :
    visibleFrom inside (first ++ second) =
      visibleFrom inside first ++ visibleFrom (insideTag inside first) second := by
  induction first generalizing inside with
  | nil => cases inside <;> rfl
  | cons c rest ih =>
    cases inside with
    | true => exact ih (c != '>')
    | false =>
      by_cases begins : c = '<'
      · subst begins
        exact ih true
      · have outside : insideTag false (c :: rest) = insideTag false rest := by
          have text : (c == '<') = false := beq_false_of_ne begins
          rw [insideTag, List.foldl_cons, if_neg Bool.false_ne_true, text, insideTag]
        rw [List.cons_append, visibleFrom, visibleFrom, if_neg begins, if_neg begins, outside,
          ih false, List.cons_append]

/-! ## Text -/

theorem plain_cons_iff {c : Char} {rest : Text} :
    Plain (c :: rest) ↔ c ≠ '<' ∧ c ≠ '>' ∧ Plain rest := by
  simp only [Plain, List.mem_cons, not_or, ne_eq]
  constructor
  · rintro ⟨⟨less, restLess⟩, greater, restGreater⟩
    exact ⟨Ne.symm less, Ne.symm greater, restLess, restGreater⟩
  · rintro ⟨less, greater, restLess, restGreater⟩
    exact ⟨⟨Ne.symm less, restLess⟩, Ne.symm greater, restGreater⟩

theorem read_plain (plain : Plain text) :
    read attrName text ⟨elements, none⟩ = some ⟨elements, none⟩ := by
  induction text with
  | nil => rfl
  | cons c rest ih =>
    obtain ⟨less, greater, plainRest⟩ := plain_cons_iff.1 plain
    have taken : Reading.takeChar attrName ⟨elements, none⟩ c = some ⟨elements, none⟩ := by
      simp [Reading.takeChar, less, greater]
    rw [read_cons, taken, Option.bind_some, ih plainRest]

theorem read_plain_tag (plain : Plain text) (tag : Text) :
    read attrName text ⟨elements, some tag⟩ = some ⟨elements, some (tag ++ text)⟩ := by
  induction text generalizing tag with
  | nil => simp
  | cons c rest ih =>
    obtain ⟨less, greater, plainRest⟩ := plain_cons_iff.1 plain
    have taken : Reading.takeChar attrName ⟨elements, some tag⟩ c =
        some ⟨elements, some (tag ++ [c])⟩ := by
      simp [Reading.takeChar, less, greater]
    rw [read_cons, taken, Option.bind_some, ih plainRest, List.append_assoc,
      List.singleton_append]

theorem wellFormed_of_plain (plain : Plain text) : WellFormed attrName text := read_plain plain

theorem insideTag_plain (plain : Plain text) (inside : Bool) : insideTag inside text = inside := by
  induction text with
  | nil => rfl
  | cons c rest ih =>
    obtain ⟨less, greater, plainRest⟩ := plain_cons_iff.1 plain
    have same : (if inside then c != '>' else c == '<') = inside := by
      cases inside <;> simp [less, greater]
    rw [insideTag, List.foldl_cons, same]
    exact ih plainRest

theorem visibleFrom_plain (plain : Plain text) (inside : Bool) :
    visibleFrom inside text = if inside then [] else text := by
  induction text with
  | nil => cases inside <;> rfl
  | cons c rest ih =>
    obtain ⟨less, greater, plainRest⟩ := plain_cons_iff.1 plain
    cases inside with
    | true =>
      have still : (c != '>') = true := by simpa using greater
      rw [visibleFrom, still, ih plainRest]
      rfl
    | false =>
      rw [visibleFrom, if_neg less, ih plainRest]
      rfl

theorem visible_plain (plain : Plain text) : visible text = text := visibleFrom_plain plain false

/-- A line that could be read has a tag that has not ended exactly if the reading has one. -/
theorem insideTag_of_read {reading later : Reading}
    (reads : read attrName text reading = some later) :
    insideTag reading.tag.isSome text = later.tag.isSome := by
  induction text generalizing reading with
  | nil =>
    obtain rfl : reading = later := Option.some.inj reads
    rfl
  | cons c rest ih =>
    rw [read_cons, Option.bind_eq_some_iff] at reads
    obtain ⟨middle, taken, reads⟩ := reads
    rw [← ih reads, insideTag, List.foldl_cons, insideTag]
    -- A character that can be read is the same step for both.
    congr 1
    cases tag : reading.tag with
    | none =>
      simp only [Reading.takeChar, tag] at taken
      split at taken
      · next begins =>
        obtain rfl := Option.some.inj taken
        simp [begins]
      · next begins =>
        split at taken
        · simp at taken
        · obtain rfl := Option.some.inj taken
          simp [begins, tag]
    | some inner =>
      simp only [Reading.takeChar, tag] at taken
      split at taken
      · simp at taken
      · split at taken
        · next ends =>
          obtain ⟨outer, -, rfl⟩ := Option.map_eq_some_iff.1 taken
          simp [ends]
        · next ends =>
          obtain rfl := Option.some.inj taken
          simp [ends]

theorem insideTag_wellFormed (wellFormed : WellFormed attrName text) :
    insideTag false text = false :=
  insideTag_of_read wellFormed

/-! ## Elements around a text -/

/-- What a tag does to the elements that are open, it does inside of others, too. -/
theorem takeTag_within {tag : Text} {later : List Element}
    (taken : Reading.takeTag attrName elements tag = some later) (outer : List Element) :
    Reading.takeTag attrName (elements ++ outer) tag = some (later ++ outer) := by
  unfold Reading.takeTag at taken ⊢
  split at taken
  · cases elements with
    | nil => simp at taken
    | cons element inner =>
      simp only [List.cons_append] at taken ⊢
      split at taken
      · next closes =>
        obtain rfl := Option.some.inj taken
        rw [if_pos closes]
      · simp at taken
  · obtain ⟨element, opens, rfl⟩ := Option.map_eq_some_iff.1 taken
    rw [opens]
    rfl

theorem takeChar_within {tag tagToo : Option Text} {later : List Element} {c : Char}
    (taken : Reading.takeChar attrName ⟨elements, tag⟩ c = some ⟨later, tagToo⟩)
    (outer : List Element) :
    Reading.takeChar attrName ⟨elements ++ outer, tag⟩ c = some ⟨later ++ outer, tagToo⟩ := by
  unfold Reading.takeChar at taken ⊢
  cases tag with
  | none =>
    dsimp only at taken ⊢
    split at taken
    · next begins =>
      obtain ⟨rfl, rfl⟩ := Reading.mk.inj (Option.some.inj taken)
      rw [if_pos begins]
    · next begins =>
      split at taken
      · simp at taken
      · next ends =>
        obtain ⟨rfl, rfl⟩ := Reading.mk.inj (Option.some.inj taken)
        rw [if_neg begins, if_neg ends]
  | some tag =>
    dsimp only at taken ⊢
    split at taken
    · simp at taken
    · next begins =>
      rw [if_neg begins]
      split at taken
      · next ends =>
        obtain ⟨middle, tagTaken, made⟩ := Option.map_eq_some_iff.1 taken
        obtain ⟨rfl, rfl⟩ := Reading.mk.inj made
        rw [if_pos ends, takeTag_within tagTaken outer, Option.map_some]
      · next ends =>
        obtain ⟨rfl, rfl⟩ := Reading.mk.inj (Option.some.inj taken)
        rw [if_neg ends]

/-- What can be read by itself can be read in the same way inside of other elements. -/
theorem read_within {tag tagToo : Option Text} {later : List Element}
    (reads : read attrName text ⟨elements, tag⟩ = some ⟨later, tagToo⟩) (outer : List Element) :
    read attrName text ⟨elements ++ outer, tag⟩ = some ⟨later ++ outer, tagToo⟩ := by
  induction text generalizing elements tag with
  | nil =>
    obtain ⟨rfl, rfl⟩ := Reading.mk.inj (Option.some.inj reads)
    rfl
  | cons c rest ih =>
    rw [read_cons, Option.bind_eq_some_iff] at reads
    obtain ⟨⟨middle, middleTag⟩, taken, reads⟩ := reads
    rw [read_cons, takeChar_within taken outer, Option.bind_some, ih reads]

theorem WellFormed.read (wellFormed : WellFormed attrName text) (outer : List Element) :
    Html.read attrName text ⟨outer, none⟩ = some ⟨outer, none⟩ :=
  read_within wellFormed outer

end Reading

/-! ## Markers -/

section Markers

variable {attrName tag text : Text} {element : Element} {wrapper : Text → Text}

def angled (tag : Text) : Text := '<' :: tag ++ ['>']

theorem read_angled (plain : Plain tag) (elements : List Element) :
    read attrName (angled tag) ⟨elements, none⟩ =
      (Reading.takeTag attrName elements tag).map (⟨·, none⟩) := by
  have begins : Reading.takeChar attrName ⟨elements, none⟩ '<' = some ⟨elements, some []⟩ := rfl
  rw [angled, List.cons_append, read_cons, begins, Option.bind_some, read_append,
    read_plain_tag plain, Option.bind_some, List.nil_append, read_cons]
  cases taken : Reading.takeTag attrName elements tag <;> simp [Reading.takeChar, taken]

theorem insideTag_angled (plain : Plain tag) : insideTag false (angled tag) = false := by
  have begins : insideTag false ('<' :: tag) = insideTag true tag := rfl
  rw [angled, insideTag_append, begins, insideTag_plain plain]
  rfl

theorem visibleFrom_angled (plain : Plain tag) : visibleFrom false (angled tag) = [] := by
  have begins : insideTag false ('<' :: tag) = insideTag true tag := rfl
  rw [angled, visibleFrom_append, visibleFrom, if_pos rfl, visibleFrom_plain plain, begins,
    insideTag_plain plain]
  rfl

/-- What the opening tag of an element and the closing one are put around. -/
structure Marks (attrName tag : Text) (element : Element) (wrapper : Text → Text) : Prop where
  wraps : ∀ text, wrapper text = angled tag ++ text ++ angled ('/' :: element.name)
  plain : Plain tag
  opens : ∀ elements, Reading.takeTag attrName elements tag = some (element :: elements)

theorem Element.plain_closing (element : Element) : Plain ('/' :: element.name) := by
  rcases element with style | _
  · cases style <;> decide
  · decide

theorem takeTag_closing (element : Element) (elements : List Element) :
    Reading.takeTag attrName (element :: elements) ('/' :: element.name) = some elements :=
  if_pos rfl

namespace Marks

variable (marks : Marks attrName tag element wrapper)

include marks

/-- After a text that is well formed by itself, the element around it can be closed. -/
theorem read_wrapper (wellFormed : WellFormed attrName text) (elements : List Element) :
    read attrName (wrapper text) ⟨elements, none⟩ = some ⟨elements, none⟩ := by
  rw [marks.wraps, read_append, read_append, read_angled marks.plain, marks.opens,
    Option.map_some, Option.bind_some, wellFormed.read, Option.bind_some,
    read_angled element.plain_closing, takeTag_closing, Option.map_some]

theorem visible_wrapper (wellFormed : WellFormed attrName text) :
    visible (wrapper text) = visible text := by
  rw [marks.wraps, visible, visibleFrom_append, visibleFrom_append, insideTag_append,
    insideTag_angled marks.plain, insideTag_wellFormed wellFormed, visibleFrom_angled marks.plain,
    visibleFrom_angled element.plain_closing, List.nil_append, List.append_nil, visible]

end Marks

end Markers

/-! ## Lines that are cut up -/

/-- A piece of a line in which some pieces are picked out. -/
inductive Cut where
  | left (text : Text)
  | picked (text : Text)
  deriving DecidableEq, Repr

namespace Cut

def text : Cut → Text
  | left text => text
  | picked text => text

/-- A piece with a marker around it if it is picked out. -/
def wrap (wrapper : Text → Text) : Cut → Text
  | left text => text
  | picked text => wrapper text

end Cut

/-- Whether every piece that is picked out begins outside of the tags of the line, which itself
begins inside or outside of one, and is well formed by itself. -/
def Clear (attrName : Text) : Bool → List Cut → Prop
  | _, [] => True
  | inside, .left text :: rest => Clear attrName (insideTag inside text) rest
  | inside, .picked text :: rest =>
    inside = false ∧ WellFormed attrName text ∧ Clear attrName false rest

instance Clear.decidable (attrName : Text) (inside : Bool) (cuts : List Cut) :
    Decidable (Clear attrName inside cuts) :=
  match cuts with
  | [] => inferInstanceAs (Decidable True)
  | .left text :: rest => Clear.decidable attrName (insideTag inside text) rest
  | .picked _ :: rest =>
    have := Clear.decidable attrName false rest
    inferInstanceAs (Decidable (_ ∧ _ ∧ _))

section Cuts

variable {attrName tag : Text} {element : Element} {wrapper : Text → Text} {cuts : List Cut}

theorem clear_of_plain (plain : ∀ cut ∈ cuts, Plain cut.text) : Clear attrName false cuts := by
  induction cuts with
  | nil => trivial
  | cons cut rest ih =>
    rw [List.forall_mem_cons] at plain
    cases cut with
    | left text =>
      have same : insideTag false text = false := insideTag_plain plain.1 false
      rw [Clear, same]
      exact ih plain.2
    | picked text => exact ⟨rfl, wellFormed_of_plain plain.1, ih plain.2⟩

namespace Marks

variable (marks : Marks attrName tag element wrapper)

include marks

/-- Markers around clear pieces change nothing in how a line is read on. -/
theorem read_cuts {inside : Bool} (clear : Clear attrName inside cuts) {reading : Reading}
    (within : reading.tag.isSome = inside) :
    read attrName (cuts.flatMap (·.wrap wrapper)) reading =
      read attrName (cuts.flatMap Cut.text) reading := by
  induction cuts generalizing inside reading with
  | nil => rfl
  | cons cut rest ih =>
    rw [List.flatMap_cons, List.flatMap_cons, read_append, read_append]
    cases cut with
    | left text =>
      -- The piece may end inside of a tag, and then the reading does, too.
      rw [Cut.wrap, Cut.text]
      cases reads : read attrName text reading with
      | none => rfl
      | some later => exact ih clear (by rw [← within, insideTag_of_read reads])
    | picked text =>
      obtain ⟨outside, wellFormed, clear⟩ := clear
      obtain ⟨elements, unfinished⟩ := reading
      -- No tag is unfinished here, so both readings are back at the open elements after the piece.
      obtain rfl : unfinished = none :=
        Option.isNone_iff_eq_none.1 (Option.isSome_eq_false_iff.1 (within.trans outside))
      rw [Cut.wrap, Cut.text, marks.read_wrapper wellFormed, wellFormed.read, Option.bind_some,
        Option.bind_some]
      exact ih clear rfl

/-- Markers around clear pieces cannot be seen. -/
theorem visibleFrom_cuts {inside : Bool} (clear : Clear attrName inside cuts) :
    visibleFrom inside (cuts.flatMap (·.wrap wrapper)) =
      visibleFrom inside (cuts.flatMap Cut.text) := by
  induction cuts generalizing inside with
  | nil => rfl
  | cons cut rest ih =>
    rw [List.flatMap_cons, List.flatMap_cons, visibleFrom_append, visibleFrom_append]
    cases cut with
    | left text =>
      rw [Cut.wrap, Cut.text, ih clear]
    | picked text =>
      obtain ⟨rfl, wellFormed, clear⟩ := clear
      have wrapped : WellFormed attrName (wrapper text) := marks.read_wrapper wellFormed []
      have same : visibleFrom false (wrapper text) = visibleFrom false text :=
        marks.visible_wrapper wellFormed
      rw [Cut.wrap, Cut.text, same, insideTag_wellFormed wrapped, insideTag_wellFormed wellFormed,
        ih clear]

end Marks

end Cuts

/-! ## Lines that show a code -/

/-- A well-formed line that is the escaped code without its tags, up to white space at the end. -/
structure Shows (attrName code line : Text) : Prop where
  wellFormed : WellFormed attrName line
  same : Text.trimRight (visible line) = Text.trimRight (escape code)

section Trimming

variable {attrName text space : Text}

theorem wellFormed_of_append_blank (wellFormed : WellFormed attrName (text ++ space))
    (blank : Text.isBlank space = true) : WellFormed attrName text := by
  have plain := plain_of_isBlank blank
  rw [WellFormed, read_append, Option.bind_eq_some_iff] at wellFormed
  obtain ⟨⟨elements, tag⟩, reads, wellFormed⟩ := wellFormed
  cases tag with
  | none =>
    rw [read_plain plain] at wellFormed
    exact reads.trans wellFormed
  | some tag =>
    -- White space does not end a tag.
    rw [read_plain_tag plain] at wellFormed
    cases wellFormed

theorem visible_append_blank (wellFormed : WellFormed attrName text)
    (blank : Text.isBlank space = true) : visible (text ++ space) = visible text ++ space := by
  rw [visible, visibleFrom_append, insideTag_wellFormed wellFormed, visible]
  exact congrArg (_ ++ ·) (visible_plain (plain_of_isBlank blank))

end Trimming

namespace Shows

variable {attrName code line tag : Text} {element : Element} {wrapper : Text → Text}

theorem of_plain (plain : Plain line) (same : Text.trimRight line = Text.trimRight (escape code)) :
    Shows attrName code line :=
  ⟨wellFormed_of_plain plain, by rw [visible_plain plain, same]⟩

theorem trimRight (shows : Shows attrName code line) :
    Shows attrName code (Text.trimRight line) := by
  obtain ⟨space, blank, parts⟩ := Text.exists_trimRight_append line
  have wellFormed := shows.wellFormed
  rw [parts] at wellFormed
  replace wellFormed := wellFormed_of_append_blank wellFormed blank
  refine ⟨wellFormed, ?_⟩
  calc Text.trimRight (visible (Text.trimRight line))
    _ = Text.trimRight (visible (Text.trimRight line) ++ space) :=
      (Text.trimRight_append_of_isBlank blank).symm
    _ = Text.trimRight (visible line) := by rw [← visible_append_blank wellFormed blank, ← parts]
    _ = Text.trimRight (escape code) := shows.same

theorem wrap (shows : Shows attrName code line) (marks : Marks attrName tag element wrapper) :
    Shows attrName code (wrapper line) :=
  ⟨marks.read_wrapper shows.wellFormed [], by
    rw [marks.visible_wrapper shows.wellFormed, shows.same]⟩

theorem wrapCuts {cuts : List Cut} (shows : Shows attrName code (cuts.flatMap Cut.text))
    (marks : Marks attrName tag element wrapper) (clear : Clear attrName false cuts) :
    Shows attrName code (cuts.flatMap (·.wrap wrapper)) :=
  ⟨(marks.read_cuts clear rfl).trans shows.wellFormed, by
    rw [visible, marks.visibleFrom_cuts clear]
    exact shows.same⟩

/-- What is visible of the line is an escaped text. -/
theorem exists_escape (shows : Shows attrName code line) : ∃ text, visible line = escape text := by
  obtain ⟨space, blank, parts⟩ := Text.exists_trimRight_append (escape code)
  obtain ⟨text, trimmed⟩ := exists_escape_of_append parts blank
  obtain ⟨after, blankAfter, parts⟩ := Text.exists_trimRight_append (visible line)
  refine ⟨text ++ after, ?_⟩
  rw [escape_append, escape_of_isBlank blankAfter, ← trimmed, ← shows.same, ← parts]

end Shows

end SnippetMarkup.Html
