import Mathlib
import SnippetMarkup.Proofs.Html.Nesting
import SnippetMarkup.Proofs.Operation.Build
import SnippetMarkup.Proofs.Text.Cut

/-!
# Marking a line

A highlight or a link cuts a line at what is in its scope and puts markers around the pieces it
picks out; the pieces together are the line.  So a line that shows a code goes on to show it if the
pieces keep clear of the tags that are on the line already.  That is so for every operation on the
whole line, and for the first operation of all, as long as it does not look at what it has put there
itself: if it picks out either the occurrences of a text or the matches of an expression.
-/

namespace SnippetMarkup

open Html

/-! ## Occurrences of a text -/

namespace Text

variable (part : Text)

/-- The pieces that a text is cut into, with what stands between them picked out. -/
def cutsBetween (part : Text) : List Text → List Cut
  | [] => []
  | [last] => [.left last]
  | piece :: rest => .left piece :: .picked part :: cutsBetween part rest

/-- A text with the occurrences of `part` picked out. -/
def cuts (part text : Text) : List Cut := cutsBetween part (cutAt part text)

theorem flatMap_cutsBetween (display : Cut → Text) (left : ∀ text, display (.left text) = text)
    (pieces : List Text) :
    (cutsBetween part pieces).flatMap display = List.intercalate (display (.picked part)) pieces := by
  fun_induction cutsBetween part pieces with
  | case1 => rfl
  | case2 last => simp [left]
  | case3 piece rest more ih =>
    obtain ⟨second, others, rfl⟩ := List.exists_cons_of_ne_nil more
    rw [List.flatMap_cons, List.flatMap_cons, ih, left, List.intercalate_cons_cons,
      List.append_assoc]

theorem flatMap_cuts (text : Text) : (cuts part text).flatMap Cut.text = text :=
  (flatMap_cutsBetween part Cut.text (fun _ => rfl) _).trans (intercalate_cutAt part text)

theorem replaceAll_eq_cuts (wrapper : Text → Text) (text : Text) :
    replaceAll part (wrapper part) text = (cuts part text).flatMap (·.wrap wrapper) :=
  (flatMap_cutsBetween part (·.wrap wrapper) (fun _ => rfl) _).symm

end Text

/-! ## Matches of an expression -/

namespace Regex

theorem stretch_append (text : Array Char) {start middle stop : Nat} (before : start ≤ middle)
    (behind : middle ≤ stop) :
    stretch text start middle ++ stretch text middle stop = stretch text start stop := by
  rw [stretch, stretch, ← Array.toList_append, Array.extract_append_extract,
    Nat.min_eq_left before, Nat.max_eq_right behind, stretch]

theorem flatMap_piecesFrom (node : Node) (text : Array Char) (place : Nat)
    (inside : place ≤ text.size) (advance : Bool) :
    (node.piecesFrom text place inside advance).flatMap Piece.text =
      stretch text place text.size := by
  fun_induction Node.piecesFrom node text place inside advance with
  | case1 place inside advance nothing => simp [Piece.text]
  | case2 place inside advance hit found ih =>
    rw [List.flatMap_cons, List.flatMap_cons, ih]
    have matched : (Piece.hit hit.toMatch).text = stretch text hit.start hit.stop.place := rfl
    -- What is in front of the match, the match and what is behind it join up.
    rw [matched, stretch_append text hit.start_le hit.stop.inside, Piece.text,
      stretch_append text hit.from_le (hit.start_le.trans hit.stop.inside)]

def Piece.cut : Piece → Cut
  | plain text => .left text
  | hit found => .picked found.whole

variable (regex : Regex)

/-- A text with the matches of an expression picked out. -/
def cuts (text : Text) : List Cut := (regex.pieces text).map Piece.cut

theorem flatMap_cuts (text : Text) : (regex.cuts text).flatMap Cut.text = text := by
  have same : (fun piece => (Piece.cut piece).text) = Piece.text := by
    funext piece
    cases piece <;> rfl
  rw [cuts, List.flatMap_map, same, pieces, flatMap_piecesFrom]
  simp [stretch]

theorem substitute_eq_cuts (wrapper : Text → Text) (text : Text) :
    regex.substitute (fun found => wrapper found.whole) text =
      (regex.cuts text).flatMap (·.wrap wrapper) := by
  rw [substitute, cuts, List.flatMap_map]
  congr 1
  funext piece
  cases piece <;> rfl

end Regex

/-! ## Scopes -/

namespace Scope

/-- A line with the occurrences of the text in scope wrapped, where the expression is searched. -/
def wrapText (scope : Scope) (wrapper : Text → Text) (line : Text) : Text :=
  match scope.substring with
  | some part => Text.replaceAll part (wrapper part) line
  | none => line

theorem wrap_eq (scope : Scope) (wrapper : Text → Text) (line : Text) :
    scope.wrap wrapper line =
      match scope.regex with
      | some regex =>
        regex.substitute (fun found => wrapper found.whole) (scope.wrapText wrapper line)
      | none => if scope.substring.isNone then wrapper line else scope.wrapText wrapper line := by
  rcases scope with ⟨_ | part, _ | regex⟩ <;> rfl

/-- Whether all that a scope picks out of a line keeps clear of the tags on it: also, for the
matches of an expression, of those that have been put around the occurrences of a text. -/
def Clear (attrName : Text) (scope : Scope) (wrapper : Text → Text) (line : Text) : Prop :=
  (∀ part ∈ scope.substring, Html.Clear attrName false (Text.cuts part line)) ∧
    ∀ regex ∈ scope.regex, Html.Clear attrName false (regex.cuts (scope.wrapText wrapper line))

instance (attrName : Text) (scope : Scope) (wrapper : Text → Text) (line : Text) :
    Decidable (scope.Clear attrName wrapper line) :=
  inferInstanceAs (Decidable (_ ∧ _))

variable {attrName code line tag : Text} {element : Element} {scope : Scope}
  {wrapper : Text → Text}

theorem shows_wrapText (shows : Shows attrName code line)
    (marks : Marks attrName tag element wrapper) (clear : scope.Clear attrName wrapper line) :
    Shows attrName code (scope.wrapText wrapper line) := by
  unfold wrapText
  cases given : scope.substring with
  | none => exact shows
  | some part =>
    dsimp only
    rw [Text.replaceAll_eq_cuts part wrapper]
    refine Shows.wrapCuts ?_ marks (clear.1 part given)
    rwa [Text.flatMap_cuts]

/-- A line with what is in scope wrapped still shows what it showed. -/
theorem shows_wrap (shows : Shows attrName code line)
    (marks : Marks attrName tag element wrapper) (clear : scope.Clear attrName wrapper line) :
    Shows attrName code (scope.wrap wrapper line) := by
  have showsText := shows_wrapText shows marks clear
  rw [wrap_eq]
  cases given : scope.regex with
  | none =>
    dsimp only
    split
    · exact shows.wrap marks
    · exact showsText
  | some regex =>
    dsimp only
    rw [Regex.substitute_eq_cuts regex wrapper]
    refine Shows.wrapCuts ?_ marks (clear.2 regex given)
    rwa [Regex.flatMap_cuts]

/-- A scope that is not given in two ways keeps clear of the tags where there are none. -/
theorem clear_of_plain (plain : Plain line) (single : scope.substring = none ∨ scope.regex = none)
    (wrapper : Text → Text) : scope.Clear attrName wrapper line := by
  have clear {cuts : List Cut} (parts : cuts.flatMap Cut.text = line) :
      Html.Clear attrName false cuts :=
    Html.clear_of_plain fun cut member => plain.of_subset fun c inside =>
      parts ▸ List.mem_flatMap_of_mem member inside
  refine ⟨fun part given => clear (Text.flatMap_cuts part line), fun regex given => clear ?_⟩
  -- Nothing has been put around a text, so the expression is searched for in the line itself.
  have whole : scope.substring = none := single.resolve_right (by rw [given]; simp)
  rw [Regex.flatMap_cuts, wrapText, whole]

end Scope

/-! ## Operations -/

namespace Operation

/-- The operations that put markers on a line, with anchors in the given attribute. -/
inductive Marking (attrName : Text) : Operation → Prop
  | highlight (scope : Scope) (style : Style) : Marking attrName (highlight scope style)
  | link (scope : Scope) (id : Text) : Marking attrName (link scope attrName id)

/-- What an operation makes of a piece that is in its scope.  A replacement for it may still stand
for other texts. -/
def wrapper : Operation → Text → Text
  | highlight _ style => wrapStyle style
  | replace _ replacement => fun _ => replacement
  | link _ attrName id => wrapAnchor attrName id

variable {attrName code line : Text}

theorem marks_wrapStyle (style : Style) :
    Marks attrName style.element (.styled style) (wrapStyle style) := by
  refine ⟨fun text => rfl, by cases style <;> decide, fun elements => ?_⟩
  have opens := Element.ofOpening?_styled attrName style
  cases style <;> exact congrArg (Option.map (· :: elements)) opens

theorem marks_wrapAnchor (plain : Plain attrName) (id : Text) :
    Marks attrName ('a' :: ' ' :: attrName ++ ['=', '"'] ++ escape id ++ ['"']) .anchor
      (wrapAnchor attrName id) := by
  refine ⟨fun text => ?wraps, ?plain, fun elements => ?opens⟩
  case wraps => simp [wrapAnchor, anchorOpening, anchorClosing, angled, Element.name]
  case plain =>
    have edges : Plain ['a', ' '] ∧ Plain ['=', '"'] ∧ Plain ['"'] := by decide
    exact plain_append_iff.2 ⟨plain_append_iff.2 ⟨plain_append_iff.2 ⟨plain_append_iff.2
      ⟨edges.1, plain⟩, edges.2.1⟩, plain_escape id⟩, edges.2.2⟩
  case opens =>
    have unquoted : '"' ∉ escape id := notMem_escape (by simp [forbidden]) id
    exact congrArg (Option.map (· :: elements)) (Element.ofOpening?_anchor attrName unquoted)

namespace Marking

variable {operation : Operation} (marking : Marking attrName operation)

include marking

theorem exists_marks (plain : Plain attrName) :
    ∃ tag element, Marks attrName tag element operation.wrapper := by
  cases marking with
  | highlight scope style => exact ⟨_, _, marks_wrapStyle style⟩
  | link scope id => exact ⟨_, _, marks_wrapAnchor plain id⟩

theorem apply_eq (line : Text) :
    operation.apply line = .ok (operation.scope.wrap operation.wrapper line) := by
  cases marking <;> rfl

end Marking

/-- Whether all that an operation picks out of a line keeps clear of the tags on it. -/
def Clear (attrName line : Text) (operation : Operation) : Prop :=
  operation.scope.Clear attrName operation.wrapper line

instance (attrName line : Text) (operation : Operation) :
    Decidable (operation.Clear attrName line) :=
  inferInstanceAs (Decidable (Scope.Clear ..))

/-- Whether each of some operations keeps clear of the tags on a line as the operations before it
have left it. -/
def ClearAll (attrName : Text) : Text → List Operation → Prop
  | _, [] => True
  | line, operation :: rest =>
    operation.Clear attrName line ∧
      match operation.apply line with
      | .ok marked => ClearAll attrName marked rest
      | .error _ => True

instance ClearAll.decidable (attrName line : Text) (operations : List Operation) :
    Decidable (ClearAll attrName line operations) :=
  match operations with
  | [] => inferInstanceAs (Decidable True)
  | operation :: rest =>
    have : Decidable (match operation.apply line with
        | .ok marked => ClearAll attrName marked rest
        | .error _ => True) :=
      match operation.apply line with
      | .ok marked => ClearAll.decidable attrName marked rest
      | .error _ => inferInstanceAs (Decidable True)
    inferInstanceAs (Decidable (_ ∧ _))

theorem shows_apply {operation : Operation} {marked : Text} (plain : Plain attrName)
    (marking : Marking attrName operation) (shows : Shows attrName code line)
    (clear : operation.Clear attrName line) (applied : operation.apply line = .ok marked) :
    Shows attrName code marked := by
  obtain ⟨tag, element, marks⟩ := marking.exists_marks plain
  rw [marking.apply_eq, Except.ok.injEq] at applied
  exact applied ▸ Scope.shows_wrap shows marks clear

/-- A line still shows what it showed after some operations that keep clear of its tags. -/
theorem shows_applyAll {operations : List Operation} {marked : Text} (plain : Plain attrName)
    (marking : ∀ operation ∈ operations, Marking attrName operation)
    (shows : Shows attrName code line) (clear : ClearAll attrName line operations)
    (applied : applyAll line operations = .ok marked) : Shows attrName code marked := by
  induction operations generalizing line with
  | nil =>
    obtain rfl : line = marked := Except.ok.inj applied
    exact shows
  | cons operation rest ih =>
    rw [List.forall_mem_cons] at marking
    obtain ⟨clearFirst, clearRest⟩ := clear
    have first := marking.1.apply_eq line
    rw [first] at clearRest
    rw [applyAll, List.foldlM_cons, first] at applied
    exact ih marking.2 (shows_apply plain marking.1 shows clearFirst first) clearRest applied

/-! ## Operations of tags -/

/-- The operation that a tag makes, if it makes one. -/
def made? (context : MarkupContext) (store : ReferenceStore) (tag : Tag)
    (attributes : Attributes) : Option Operation :=
  match build context tag attributes store with
  | .ok built => built.operation
  | .error _ => none

section Made

variable {context : MarkupContext} {store : ReferenceStore} {tag : Tag} {attributes : Attributes}
  {operation : Operation}

theorem exists_build_of_made? (made : made? context store tag attributes = some operation) :
    ∃ built, build context tag attributes store = .ok built ∧
      built.operation = some operation := by
  unfold made? at made
  split at made
  · next built builds => exact ⟨built, builds, made⟩
  · simp at made

theorem exists_scope_of_withScope {next : Scope → Except MarkupFailure Built} {built : Built}
    (builds : withScope context.characters attributes store next = .ok built)
    (made : built.operation = some operation) :
    ∃ scope, Scope.ofAttributes context.characters attributes = .ok (.ok scope) ∧
      next scope = .ok built := by
  rw [withScope_eq] at builds
  split at builds
  · simp at builds
  · obtain rfl := Except.ok.inj builds
    simp [Built.refused] at made
  · next scope limits => exact ⟨scope, limits, builds⟩

/-- A tag that does not replace makes an operation that marks what its attributes ask for. -/
theorem marking_of_made? (made : made? context store tag attributes = some operation)
    (unreplaced : tag ≠ .replace) :
    Marking context.linkAttribute operation ∧
      Scope.ofAttributes context.characters attributes = .ok (.ok operation.scope) := by
  obtain ⟨built, builds, own⟩ := exists_build_of_made? made
  cases tag with
  | start =>
    obtain rfl := Except.ok.inj builds
    simp at own
  | finish =>
    obtain rfl := Except.ok.inj builds
    simp at own
  | replace => exact (unreplaced rfl).elim
  | highlight =>
    rw [build_highlight] at builds
    split at builds
    · obtain rfl := Except.ok.inj builds
      simp [Built.refused] at own
    · next style known =>
      obtain ⟨scope, limits, builds⟩ := exists_scope_of_withScope builds own
      obtain rfl := Except.ok.inj builds
      obtain rfl := Option.some.inj own
      exact ⟨.highlight scope style, limits⟩
  | link =>
    rw [build, buildLink] at builds
    split at builds
    · obtain rfl := Except.ok.inj builds
      simp [Built.refused] at own
    · next target given =>
      obtain ⟨scope, limits, builds⟩ := exists_scope_of_withScope builds own
      split at builds
      · obtain rfl := Except.ok.inj builds
        simp [Built.refused] at own
      · split at builds
        · obtain rfl := Except.ok.inj builds
          simp at own
        · next reference resolved =>
          obtain rfl := Except.ok.inj builds
          obtain rfl := Option.some.inj own
          exact ⟨.link scope _, limits⟩

end Made

end Operation

namespace Scope

/-- A tag that gives a text or an expression, but not both, has one of them in its scope. -/
theorem single_of_ofAttributes {characters : Regex.CharacterNames} {attributes : Attributes}
    {scope : Scope} (limits : ofAttributes characters attributes = .ok (.ok scope))
    (single : attributes.value? .substring = none ∨ attributes.value? .regex = none) :
    scope.substring = none ∨ scope.regex = none := by
  unfold ofAttributes at limits
  split at limits
  · obtain rfl := Except.ok.inj (Except.ok.inj limits)
    exact .inr rfl
  · next pattern given =>
    have unlimited : attributes.value? .substring = none := single.resolve_right (by simp [given])
    split at limits <;>
      simp only [Except.ok.injEq, reduceCtorEq] at limits
    exact .inl (limits ▸ unlimited)

end Scope

end SnippetMarkup
