import Mathlib
import SnippetMarkup.Proofs.Operation.Build

/-!
# Operations that fail

Almost all that can be wrong with a tag is reported.  Two things are not.  A pattern can be refused
for something that does not count as an error in it; then nothing is made of the tag.  And a
replacement can refer to a group by a number that has too many digits; then it cannot be put in the
place of a match.
-/

namespace SnippetMarkup

/-! ## Computations that fail -/

section Computations

variable {ε α β : Type} {failure : ε}

theorem bind_eq_error_iff {result : Except ε α} {next : α → Except ε β} :
    (result >>= next) = .error failure ↔
      result = .error failure ∨ ∃ value, result = .ok value ∧ next value = .error failure := by
  cases result <;> simp [bind, Except.bind]

/-- Working on some items in turn fails as the first of them does that fails. -/
theorem mapM_eq_error_iff {work : α → Except ε β} {fails : α → Option ε}
    (failing : ∀ item failure, work item = .error failure ↔ fails item = some failure)
    (items : List α) :
    items.mapM work = .error failure ↔ items.findSome? fails = some failure := by
  induction items with
  | nil => simp [pure, Except.pure]
  | cons item rest ih =>
    rw [List.mapM_cons, List.findSome?_cons, bind_eq_error_iff]
    cases worked : work item with
    | error early =>
      rw [(failing item early).1 worked]
      simp
    | ok value =>
      have proper : fails item = none := by
        by_contra failed
        obtain ⟨early, failed⟩ := Option.ne_none_iff_exists'.1 failed
        simp [(failing item early).2 failed] at worked
      rw [proper, ← ih]
      simp [bind_eq_error_iff, pure, Except.pure]

theorem foldlM_eq_error_iff {work : β → α → Except ε β} {items : List α} {start : β} :
    items.foldlM work start = .error failure ↔
      ∃ before item after value, items = before ++ item :: after ∧
        before.foldlM work start = .ok value ∧ work value item = .error failure := by
  induction items generalizing start with
  | nil => simp [pure, Except.pure]
  | cons first rest ih =>
    rw [List.foldlM_cons, bind_eq_error_iff]
    constructor
    · rintro (failed | ⟨middle, worked, failed⟩)
      · exact ⟨[], first, rest, start, rfl, rfl, failed⟩
      · obtain ⟨before, item, after, value, rfl, reached, fails⟩ := ih.1 failed
        refine ⟨first :: before, item, after, value, rfl, ?_, fails⟩
        rw [List.foldlM_cons, worked]
        exact reached
    · rintro ⟨before, item, after, value, same, reached, fails⟩
      -- Either the first item is the one that fails, or the work goes on behind it.
      cases before with
      | nil =>
        obtain ⟨rfl, rfl⟩ := List.cons.inj same
        obtain rfl := Except.ok.inj reached
        exact .inl fails
      | cons early before =>
        obtain ⟨rfl, rfl⟩ := List.cons.inj same
        rw [List.foldlM_cons] at reached
        cases worked : work start first with
        | error early => simp [worked, bind, Except.bind] at reached
        | ok middle =>
          rw [worked] at reached
          exact .inr ⟨middle, rfl, ih.2 ⟨before, item, after, value, rfl, reached, fails⟩⟩

end Computations

/-! ## Patterns -/

/-- The failure that a refused pattern is for its tag, if it is not a problem to report. -/
def Regex.Refusal.failure? : Regex.Refusal → Option MarkupFailure
  | .invalid _ => none
  | .repetitionTooLarge => some .repetitionTooLarge
  | .tooManyDigits digits => some (.tooManyDigits digits)
  | .hugeCharacter => some .hugeCharacter
  | .clashingGlobalFlags => some .clashingGlobalFlags

theorem Scope.ofAttributes_eq_error_iff {characters : Regex.CharacterNames}
    {attributes : Attributes} {failure : MarkupFailure} :
    Scope.ofAttributes characters attributes = .error failure ↔
      ∃ pattern refusal, attributes.value? .regex = some pattern ∧
        Regex.compile characters pattern = .error refusal ∧ refusal.failure? = some failure := by
  unfold Scope.ofAttributes
  cases given : attributes.value? .regex with
  | none => simp
  | some pattern =>
    cases compiled : Regex.compile characters pattern with
    | ok regex => simp [compiled]
    | error refusal => cases refusal <;> simp [compiled, Regex.Refusal.failure?]

/-! ## Replacements -/

/-- The failure that a part of a replacement is wherever it is put. -/
def ReplacementPart.failure? : ReplacementPart → Option MarkupFailure
  | .literal _ => none
  | .group digits =>
    if Text.digitLimit < digits.length then some (.tooManyDigits digits.length) else none

theorem ReplacementPart.expand_eq_error_iff (groups : Nat) (found : Regex.Match)
    (part : ReplacementPart) (failure : MarkupFailure) :
    part.expand groups found = .error failure ↔ part.failure? = some failure := by
  cases part with
  | literal c => simp [expand, failure?]
  | group digits =>
    by_cases long : Text.digitLimit < digits.length <;> simp [expand, failure?, long]

/-- The failure that a replacement is for every match: that of its first reference to a group by a
number with too many digits. -/
def replacementFailure? (replacement : Text) : Option MarkupFailure :=
  (ReplacementPart.readAll replacement).findSome? (·.failure?)

theorem expandReplacement_eq_error_iff {replacement : Text} {groups : Nat} {found : Regex.Match}
    {failure : MarkupFailure} :
    expandReplacement replacement groups found = .error failure ↔
      replacementFailure? replacement = some failure := by
  unfold expandReplacement replacementFailure?
  rw [← mapM_eq_error_iff (ReplacementPart.expand_eq_error_iff groups found), bind_eq_error_iff]
  simp [pure, Except.pure]

def pieceFailure? (replacement : Text) : Regex.Piece → Option MarkupFailure
  | .plain _ => none
  | .hit _ => replacementFailure? replacement

theorem replaceMatches_eq_error_iff {regex : Regex} {replacement line : Text}
    {failure : MarkupFailure} :
    regex.replaceMatches replacement line = .error failure ↔
      (∃ found, .hit found ∈ regex.pieces line) ∧
        replacementFailure? replacement = some failure := by
  have failing (piece : Regex.Piece) (failure : MarkupFailure) :
      replacePiece replacement regex.groups piece = .error failure ↔
        pieceFailure? replacement piece = some failure := by
    cases piece with
    | plain outside => simp [replacePiece, pieceFailure?]
    | hit found => exact expandReplacement_eq_error_iff
  have pieces : regex.replaceMatches replacement line = .error failure ↔
      (regex.pieces line).findSome? (pieceFailure? replacement) = some failure := by
    rw [← mapM_eq_error_iff failing, Regex.replaceMatches, bind_eq_error_iff]
    simp [pure, Except.pure]
  rw [pieces]
  constructor
  · intro fails
    obtain ⟨piece, member, fails⟩ := List.exists_of_findSome?_eq_some fails
    cases piece with
    | plain outside => simp [pieceFailure?] at fails
    | hit found => exact ⟨⟨found, member⟩, fails⟩
  · rintro ⟨⟨found, member⟩, fails⟩
    -- The first piece that fails need not be this one, but all that fail do so in the same way.
    have anyFails : ((regex.pieces line).findSome? (pieceFailure? replacement)).isSome :=
      List.findSome?_isSome_iff.2 ⟨.hit found, member, by simp [pieceFailure?, fails]⟩
    obtain ⟨other, first⟩ := Option.isSome_iff_exists.1 anyFails
    obtain ⟨piece, -, same⟩ := List.exists_of_findSome?_eq_some first
    cases piece with
    | plain outside => simp [pieceFailure?] at same
    | hit _ => rw [first, ← same, ← fails, pieceFailure?]

/-! ## Operations -/

/-- A line with the occurrences of the text in scope replaced, which is where the matches of the
expression in scope are replaced then. -/
def Scope.replaceText (scope : Scope) (replacement line : Text) : Text :=
  match scope.substring with
  | some part => Text.replaceAll part replacement line
  | none => line

namespace Operation

/-- A replacement for the matches of an expression refers to a group by a number with too many
digits, and there is a match where it is to be put. -/
inductive Overruns : Operation → Text → MarkupFailure → Prop
  | replace {scope : Scope} {regex : Regex} {replacement line : Text} {found : Regex.Match}
    {failure : MarkupFailure} (limits : scope.regex = some regex)
    (hit : .hit found ∈ regex.pieces (scope.replaceText replacement line))
    (overlong : replacementFailure? replacement = some failure) :
    Overruns (.replace scope replacement) line failure

theorem applyReplace_eq (scope : Scope) (replacement line : Text) :
    applyReplace scope replacement line =
      match scope.regex with
      | some regex => regex.replaceMatches replacement (scope.replaceText replacement line)
      | none => .ok (if scope.substring.isNone then replacement
          else scope.replaceText replacement line) := by
  obtain ⟨substring, _ | regex⟩ := scope
  · cases substring <;> rfl
  · have narrow : Scope.isWholeLine ⟨substring, some regex⟩ = false := by simp [Scope.isWholeLine]
    simp only [applyReplace, narrow]
    exact bind_pure _

theorem applyReplace_eq_error_iff {scope : Scope} {replacement line : Text}
    {failure : MarkupFailure} :
    applyReplace scope replacement line = .error failure ↔
      ∃ regex, scope.regex = some regex ∧
        regex.replaceMatches replacement (scope.replaceText replacement line) = .error failure := by
  rw [applyReplace_eq]
  cases scope.regex <;> simp

theorem apply_eq_error_iff {operation : Operation} {line : Text} {failure : MarkupFailure} :
    operation.apply line = .error failure ↔ Overruns operation line failure := by
  constructor
  · intro fails
    cases operation with
    | highlight scope style => simp [apply] at fails
    | link scope attrName id => simp [apply] at fails
    | replace scope replacement =>
      obtain ⟨regex, limits, fails⟩ := applyReplace_eq_error_iff.1 fails
      obtain ⟨⟨found, hit⟩, overlong⟩ := replaceMatches_eq_error_iff.1 fails
      exact .replace limits hit overlong
  · rintro ⟨limits, hit, overlong⟩
    exact applyReplace_eq_error_iff.2
      ⟨_, limits, replaceMatches_eq_error_iff.2 ⟨⟨_, hit⟩, overlong⟩⟩

theorem applyAll_eq_error_iff {operations : List Operation} {line : Text}
    {failure : MarkupFailure} :
    applyAll line operations = .error failure ↔
      ∃ before operation after reached, operations = before ++ operation :: after ∧
        applyAll line before = .ok reached ∧ Overruns operation reached failure := by
  simp only [applyAll, foldlM_eq_error_iff, apply_eq_error_iff]

/-! ## Tags -/

/-- Whether a tag has all that it needs besides its pattern, so that its pattern is looked at. -/
def ReadsPattern (tag : Tag) (attributes : Attributes) : Prop :=
  match tag with
  | .start | .finish => False
  | .highlight => Style.ofName? (styleName attributes) ≠ none
  | .replace => attributes.value? .replacement ≠ none
  | .link => attributes.value? .target ≠ none

theorem withScope_eq_error_iff {characters : Regex.CharacterNames} {attributes : Attributes}
    {store : ReferenceStore} {next : Scope → Except MarkupFailure Built} {failure : MarkupFailure}
    (makes : ∀ scope failure, next scope ≠ .error failure) :
    withScope characters attributes store next = .error failure ↔
      Scope.ofAttributes characters attributes = .error failure := by
  rw [withScope_eq]
  rcases Scope.ofAttributes characters attributes with failed | problem | scope
  · simp
  · simp
  · simpa using makes scope failure

/-- A tag fails exactly if its pattern is looked at and refused for something that is not to be
reported. -/
theorem build_eq_error_iff {context : MarkupContext} {tag : Tag} {attributes : Attributes}
    {store : ReferenceStore} {failure : MarkupFailure} :
    build context tag attributes store = .error failure ↔
      ReadsPattern tag attributes ∧
        Scope.ofAttributes context.characters attributes = .error failure := by
  cases tag with
  | start => simp [build, ReadsPattern]
  | finish => simp [build, ReadsPattern]
  | highlight =>
    rw [build_highlight, ReadsPattern]
    cases Style.ofName? (styleName attributes) with
    | none => simp
    | some style => simp [withScope_eq_error_iff]
  | replace =>
    rw [build_replace, ReadsPattern]
    cases attributes.value? .replacement with
    | none => simp
    | some replacement => simp [withScope_eq_error_iff]
  | link =>
    rw [build_link, ReadsPattern]
    cases attributes.value? .target with
    | none => simp
    | some target => simp [withScope_eq_error_iff]

end Operation

end SnippetMarkup
