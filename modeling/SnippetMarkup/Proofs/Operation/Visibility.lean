import Mathlib
import SnippetMarkup.Proofs.Markup.Attributes
import SnippetMarkup.Proofs.Operation.Failure
import SnippetMarkup.Proofs.Operation.Indentation

/-!
# Blank lines and operations

A highlight or a link takes no character off a line, so that a line with something visible on it
stays one.  An empty line stays empty under every operation that looks for something: a text, which
no tag can give as a blank one, or an expression that does not match the empty text.
-/

namespace SnippetMarkup

open Html
open Unicode (isSpace)

/-! ## Lines with something marked on them -/

namespace Operation

section Marked

variable {attrName : Text} {operation : Operation}

theorem subset_wrapper (marking : Marking attrName operation) (text : Text) :
    text ⊆ operation.wrapper text := by
  cases marking with
  | highlight scope style =>
    exact List.Subset.trans (List.subset_append_right _ _) (List.subset_append_left _ _)
  | link scope id =>
    exact List.Subset.trans (List.subset_append_right _ _) (List.subset_append_left _ _)

/-- Where a piece of a line is wrapped, all of it is still there. -/
theorem subset_flatMap_wrap {wrapper : Text → Text} (keeps : ∀ text, text ⊆ wrapper text)
    (cuts : List Cut) : cuts.flatMap Cut.text ⊆ cuts.flatMap (·.wrap wrapper) := by
  intro c member
  obtain ⟨cut, inside, member⟩ := List.mem_flatMap.1 member
  refine List.mem_flatMap.2 ⟨cut, inside, ?_⟩
  cases cut with
  | left text => exact member
  | picked text => exact keeps text member

theorem subset_mark (marking : Marking attrName operation) (line : Text) :
    line ⊆ operation.mark line := by
  have keeps := subset_wrapper marking
  have text : line ⊆ operation.scope.wrapText operation.wrapper line := by
    rw [Scope.wrapText]
    split
    · next part _ =>
      have cut := subset_flatMap_wrap keeps (Text.cuts part line)
      rwa [← Text.replaceAll_eq_cuts, Text.flatMap_cuts] at cut
    · exact List.Subset.refl _
  rw [mark, Scope.wrap_eq]
  split
  · next regex _ =>
    have cut := subset_flatMap_wrap keeps
      (regex.cuts (operation.scope.wrapText operation.wrapper line))
    rw [← Regex.substitute_eq_cuts, Regex.flatMap_cuts] at cut
    exact List.Subset.trans text cut
  · split
    · exact keeps line
    · exact text

theorem subset_markAll {operations : List Operation}
    (marking : ∀ operation ∈ operations, Marking attrName operation) (line : Text) :
    line ⊆ markAll line operations := by
  induction operations generalizing line with
  | nil => exact List.Subset.refl _
  | cons operation rest ih =>
    rw [List.forall_mem_cons] at marking
    exact List.Subset.trans (subset_mark marking.1 line) (ih marking.2 (operation.mark line))

end Marked

end Operation

/-! ## Empty lines -/

/-- Whether an expression matches the empty text. -/
def Regex.MatchesEmpty (regex : Regex) : Prop := ∃ found, .hit found ∈ regex.pieces []

theorem Regex.matchesEmpty_iff {regex : Regex} :
    regex.MatchesEmpty ↔ regex.pieces [] ≠ [.plain []] := by
  unfold MatchesEmpty pieces
  rw [Node.piecesFrom]
  split
  · simp [stretch]
  · next hit _ => exact iff_of_true ⟨hit.toMatch, by simp⟩ (by simp)

instance (regex : Regex) : Decidable regex.MatchesEmpty :=
  decidable_of_iff _ Regex.matchesEmpty_iff.symm

theorem Regex.pieces_nil {regex : Regex} (misses : ¬regex.MatchesEmpty) :
    regex.pieces [] = [.plain []] :=
  not_not.1 (mt matchesEmpty_iff.2 misses)

theorem Regex.matchesEmpty_of_search {regex : Regex}
    (found : (regex.node.search [].toArray 0 (Nat.zero_le _) false).isSome) :
    regex.MatchesEmpty := by
  rw [matchesEmpty_iff, pieces, Node.piecesFrom]
  split
  · next nothing => simp [nothing] at found
  · simp

theorem Regex.pieces_of_search {regex : Regex} {text : Text}
    (nothing : regex.node.search text.toArray 0 (Nat.zero_le _) false = none) :
    regex.pieces text = [.plain text] := by
  rw [pieces, Node.piecesFrom, nothing]
  simp [stretch]

/-- Whether a scope has nothing to find in an empty line. -/
def Scope.MissesEmpty (scope : Scope) : Prop :=
  scope.isWholeLine = false ∧ ∀ regex ∈ scope.regex, ¬regex.MatchesEmpty

instance (scope : Scope) : Decidable scope.MissesEmpty := inferInstanceAs (Decidable (_ ∧ _))

section Empty

variable {scope : Scope}

theorem Text.replaceAll_nil {part : Text} (some : part ≠ []) (replacement : Text) :
    replaceAll part replacement [] = [] := by
  simp [replaceAll, cutAt, some]

theorem Scope.MissesEmpty.isNone_substring (misses : scope.MissesEmpty)
    (unsearched : scope.regex = none) : scope.substring.isNone = false := by
  simpa [isWholeLine, unsearched] using misses.1

theorem Scope.wrapText_nil (given : scope.substring ≠ some []) (wrapper : Text → Text) :
    scope.wrapText wrapper [] = [] := by
  unfold wrapText
  split
  · next part searched =>
    exact Text.replaceAll_nil (fun nothing => given (by rw [searched, nothing])) _
  · rfl

theorem Scope.wrap_nil (misses : scope.MissesEmpty) (given : scope.substring ≠ some [])
    (wrapper : Text → Text) : scope.wrap wrapper [] = [] := by
  rw [wrap_eq, wrapText_nil given]
  cases searched : scope.regex with
  | none => simp [misses.isNone_substring searched]
  | some regex => simp [Regex.substitute, Regex.pieces_nil (misses.2 regex searched)]

theorem Scope.replaceText_nil (given : scope.substring ≠ some []) (replacement : Text) :
    scope.replaceText replacement [] = [] :=
  scope.wrapText_nil given fun _ => replacement

theorem Operation.applyReplace_nil (misses : scope.MissesEmpty) (given : scope.substring ≠ some [])
    (replacement : Text) : applyReplace scope replacement [] = .ok [] := by
  rw [applyReplace_eq, Scope.replaceText_nil given]
  cases searched : scope.regex with
  | none => simp [misses.isNone_substring searched]
  | some regex =>
    simp only [Regex.replaceMatches, Regex.pieces_nil (misses.2 regex searched)]
    rfl

theorem Operation.apply_nil {operation : Operation} (misses : operation.scope.MissesEmpty)
    (given : operation.scope.substring ≠ some []) : operation.apply [] = .ok [] := by
  cases operation with
  | highlight scope style => exact congrArg Except.ok (Scope.wrap_nil misses given _)
  | replace scope replacement => exact applyReplace_nil misses given replacement
  | link scope attrName id => exact congrArg Except.ok (Scope.wrap_nil misses given _)

theorem Operation.applyAll_nil {operations : List Operation}
    (misses : ∀ operation ∈ operations, operation.scope.MissesEmpty)
    (given : ∀ operation ∈ operations, operation.scope.substring ≠ some []) :
    applyAll [] operations = .ok [] := by
  induction operations with
  | nil => rfl
  | cons operation rest ih =>
    rw [List.forall_mem_cons] at misses given
    rw [applyAll, List.foldlM_cons, apply_nil misses.1 given.1]
    exact ih misses.2 given.2

end Empty

/-! ## Scopes that tags give -/

theorem Scope.substring_of_ofAttributes {characters : Regex.CharacterNames}
    {attributes : Attributes} {scope : Scope}
    (limits : ofAttributes characters attributes = .ok (.ok scope)) :
    scope.substring = attributes.value? .substring := by
  unfold ofAttributes at limits
  split at limits
  · obtain rfl := Except.ok.inj (Except.ok.inj limits)
    rfl
  · split at limits <;> simp only [Except.ok.injEq, reduceCtorEq] at limits
    exact limits ▸ rfl

namespace Operation

variable {context : MarkupContext} {store : ReferenceStore} {tag : Tag} {operation : Operation}

theorem scope_of_made? {attributes : Attributes}
    (made : made? context store tag attributes = some operation) :
    Scope.ofAttributes context.characters attributes = .ok (.ok operation.scope) := by
  by_cases replaces : tag = .replace
  · subst replaces
    obtain ⟨built, builds, own⟩ := exists_build_of_made? made
    rw [build_replace] at builds
    split at builds
    · obtain rfl := Except.ok.inj builds
      simp [Built.refused] at own
    · obtain ⟨scope, limits, builds⟩ := exists_scope_of_withScope builds own
      obtain rfl := Except.ok.inj builds
      obtain rfl := Option.some.inj own
      exact limits
  · exact (marking_of_made? made replaces).2

/-- No tag makes an operation that looks for the empty text. -/
theorem substring_ne_nil_of_made? {body : Text}
    (made : made? context store tag (Attributes.parse tag body).1 = some operation) :
    operation.scope.substring ≠ some [] := by
  rw [Scope.substring_of_ofAttributes (scope_of_made? made)]
  intro given
  simpa [Text.isBlank] using Attributes.visible_of_parse given

end Operation

end SnippetMarkup
