import Mathlib
import SnippetMarkup.Proofs.Operation.Marking
import SnippetMarkup.Proofs.Text.Indent

/-!
# Marking indented lines

An operation that looks for a text which begins with something visible finds nothing in white space.
So it does the same to a line and to the line with white space in front.  An operation on the whole
line takes the white space between its markers.
-/

namespace SnippetMarkup

open Html
open Unicode (isSpace)

/-- A scope that is given by nothing but a text which begins with something visible. -/
structure Scope.Anchored (scope : Scope) : Prop where
  given : ∃ first others, scope.substring = some (first :: others) ∧ isSpace first = false
  alone : scope.regex = none

namespace Operation

/-- A line with the markers of an operation on it. -/
def mark (line : Text) (operation : Operation) : Text :=
  operation.scope.wrap operation.wrapper line

/-- A line with the markers of some operations on it, put there in turn. -/
def markAll (line : Text) (operations : List Operation) : Text := operations.foldl mark line

theorem applyAll_eq_markAll {attrName : Text} {operations : List Operation}
    (marking : ∀ operation ∈ operations, Marking attrName operation) (line : Text) :
    applyAll line operations = .ok (markAll line operations) := by
  induction operations generalizing line with
  | nil => rfl
  | cons operation rest ih =>
    rw [List.forall_mem_cons] at marking
    rw [applyAll, List.foldlM_cons, marking.1.apply_eq]
    exact ih marking.2 (operation.mark line)

/-! ## White space in front -/

section Anchored

variable {operation : Operation} {operations : List Operation} {space : Text}

theorem mark_eq_replaceAll {first : Char} {others : Text}
    (given : operation.scope.substring = some (first :: others))
    (alone : operation.scope.regex = none) (line : Text) :
    operation.mark line =
      Text.replaceAll (first :: others) (operation.wrapper (first :: others)) line := by
  rw [mark, Scope.wrap_eq, alone, Scope.wrapText, given]
  rfl

theorem mark_append (anchored : operation.scope.Anchored) (blank : Text.isBlank space)
    (line : Text) : operation.mark (space ++ line) = space ++ operation.mark line := by
  obtain ⟨⟨first, others, given, visible⟩, alone⟩ := anchored
  rw [mark_eq_replaceAll given alone, mark_eq_replaceAll given alone]
  refine Text.replaceAll_append _ (fun member => ?_) line
  rw [List.all_eq_true.1 blank first member] at visible
  simp at visible

theorem mark_nil (anchored : operation.scope.Anchored) : operation.mark [] = [] := by
  obtain ⟨⟨first, others, given, -⟩, alone⟩ := anchored
  rw [mark_eq_replaceAll given alone]
  simp [Text.replaceAll, Text.cutAt]

theorem markAll_append (anchored : ∀ operation ∈ operations, operation.scope.Anchored)
    (blank : Text.isBlank space) (line : Text) :
    markAll (space ++ line) operations = space ++ markAll line operations := by
  induction operations generalizing line with
  | nil => rfl
  | cons operation rest ih =>
    rw [List.forall_mem_cons] at anchored
    rw [markAll, List.foldl_cons, mark_append anchored.1 blank]
    exact ih anchored.2 (operation.mark line)

theorem markAll_nil (anchored : ∀ operation ∈ operations, operation.scope.Anchored) :
    markAll [] operations = [] := by
  induction operations with
  | nil => rfl
  | cons operation rest ih =>
    rw [List.forall_mem_cons] at anchored
    rw [markAll, List.foldl_cons, mark_nil anchored.1]
    exact ih anchored.2

end Anchored

/-! ## Characters of a marked line -/

section Characters

variable {attrName : Text}

theorem wrapper_subset {operation : Operation} (marking : Marking attrName operation)
    (text : Text) : operation.wrapper text ⊆ text ++ operation.wrapper [] := by
  cases marking with
  | highlight scope style =>
    intro c
    simp only [wrapper, wrapStyle, List.mem_append]
    tauto
  | link scope id =>
    intro c
    simp only [wrapper, wrapAnchor, List.mem_append]
    tauto

/-- Around the pieces of a line, nothing is put but the markers. -/
theorem flatMap_wrap_subset {wrapper : Text → Text} (adds : ∀ text, wrapper text ⊆ text ++ wrapper [])
    (cuts : List Cut) :
    cuts.flatMap (·.wrap wrapper) ⊆ cuts.flatMap Cut.text ++ wrapper [] := by
  intro c member
  obtain ⟨cut, inside, member⟩ := List.mem_flatMap.1 member
  rw [List.mem_append, List.mem_flatMap]
  cases cut with
  | left text => exact .inl ⟨.left text, inside, member⟩
  | picked text =>
    exact (List.mem_append.1 (adds text member)).imp_left fun own => ⟨.picked text, inside, own⟩

theorem mark_subset {operation : Operation} (marking : Marking attrName operation) (line : Text) :
    operation.mark line ⊆ line ++ operation.wrapper [] := by
  have adds := wrapper_subset marking
  have text : operation.scope.wrapText operation.wrapper line ⊆ line ++ operation.wrapper [] := by
    rw [Scope.wrapText]
    split
    · next part _ =>
      have cut := flatMap_wrap_subset adds (Text.cuts part line)
      rwa [← Text.replaceAll_eq_cuts, Text.flatMap_cuts] at cut
    · exact List.subset_append_left _ _
  rw [mark, Scope.wrap_eq]
  split
  · next regex _ =>
    have cut := flatMap_wrap_subset adds
      (regex.cuts (operation.scope.wrapText operation.wrapper line))
    rw [← Regex.substitute_eq_cuts, Regex.flatMap_cuts] at cut
    exact List.Subset.trans cut (List.append_subset.2 ⟨text, List.subset_append_right _ _⟩)
  · split
    · exact adds line
    · exact text

theorem notMem_markAll {operations : List Operation} {c : Char} {line : Text}
    (marking : ∀ operation ∈ operations, Marking attrName operation)
    (unmarked : ∀ operation ∈ operations, c ∉ operation.wrapper []) (absent : c ∉ line) :
    c ∉ markAll line operations := by
  induction operations generalizing line with
  | nil => exact absent
  | cons operation rest ih =>
    rw [List.forall_mem_cons] at marking unmarked
    refine ih marking.2 unmarked.2 fun member => ?_
    exact (List.mem_append.1 (mark_subset marking.1 line member)).elim absent unmarked.1

end Characters

end Operation

end SnippetMarkup
