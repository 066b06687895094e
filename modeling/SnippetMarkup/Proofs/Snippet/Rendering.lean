import Mathlib
import SnippetMarkup.Proofs.Operation.Indentation
import SnippetMarkup.Proofs.Snippet.Visit

/-!
# What is shown of a snippet

Where nothing is replaced, a line is shown as its escaped code with markers in it, as long as every
operation keeps clear of the markers of those before it.  An operation that acts alone on a line,
and picks out what it marks in one way only, always does.  One that searches a line again after it
has been marked may find a part of a marker, and break it.
-/

namespace SnippetMarkup

open Html

/-! ## Lines -/

theorem Progress.exists_applyAll_of_render {progress : Progress} {line rendered : Text}
    (renders : progress.render line = .ok rendered) :
    ∃ marked, Operation.applyAll (escape line) progress.stack.operations = .ok marked ∧
      rendered = Text.trimRight marked := by
  unfold render at renders
  cases applied : Operation.applyAll (escape line) progress.stack.operations with
  | error failure =>
    rw [applied] at renders
    cases renders
  | ok marked =>
    rw [applied] at renders
    exact ⟨marked, rfl, (Except.ok.inj renders).symm⟩

/-- Where nothing is replaced, every line can be rendered. -/
theorem Progress.render_eq_markAll {attrName : Text} {progress : Progress}
    (marking : ∀ operation ∈ progress.stack.operations, Operation.Marking attrName operation)
    (line : Text) :
    progress.render line =
      .ok (Text.trimRight (Operation.markAll (escape line) progress.stack.operations)) := by
  rw [render, Operation.applyAll_eq_markAll marking]
  rfl

namespace Visit

/-- Whether the operations that act on a line keep clear of the tags that are on it by then: those
of the open regions, and then the one that the tag of the line makes. -/
def Clear (context : SnippetContext) (visit : Visit) : Prop :=
  Operation.ClearAll context.linkAttribute (escape visit.code) visit.before.stack.operations ∧
    match visit.before.render visit.code with
    | .ok rendered =>
      ∀ operation ∈ visit.made? context, operation.Clear context.linkAttribute rendered
    | .error _ => True

instance (context : SnippetContext) (visit : Visit) : Decidable (visit.Clear context) :=
  have : Decidable (match visit.before.render visit.code with
      | .ok rendered =>
        ∀ operation ∈ visit.made? context, operation.Clear context.linkAttribute rendered
      | .error _ => True) :=
    match visit.before.render visit.code with
    | .ok _ => inferInstance
    | .error _ => inferInstanceAs (Decidable True)
  inferInstanceAs (Decidable (_ ∧ _))

variable {context : SnippetContext} {visit : Visit}

theorem shows_render {rendered : Text} (plain : Plain context.linkAttribute)
    (marking : ∀ operation ∈ visit.operations context,
      Operation.Marking context.linkAttribute operation)
    (clear : visit.Clear context) (renders : visit.before.render visit.code = .ok rendered) :
    Shows context.linkAttribute visit.code rendered := by
  obtain ⟨marked, applied, rfl⟩ := Progress.exists_applyAll_of_render renders
  refine (Operation.shows_applyAll plain (fun operation member => ?_)
    (.of_plain (plain_escape _) rfl) clear.1 applied).trimRight
  exact marking operation (List.mem_append_left _ member)

theorem shows_of_renders {line : Text} (plain : Plain context.linkAttribute)
    (marking : ∀ operation ∈ visit.operations context,
      Operation.Marking context.linkAttribute operation)
    (clear : visit.Clear context) (renders : visit.Renders context line) :
    Shows context.linkAttribute visit.code line := by
  cases renders with
  | plain shown rendered => exact shows_render plain marking clear rendered
  | marked operation code marked rendered made applied =>
    have shows := shows_render plain marking clear rendered
    have clearOwn := clear.2
    rw [rendered] at clearOwn
    have own := marking operation (List.mem_append_right _ (Option.mem_toList.2 made))
    exact (Operation.shows_apply plain own shows (clearOwn operation made) applied).trimRight

theorem exists_acting_of_made? {operation : Operation}
    (unreplaced : actingTag? visit.line ≠ some .replace)
    (made : visit.made? context = some operation) :
    ∃ acts, acting? visit.line = some acts ∧
      Operation.Marking context.linkAttribute operation ∧
      Scope.ofAttributes context.characters acts.2 = .ok (.ok operation.scope) := by
  obtain ⟨⟨tag, attributes⟩, acting, made⟩ := Option.bind_eq_some_iff.1 made
  have tagged := actingTag?_of_acting? acting
  exact ⟨(tag, attributes), acting, Operation.marking_of_made? made fun replaces =>
    unreplaced (replaces ▸ tagged)⟩

/-- One operation that is given a text or an expression, but not both, meets no tags. -/
theorem clear_of_single (alone : (visit.operations context).length ≤ 1)
    (single : ∀ operation ∈ visit.operations context,
      operation.scope.substring = none ∨ operation.scope.regex = none) :
    visit.Clear context := by
  have plain := plain_escape visit.code
  unfold operations at alone single
  unfold Clear Progress.render
  cases opened : visit.before.stack.operations with
  | nil =>
    -- The tag of the line makes the only operation, and meets the escaped code.
    refine ⟨trivial, fun operation made => ?_⟩
    have own := single operation (List.mem_append_right _ (Option.mem_toList.2 made))
    exact Scope.clear_of_plain (plain.of_subset (Text.trimRight_subset _)) own _
  | cons operation rest =>
    rw [opened, List.cons_append, List.length_cons, List.length_append] at alone
    -- The operation of an open region is the only one, and the tag of the line makes none.
    obtain rfl : rest = [] := List.eq_nil_of_length_eq_zero (by omega)
    have unmade : visit.made? context = none := by
      cases made : visit.made? context with
      | none => rfl
      | some own => simp [made] at alone
    refine ⟨⟨?_, ?_⟩, ?_⟩
    · rw [opened] at single
      exact Scope.clear_of_plain plain (single operation List.mem_cons_self) _
    · split <;> trivial
    · split
      · simp [unmade]
      · trivial

end Visit

/-! ## Snippets -/

namespace Progress

variable {context : SnippetContext} {store : ReferenceStore} {lines : List Text}

theorem marking_of_unreplaced
    (unreplaced : ∀ visit ∈ allVisits context store lines,
      actingTag? visit.line ≠ some .replace) :
    ∀ visit ∈ allVisits context store lines, ∀ operation ∈ visit.operations context,
      Operation.Marking context.linkAttribute operation := by
  refine forall_operations_allVisits fun visit visited operation made => ?_
  obtain ⟨-, -, marking, -⟩ := Visit.exists_acting_of_made? (unreplaced visit visited) made
  exact marking

theorem single_of_unreplaced
    (unreplaced : ∀ visit ∈ allVisits context store lines,
      actingTag? visit.line ≠ some .replace)
    (single : ∀ visit ∈ allVisits context store lines, ∀ acts ∈ acting? visit.line,
      acts.2.value? .substring = none ∨ acts.2.value? .regex = none) :
    ∀ visit ∈ allVisits context store lines, ∀ operation ∈ visit.operations context,
      operation.scope.substring = none ∨ operation.scope.regex = none := by
  refine forall_operations_allVisits fun visit visited operation made => ?_
  obtain ⟨acts, acting, -, limits⟩ := Visit.exists_acting_of_made? (unreplaced visit visited) made
  exact Scope.single_of_ofAttributes limits (single visit visited acts acting)

/-- Every output line is escaped text between tags that are closed in turn, if nothing is replaced
and no operation picks out a piece of a line that has a part of a tag in it, or one tag of a pair
without the other. -/
theorem parse_wellFormed (plain : Plain context.linkAttribute)
    (unreplaced : ∀ visit ∈ allVisits context store lines,
      actingTag? visit.line ≠ some .replace)
    (clear : ∀ visit ∈ allVisits context store lines, visit.Clear context) :
    ∀ line ∈ ((initial context.region store).parse context lines).1.output,
      WellFormed context.linkAttribute line ∧ ∃ text, visible line = escape text := by
  intro line member
  rw [output_parse] at member
  obtain ⟨visit, visited, member⟩ := List.mem_flatMap.1 member
  have shows := Visit.shows_of_renders plain (marking_of_unreplaced unreplaced visit visited)
    (clear visit visited) (Visit.renders_of_mem_shown member)
  exact ⟨shows.wellFormed, shows.exists_escape⟩

/-- An operation picks out an element that another one has made, and both are inside of a third. -/
theorem parse_wellFormed_nested :
    let context : SnippetContext :=
      { targets := some { entries := [(['T'], "pkg/T".toList)] } }
    let lines := ["x = a < b // @highlight region=r substring=b type=italic".toList,
      "y = a < b // @link region=s substring=\"<i>b</i>\" target=T".toList,
      "b > 0 // @highlight type=highlighted".toList, "b & b // @end region=r".toList]
    ∀ line ∈ ((initial none {}).parse context lines).1.output,
      WellFormed context.linkAttribute line ∧ ∃ text, visible line = escape text := by
  intro context lines
  have unreplaced : ∀ visit ∈ allVisits context {} lines,
      actingTag? visit.line ≠ some .replace := by decide +kernel
  have clear : ∀ visit ∈ allVisits context {} lines, visit.Clear context := by decide +kernel
  exact parse_wellFormed (by decide +kernel) unreplaced clear

/-- The second operation finds the name of an element where it looks for a text. -/
theorem parse_not_wellFormed :
    let lines := ["x // @highlight region=r substring=b".toList,
      "b // @highlight substring=b".toList, "c // @end".toList]
    (∀ visit ∈ allVisits {} {} lines, actingTag? visit.line ≠ some .replace) ∧
      ¬ ∀ line ∈ ((initial none {}).parse {} lines).1.output,
        WellFormed "data-dri".toList line := by
  decide +kernel

/-- What is visible of an output line is the escaped code that it was put out for, if nothing is
replaced, and if at most one operation acts on a line and searches it in one way only. -/
theorem parse_visible (plain : Plain context.linkAttribute)
    (unreplaced : ∀ visit ∈ allVisits context store lines,
      actingTag? visit.line ≠ some .replace)
    (single : ∀ visit ∈ allVisits context store lines, ∀ acts ∈ acting? visit.line,
      acts.2.value? .substring = none ∨ acts.2.value? .regex = none)
    (alone : ∀ visit ∈ allVisits context store lines, (visit.operations context).length ≤ 1) :
    ((initial context.region store).parse context lines).1.output =
        (allVisits context store lines).flatMap (·.shown context) ∧
      ∀ visit ∈ allVisits context store lines, ∀ line ∈ visit.shown context,
        Text.trimRight (visible line) = Text.trimRight (escape visit.code) := by
  refine ⟨output_parse store lines, fun visit visited line member => ?_⟩
  have clear := Visit.clear_of_single (alone visit visited)
    (single_of_unreplaced unreplaced single visit visited)
  exact (Visit.shows_of_renders plain (marking_of_unreplaced unreplaced visit visited) clear
    (Visit.renders_of_mem_shown member)).same

/-- The expression in the last line matches the empty text, too. -/
theorem parse_visible_linked :
    let context : SnippetContext :=
      { targets := some { entries := [(['T'], "pkg/T".toList)] } }
    let lines := ["if a < b: // @highlight region=r substring=\"a &lt;\"".toList,
      "a & c".toList, "a <".toList, "b // @end".toList,
      "d < e // @link target=T regex=\"\\w*\"".toList]
    ((initial none {}).parse context lines).1.output =
        (allVisits context {} lines).flatMap (·.shown context) ∧
      ∀ visit ∈ allVisits context {} lines, ∀ line ∈ visit.shown context,
        Text.trimRight (visible line) = Text.trimRight (escape visit.code) := by
  intro context lines
  have unreplaced : ∀ visit ∈ allVisits context {} lines,
      actingTag? visit.line ≠ some .replace := by decide +kernel
  have single : ∀ visit ∈ allVisits context {} lines, ∀ acts ∈ acting? visit.line,
      acts.2.value? .substring = none ∨ acts.2.value? .regex = none := by decide +kernel
  have alone : ∀ visit ∈ allVisits context {} lines,
      (visit.operations context).length ≤ 1 := by decide +kernel
  exact parse_visible (by decide +kernel) unreplaced single alone

end Progress

end SnippetMarkup
