import Mathlib
import SnippetMarkup.Proofs.Markup.Grammar
import SnippetMarkup.Proofs.Operation.Visibility
import SnippetMarkup.Proofs.Snippet.Extraction
import SnippetMarkup.Proofs.Snippet.Rendering

/-!
# What a line contributes

A line without markup is shown in one line, whatever is left of it.  A line with markup is shown if
its code comes out of the operations with something visible on it, unless its tag opens a region, or
there is no line left that its comment could be meant for.  Where nothing is replaced, that is
decided by the code alone; but an empty line may come out as markers with nothing between them.
-/

namespace SnippetMarkup

open Html Progress

/-! ## Lines that are shown -/

/-- The line that a text is shown in, if there is anything to be seen. -/
def visibleLine (text : Text) : List Text := if Text.isBlank text then [] else [text]

theorem visibleLine_of_isBlank {text : Text} (blank : Text.isBlank text = true) :
    visibleLine text = [] := if_pos blank

theorem visibleLine_of_visible {text : Text} (visible : Text.isBlank text = false) :
    visibleLine text = [text] := if_neg (by simp [visible])

theorem length_visibleLine_le (text : Text) : (visibleLine text).length ≤ 1 := by
  unfold visibleLine
  split <;> simp

namespace Progress

variable (progress : Progress)

theorem emitVisible_output (text : Text) :
    (progress.emitVisible text).output = progress.output ++ visibleLine text := by
  unfold emitVisible visibleLine
  split
  · rw [List.append_nil]
  · rfl

theorem handleStart_output (attributes : Attributes) :
    (progress.handleStart attributes).output = progress.output := by
  rw [handleStart_eq]
  split <;> rfl

theorem handleEnd_output (context : SnippetContext) (attributes : Attributes) (code : Text) :
    (progress.handleEnd context attributes code).output = progress.output ++ visibleLine code := by
  rw [handleEnd_eq, finishExtraction_eq]
  split
  · exact emitVisible_output progress code
  · rw [emitVisible_output, closing_output]

end Progress

/-! ## The code of a line and its operations -/

/-- What is left of a line after the operation that its tag makes, if it makes one. -/
def Operation.finish (made : Option Operation) (code : Text) : Except MarkupFailure Text :=
  match made with
  | none => .ok code
  | some operation => (operation.apply code).map Text.trimRight

theorem Progress.perform_output {progress : Progress} {attributes : Attributes} {code : Text}
    {made : Option Operation}
    (proper : (progress.perform attributes code made).2.failure? = none) :
    ∃ text, Operation.finish made code = .ok text ∧
      (progress.perform attributes code made).1.output = progress.output ++ visibleLine text := by
  cases made with
  | none => exact ⟨code, rfl, emitVisible_output progress code⟩
  | some operation =>
    cases applied : operation.apply code with
    | error failure => simp [perform, applied, Flow.failure?] at proper
    | ok marked =>
      refine ⟨Text.trimRight marked, by rw [Operation.finish, applied]; rfl, ?_⟩
      simp only [perform, applied, emitVisible_output, keeping_output]

/-- What is put out for the line of a tag, other than a start tag. -/
theorem Progress.act_output {progress : Progress} {context : SnippetContext} {tag : Tag}
    {attributes : Attributes} {code : Text} (other : tag ≠ .start)
    (proper : (progress.act context attributes code tag).2.failure? = none) :
    ∃ text, Operation.finish (Operation.made? context.toMarkupContext progress.store tag attributes)
        code = .ok text ∧
      (progress.act context attributes code tag).1.output =
        progress.output ++ visibleLine text := by
  have operates (proper :
      (progress.handleOperation context tag attributes code).2.failure? = none) :
      ∃ text, Operation.finish
          (Operation.made? context.toMarkupContext progress.store tag attributes) code = .ok text ∧
        (progress.handleOperation context tag attributes code).1.output =
          progress.output ++ visibleLine text := by
    rw [handleOperation_eq] at proper ⊢
    rw [Operation.made?]
    cases made : Operation.build context.toMarkupContext tag attributes progress.store with
    | error failure => simp [made, Flow.failure?] at proper
    | ok built =>
      rw [made] at proper
      exact perform_output proper
  cases tag with
  | start => exact (other rfl).elim
  | finish => exact ⟨code, rfl, handleEnd_output progress context attributes code⟩
  | highlight => exact operates proper
  | replace => exact operates proper
  | link => exact operates proper

/-- A tag that fails puts nothing out. -/
theorem Progress.act_output_of_failure {progress : Progress} {context : SnippetContext} {tag : Tag}
    {attributes : Attributes} {code : Text}
    (failed : (progress.act context attributes code tag).2.failure? ≠ none) :
    (progress.act context attributes code tag).1.output = progress.output := by
  revert failed
  refine act_cases (motive := fun taken => taken.2.failure? ≠ none → taken.1.output = _) progress
    context attributes code tag (fun failed => (failed rfl).elim) (fun failed => (failed rfl).elim)
    ?operates
  refine handleOperation_cases (motive := fun taken => taken.2.failure? ≠ none →
    taken.1.output = progress.output) progress context attributes code tag (fun _ _ => rfl) ?_
  intro built _
  cases built.operation with
  | none => exact fun failed => (failed rfl).elim
  | some operation =>
    cases applied : operation.apply code with
    | error failure => simp only [perform, applied, keeping_output]; exact fun _ => rfl
    | ok marked => simp [perform, applied, Flow.failure?]

namespace Visit

variable (context : SnippetContext) (visit : Visit)

/-- What the code of a line becomes: the operations of the open regions are applied to it, and then
the one that the tag of the line makes. -/
def result (context : SnippetContext) (visit : Visit) : Except MarkupFailure Text := do
  Operation.finish (visit.made? context) (← visit.before.render visit.code)

/-- Whether a line is not shown because of its markup: a start tag acts on it, or it is the last one
and its comment is meant for another. -/
def IsSilent (visit : Visit) : Prop :=
  actingTag? visit.line = some .start ∨ visit.isLast = true ∧ (carriedOn? visit.line).isSome = true

instance (visit : Visit) : Decidable visit.IsSilent := inferInstanceAs (Decidable (_ ∨ _))

variable {context visit}

theorem shown_eq {shown : List Text}
    (output : (visit.after context).1.output = visit.before.output ++ shown) :
    visit.shown context = shown := by
  rw [Visit.shown, output, List.drop_left]

theorem result_eq {code : Text} (rendered : visit.before.render visit.code = .ok code) :
    visit.result context = Operation.finish (visit.made? context) code := by
  rw [result, rendered]
  rfl

theorem made?_eq_none (unacting : acting? visit.line = none) : visit.made? context = none := by
  rw [made?, unacting, Option.bind_none]

/-- A line without markup is shown, even if nothing is to be seen. -/
theorem shown_unmarked (proper : (visit.after context).2.failure? = none)
    (unmarked : MarkupComment.scan visit.line = none) :
    ∃ text, visit.result context = .ok text ∧ visit.shown context = [text] := by
  obtain ⟨code, rendered⟩ := rendered_of_proper proper
  have idle : acting? visit.line = none := by rw [acting?, unmarked, Option.bind_none]
  refine ⟨code, by rw [result_eq rendered, made?_eq_none idle]; rfl, shown_eq ?_⟩
  rw [after, collect_plain visit.before unmarked, ← visit.code_eq_line unmarked, rendered]
  rfl

theorem shown_silent (silent : visit.IsSilent) : visit.shown context = [] := by
  refine shown_eq ?_
  rw [List.append_nil]
  cases rendered : visit.before.render visit.code with
  | error failure => rw [visit.after_unrendered context rendered]
  | ok code =>
    rcases silent with starts | ⟨last, left⟩
    · obtain ⟨comment, scanned, tagged⟩ := Option.bind_eq_some_iff.1 starts
      obtain ⟨settled, tagged⟩ := Option.ite_none_left_eq_some.1 tagged
      obtain ⟨refused, after⟩ := visit.after_acting context rendered
        (acting?_eq scanned (by simpa using settled) tagged)
      rw [after, settle_fst]
      exact handleStart_output _ _
    · obtain ⟨carried, left⟩ := Option.isSome_iff_exists.1 left
      obtain ⟨comment, scanned, left⟩ := Option.bind_eq_some_iff.1 left
      obtain ⟨continues, -⟩ := Option.ite_none_right_eq_some.1 left
      rw [visit.code_eq scanned] at rendered
      rw [after, collect_carrying visit.before scanned continues, rendered, last]
      rfl

/-- A line with markup is shown if there is something to be seen of its code. -/
theorem shown_marked (proper : (visit.after context).2.failure? = none) {comment : MarkupComment}
    (scanned : MarkupComment.scan visit.line = some comment) (heard : ¬visit.IsSilent) :
    ∃ text, visit.result context = .ok text ∧ visit.shown context = visibleLine text := by
  obtain ⟨code, rendered⟩ := rendered_of_proper proper
  rw [result_eq rendered]
  cases continues : comment.continues with
  | true =>
    have idle : acting? visit.line = none := by simp [acting?, actingTag?, scanned, continues]
    have followed : visit.isLast = false := by
      by_contra last
      exact heard (.inr ⟨by simpa using last, by simp [carriedOn?, scanned, continues]⟩)
    refine ⟨code, by rw [made?_eq_none idle]; rfl, shown_eq ?_⟩
    rw [visit.code_eq scanned] at rendered
    rw [after, collect_carrying visit.before scanned continues, rendered, followed]
    exact emitVisible_output visit.before code
  | false =>
    obtain ⟨tag, tagged⟩ := MarkupComment.exists_tag_of_scan scanned
    have acts := acting?_eq scanned continues tagged
    have other : tag ≠ .start := by
      rintro rfl
      exact heard (.inl (actingTag?_of_acting? acts))
    obtain ⟨refused, after⟩ := visit.after_acting context rendered acts
    rw [after, settle_snd_failure?] at proper
    obtain ⟨text, finished, output⟩ := act_output other proper
    rw [visit.made?_eq context scanned continues tagged]
    refine ⟨text, finished, shown_eq ?_⟩
    rw [after, settle_fst]
    exact output

/-- A line that fails is not shown. -/
theorem shown_failed (failed : (visit.after context).2.failure? ≠ none) :
    visit.shown context = [] := by
  refine shown_eq ?_
  rw [List.append_nil]
  cases rendered : visit.before.render visit.code with
  | error failure => rw [visit.after_unrendered context rendered]
  | ok code =>
    cases acts : acting? visit.line with
    | none => exact (failed (visit.after_unacting context rendered acts).2).elim
    | some acting =>
      obtain ⟨refused, after⟩ := visit.after_acting context rendered acts
      rw [after, settle_snd_failure?] at failed
      rw [after, settle_fst]
      exact act_output_of_failure failed

theorem shown_scanned {comment : MarkupComment}
    (scanned : MarkupComment.scan visit.line = some comment) :
    visit.shown context = [] ∨ ∃ text, visit.result context = .ok text ∧
      visit.shown context = visibleLine text := by
  by_cases proper : (visit.after context).2.failure? = none
  · by_cases silent : visit.IsSilent
    · exact .inl (shown_silent silent)
    · exact .inr (shown_marked proper scanned silent)
  · exact .inl (shown_failed proper)

theorem length_shown_le : (visit.shown context).length ≤ 1 := by
  cases scanned : MarkupComment.scan visit.line with
  | none =>
    by_cases proper : (visit.after context).2.failure? = none
    · obtain ⟨text, -, shown⟩ := shown_unmarked proper scanned
      rw [shown, List.length_singleton]
    · simp [shown_failed proper]
  | some comment =>
    rcases shown_scanned scanned with nothing | ⟨text, -, shown⟩
    · rw [nothing]
      exact Nat.zero_le 1
    · exact shown ▸ length_visibleLine_le text

section Marking

variable (marking : ∀ operation ∈ visit.operations context,
  Operation.Marking context.linkAttribute operation)
include marking

/-- What is to be seen on a line is not taken off it by markers. -/
theorem visible_of_result {text : Text} (visible : Text.isBlank visit.code = false)
    (finished : visit.result context = .ok text) : Text.isBlank text = false := by
  have opened : ∀ operation ∈ visit.before.stack.operations,
      Operation.Marking context.linkAttribute operation :=
    fun operation member => marking operation (List.mem_append_left _ member)
  have rendered := render_eq_markAll opened visit.code
  rw [result_eq rendered] at finished
  have shown : Text.isBlank (Text.trimRight (Operation.markAll (escape visit.code)
      visit.before.stack.operations)) = false := by
    rw [Text.isBlank_trimRight]
    exact Text.visible_of_subset (Operation.subset_markAll opened _) (visible_escape visible)
  cases made : visit.made? context with
  | none =>
    rw [made] at finished
    exact Except.ok.inj finished ▸ shown
  | some operation =>
    have own := marking operation (List.mem_append_right _ (Option.mem_toList.2 made))
    rw [made, Operation.finish, own.apply_eq] at finished
    rw [← Except.ok.inj finished, Text.isBlank_trimRight]
    exact Text.visible_of_subset (Operation.subset_mark own _) shown

theorem length_shown_unmarked (unmarked : MarkupComment.scan visit.line = none) :
    (visit.shown context).length = 1 := by
  have proper : (visit.after context).2.failure? = none := by
    have rendered := render_eq_markAll
      (fun operation member => marking operation (List.mem_append_left _ member)) visit.code
    refine (visit.after_unacting context rendered ?_).2
    rw [acting?, unmarked, Option.bind_none]
  obtain ⟨text, -, shown⟩ := shown_unmarked proper unmarked
  rw [shown, List.length_singleton]

theorem length_shown_marked (proper : (visit.after context).2.failure? = none)
    {comment : MarkupComment} (scanned : MarkupComment.scan visit.line = some comment)
    (heard : ¬visit.IsSilent) (visible : Text.isBlank comment.code = false) :
    (visit.shown context).length = 1 := by
  obtain ⟨text, finished, shown⟩ := shown_marked proper scanned heard
  rw [← visit.code_eq scanned] at visible
  rw [shown, visibleLine_of_visible (visible_of_result marking visible finished),
    List.length_singleton]

end Marking

/-- How many lines are put out for a line: one, if it has no markup, or if there is something to be
seen of its code and its markup neither silences it nor fails; and never more. -/
structure Contributes (context : SnippetContext) (visit : Visit) : Prop where
  unmarked : MarkupComment.scan visit.line = none → (visit.shown context).length = 1
  marked : ∀ comment ∈ MarkupComment.scan visit.line, Text.isBlank comment.code = false →
    ¬visit.IsSilent → (visit.after context).2.failure? = none → (visit.shown context).length = 1
  silent : visit.IsSilent → visit.shown context = []
  most : (visit.shown context).length ≤ 1

theorem contributes (marking : ∀ operation ∈ visit.operations context,
    Operation.Marking context.linkAttribute operation) : visit.Contributes context where
  unmarked := length_shown_unmarked marking
  marked _ scanned visible heard proper := length_shown_marked marking proper scanned heard visible
  silent := shown_silent
  most := length_shown_le

end Visit

/-! ## The lines that are visited -/

namespace Progress

variable {context : SnippetContext} {closing : Bool} {store : ReferenceStore} {lines : List Text}

theorem collect_phase_ne_awaiting {progress : Progress} (collecting : progress.phase ≠ .awaiting)
    (context : SnippetContext) (isLast : Bool) (line : Text) :
    (progress.collect context isLast line).1.phase ≠ .awaiting := by
  have collected := collects progress context isLast line
  generalize progress.collect context isLast line = taken at collected
  cases collected with
  | unrendered failure => exact collecting
  | plain shown => exact collecting
  | carried code =>
    have same := emitVisible_phase progress code
    exact fun awaiting => collecting (same.symm.trans awaiting)
  | dangling => exact collecting
  | idle => exact collecting
  | @acted comment tag code =>
    rw [settle_fst]
    rcases handleTag_phase progress context tag comment.body code with same | ⟨-, finished, -⟩
    · rwa [same]
    · simp [finished]

/-- A line that is followed by others ends a run by a failure, or by the end of the extraction. -/
theorem finished_of_collect {progress : Progress} {line : Text}
    (ended : (progress.collect context false line).2 ≠ .next)
    (proper : (progress.collect context false line).2.failure? = none) :
    (progress.collect context false line).1.phase = .finished := by
  have collected := collects progress context false line
  generalize progress.collect context false line = taken at collected ended proper
  cases collected with
  | unrendered failure => simp [Flow.failure?] at proper
  | plain shown => exact (ended rfl).elim
  | carried code => exact (ended rfl).elim
  | dangling scanned continues last => simp at last
  | idle => exact (ended rfl).elim
  | @acted comment tag code =>
    rw [settle_snd_failure?] at proper
    have goesOn := handleTag_next progress proper
    rw [settle_fst]
    generalize progress.handleTag context tag comment.body code = taken at ended goesOn ⊢
    obtain ⟨later, flow⟩ := taken
    obtain rfl : flow = .next := goesOn
    rw [settle, continueWith_next] at ended
    by_contra unfinished
    exact ended (if_neg unfinished)

/-- While lines are collected, they are visited one after the other with the comments carried over
to them, up to the end of the lines if neither the extraction nor the run ends before. -/
theorem map_line_visits_collecting (context : SnippetContext) (closing : Bool) (lines : List Text)
    {progress : Progress} (collecting : progress.phase ≠ .awaiting) :
    ∃ collected rest, lines = collected ++ rest ∧
      (visits context closing lines (progress, .next)).map (·.line) =
        foldedLines progress.carried collected ∧
      ((takeLines context closing lines progress).2.failure? = none →
        (takeLines context closing lines progress).1.phase ≠ .finished → rest = []) := by
  induction lines generalizing progress with
  | nil => exact ⟨[], [], rfl, rfl, fun _ _ => rfl⟩
  | cons line more ih =>
    have awaits : (progress.carrying none).phase ≠ .awaiting := collecting
    have phase := collect_phase_ne_awaiting awaits context (closing && more.isEmpty)
      (progress.withCarried line)
    have carried := collect_carried context (closing && more.isEmpty) (progress.withCarried line)
      (progress.carrying none) rfl
    rw [visits, if_neg collecting, takeLines_cons, step_collecting progress collecting]
    by_cases goesOn : ((progress.carrying none).collect context (closing && more.isEmpty)
        (progress.withCarried line)).2 = .next
    · generalize (progress.carrying none).collect context (closing && more.isEmpty)
        (progress.withCarried line) = taken at phase carried goesOn ⊢
      obtain ⟨later, flow⟩ := taken
      obtain rfl : flow = .next := goesOn
      obtain ⟨collected, rest, rfl, visited, whole⟩ := ih phase
      refine ⟨line :: collected, rest, rfl, ?_, whole⟩
      rw [List.map_cons, visited, carried rfl]
      rfl
    · refine ⟨[line], more, rfl, by rw [visits_ended goesOn]; rfl, fun proper unfinished => ?_⟩
      by_contra followed
      -- No other line is taken, so that this one has ended the extraction.
      have notLast : more.isEmpty = false := by simp [followed]
      rw [notLast, Bool.and_false] at goesOn proper unfinished
      have early := finished_of_collect goesOn (failure?_eq_none_of_continueWith proper)
      generalize (progress.carrying none).collect context false (progress.withCarried line) =
        taken at goesOn early unfinished
      obtain ⟨later, flow⟩ := taken
      cases flow with
      | next => exact goesOn rfl
      | stop => exact unfinished early
      | fail failure => exact unfinished early

theorem await_phase_of_opens {progress : Progress} {name line : Text}
    (wanted : context.region = some name) (opens : Opens name line) :
    (progress.await context line).phase = .collecting := by
  obtain ⟨markup, region⟩ := context
  obtain rfl : region = some name := wanted
  obtain ⟨entries, -, awaited⟩ := await_opening markup opens
  rw [awaited, withPhase_phase]

/-- The lines of a snippet are passed over up to the start of the region to extract, and then
visited. -/
theorem map_line_visits (context : SnippetContext) (closing : Bool) (lines : List Text)
    {progress : Progress} (calm : progress.carried = none) :
    ∃ passed collected rest, lines = passed ++ collected ++ rest ∧
      (visits context closing lines (progress, .next)).map (·.line) =
        foldedLines none collected ∧
      (progress.phase ≠ .awaiting → passed = []) ∧
      (∀ name ∈ context.region, ∀ line ∈ passed.dropLast, ¬Opens name line) ∧
      ((takeLines context closing lines progress).2.failure? = none →
        (takeLines context closing lines progress).1.phase ≠ .finished → rest = []) := by
  induction lines generalizing progress with
  | nil => exact ⟨[], [], [], rfl, rfl, fun _ => rfl, by simp, fun _ _ => rfl⟩
  | cons line more ih =>
    by_cases awaiting : progress.phase = .awaiting
    · rw [visits, if_pos awaiting, takeLines_cons, step_awaiting_none calm awaiting,
        continueWith_next]
      have later := await_carried progress context line
      by_cases found : (progress.await context line).phase = .awaiting
      · obtain ⟨passed, collected, rest, rfl, visited, -, unopened, whole⟩ := ih (later.trans calm)
        refine ⟨line :: passed, collected, rest, rfl, visited, fun collecting =>
          (collecting awaiting).elim, fun name wanted other member => ?_, whole⟩
        cases passed with
        | nil => simp at member
        | cons second others =>
          rw [List.dropLast_cons_cons, List.mem_cons] at member
          rcases member with rfl | member
          · intro opens
            rw [await_phase_of_opens wanted opens] at found
            simp at found
          · exact unopened name wanted other member
      · obtain ⟨collected, rest, rfl, visited, whole⟩ :=
          map_line_visits_collecting context closing more found
        rw [later, calm] at visited
        exact ⟨[line], collected, rest, rfl, visited, fun collecting =>
          (collecting awaiting).elim, by simp, whole⟩
    · obtain ⟨collected, rest, cut, visited, whole⟩ :=
        map_line_visits_collecting context closing (line :: more) awaiting
      exact ⟨[], collected, rest, cut, calm ▸ visited, fun _ => rfl, by simp, whole⟩

/-- Where nothing is replaced, what is put out is what the visited lines contribute, in their order:
all lines from the one after the start of the region to extract, or from the first one, to the end
of that region or of the lines.  And at the end no comment is left that was meant for another
line. -/
theorem parse_contributions
    (unreplaced : ∀ visit ∈ allVisits context store lines, actingTag? visit.line ≠ some .replace) :
    let parsed := (initial context.region store).parse context lines
    let visited := allVisits context store lines
    (∃ passed collected rest, lines = passed ++ collected ++ rest ∧
        visited.map (·.line) = foldedLines none collected ∧
        (context.region = none → passed = []) ∧
        (∀ name ∈ context.region, ∀ line ∈ passed.dropLast, ¬Opens name line) ∧
        (parsed.2 = none → parsed.1.phase ≠ .finished → rest = [])) ∧
      parsed.1.output = visited.flatMap (·.shown context) ∧
      (∀ visit ∈ visited, visit.Contributes context) ∧
      (parsed.2 = none → ∀ visit ∈ visited, (visit.after context).2.failure? = none) ∧
      parsed.1.carried = none := by
  intro parsed visited
  have failed : parsed.2 =
      (takeLines context true lines (initial context.region store)).2.failure? := by
    simp only [parsed, parse_initial, outcome_failure]
  refine ⟨?lines, output_parse store lines, fun visit member => ?_,
    fun completes visit member => ?_, ?carried⟩
  case lines =>
    obtain ⟨passed, collected, rest, whole, visited, unpassed, unopened, unended⟩ :=
      map_line_visits context true lines (rfl : (initial context.region store).carried = none)
    refine ⟨passed, collected, rest, whole, visited, fun unwanted => unpassed ?_, unopened,
      fun completes unfinished => unended (failed ▸ completes) ?_⟩
    · simp [initial, unwanted]
    · simpa only [parsed, parse_initial, outcome_phase] using unfinished
  case carried =>
    simp only [parsed, parse_initial, outcome_carried]
    exact takeLines_carried_last context lines _ rfl
  · exact Visit.contributes (marking_of_unreplaced unreplaced visit member)
  · obtain ⟨first, rest, later, -, -, -, goesOn⟩ := exists_run_of_mem_visits member
    rw [failed, goesOn] at completes
    exact failure?_eq_none_of_continueWith completes

/-- The region that is extracted holds another one that is highlighted as a whole, a link that is
meant for the line after it, and an empty line. -/
theorem parse_contributions_extracted :
    let context : SnippetContext :=
      { targets := some { entries := [(['T'], "pkg/T".toList)] }, region := some ['r'] }
    let lines := ["x // @highlight".toList, "y // @start region=r".toList,
      "a // @highlight region=s".toList, "".toList, "b // @link target=T :".toList,
      "c".toList, "d // @start region=t".toList, "e // @end region=s".toList,
      "// @end region=r".toList, "z".toList]
    let parsed := (initial context.region {}).parse context lines
    let visited := allVisits context {} lines
    (∃ passed collected rest, lines = passed ++ collected ++ rest ∧
        visited.map (·.line) = foldedLines none collected ∧
        (context.region = none → passed = []) ∧
        (∀ name ∈ context.region, ∀ line ∈ passed.dropLast, ¬Opens name line) ∧
        (parsed.2 = none → parsed.1.phase ≠ .finished → rest = [])) ∧
      parsed.1.output = visited.flatMap (·.shown context) ∧
      (∀ visit ∈ visited, visit.Contributes context) ∧
      (parsed.2 = none → ∀ visit ∈ visited, (visit.after context).2.failure? = none) ∧
      parsed.1.carried = none := by
  intro context lines
  have unreplaced : ∀ visit ∈ allVisits context {} lines,
      actingTag? visit.line ≠ some .replace := by decide +kernel
  exact parse_contributions unreplaced

/-! ## Lines of nothing but markup -/

theorem Visit.substring_ne_nil_of_made? {visit : Visit} {operation : Operation}
    (made : visit.made? context = some operation) : operation.scope.substring ≠ some [] := by
  obtain ⟨_, acts, made⟩ := Option.bind_eq_some_iff.1 made
  obtain ⟨comment, -, acts⟩ := Option.bind_eq_some_iff.1 acts
  obtain ⟨tag, -, rfl⟩ := Option.map_eq_some_iff.1 acts
  exact Operation.substring_ne_nil_of_made? made

/-- No operation that is open looks for the empty text. -/
theorem substring_ne_nil_of_takeLines {front : List Text} {before : Progress} {flow : Flow}
    (reached : takeLines context closing front (initial context.region store) = (before, flow)) :
    ∀ operation ∈ before.stack.operations, operation.scope.substring ≠ some [] := by
  have nothing : (initial context.region store).stack.operations = [] := rfl
  have kept : ∀ operation ∈ (takeLines context closing front
      (initial context.region store)).1.stack.operations, operation.scope.substring ≠ some [] := by
    refine takeLines_keeps (motive := fun later => ∀ operation ∈ later.stack.operations,
      operation.scope.substring ≠ some []) ?steps closing front (by simp [nothing])
    intro isLast line later given operation member
    by_cases awaiting : later.phase = .awaiting
    · rw [step_awaiting later awaiting, await_stack] at member
      exact given operation member
    · rw [step_collecting later awaiting] at member
      let visit : Visit := ⟨later.carrying none, later.withCarried line, isLast⟩
      have acts : operation ∈ visit.operations context := Visit.mem_operations_after member
      rcases List.mem_append.1 acts with before | own
      · exact given operation before
      · exact Visit.substring_ne_nil_of_made? (Option.mem_toList.1 own)
  rwa [reached] at kept

theorem Visit.result_nil {visit : Visit} (empty : visit.code = [])
    (given : ∀ operation ∈ visit.before.stack.operations, operation.scope.substring ≠ some [])
    (misses : ∀ operation ∈ visit.operations context, operation.scope.MissesEmpty) :
    visit.result context = .ok [] := by
  have rendered : visit.before.render visit.code = .ok [] := by
    have applied := Operation.applyAll_nil
      (fun operation member => misses operation (List.mem_append_left _ member)) given
    rw [empty, render]
    exact congrArg (Except.map Text.trimRight) applied
  rw [Visit.result_eq rendered]
  cases made : visit.made? context with
  | none => rfl
  | some operation =>
    have own := misses operation (List.mem_append_right _ (Option.mem_toList.2 made))
    rw [Operation.finish, Operation.apply_nil own (Visit.substring_ne_nil_of_made? made)]
    rfl

/-- A line of nothing but markup is not shown, unless the operations that act on it make something
to be seen of an empty line.  None does that if each of them is given a text or an expression, and
no expression of theirs matches the empty text. -/
theorem step_of_blank_code {front : List Text} {before : Progress} {line : Text}
    {comment : MarkupComment} {isLast : Bool}
    (reached : takeLines context false front (initial context.region store) = (before, .next))
    (collecting : before.phase = .collecting) (calm : before.carried = none)
    (scanned : MarkupComment.scan line = some comment)
    (blank : Text.isBlank comment.code = true) :
    let visit : Visit := ⟨before, line, isLast⟩
    let later := (before.step context isLast line).1
    visit.code = [] ∧
      (later.output = before.output ∨ ∃ text, visit.result context = .ok text ∧
        Text.isBlank text = false ∧ later.output = before.output ++ [text]) ∧
      ((∀ operation ∈ visit.operations context, operation.scope.MissesEmpty) →
        later.output = before.output) := by
  intro visit later
  have empty : visit.code = [] :=
    (visit.code_eq scanned).trans (MarkupComment.code_eq_nil scanned blank)
  have output : later.output = before.output ++ visit.shown context := by
    simp only [later, step_collecting_none calm (by simp [collecting])]
    exact visit.output_after context
  have shown : visit.shown context = [] ∨ ∃ text, visit.result context = .ok text ∧
      visit.shown context = visibleLine text := Visit.shown_scanned scanned
  refine ⟨empty, ?_, fun misses => ?_⟩
  · rcases shown with nothing | ⟨text, finished, shown⟩
    · exact .inl (by rw [output, nothing, List.append_nil])
    · cases seen : Text.isBlank text with
      | true => exact .inl (by rw [output, shown, visibleLine_of_isBlank seen, List.append_nil])
      | false =>
        exact .inr ⟨text, finished, seen, by rw [output, shown, visibleLine_of_visible seen]⟩
  · rcases shown with nothing | ⟨text, finished, shown⟩
    · rw [output, nothing, List.append_nil]
    · rw [Visit.result_nil empty (substring_ne_nil_of_takeLines reached) misses] at finished
      obtain rfl := Except.ok.inj finished
      rw [output, shown, visibleLine_of_isBlank rfl, List.append_nil]

/-- Each of three operations looks for a text, which an empty line does not have. -/
theorem step_of_blank_code_searched :
    let context : SnippetContext :=
      { targets := some { entries := [(['T'], "pkg/T".toList)] }, region := some ['r'] }
    let front := ["// @start region=r".toList, "a // @highlight region=s substring=a".toList,
      "b // @replace region substring=b replacement=bb".toList]
    let before := (takeLines context false front (initial context.region {})).1
    let visit : Visit := ⟨before, "   // @link target=T substring=b".toList, true⟩
    let later := (before.step context true visit.line).1
    visit.code = [] ∧ (visit.operations context).length = 3 ∧
      (∀ operation ∈ visit.operations context, operation.scope.MissesEmpty) ∧
      later.output = before.output := by
  intro context front before visit later
  have reached : takeLines context false front (initial context.region {}) = (before, .next) :=
    Prod.ext rfl (by decide +kernel)
  have scanned : MarkupComment.scan visit.line =
      some ⟨.slashes, "@link target=T substring=b".toList, []⟩ := by decide +kernel
  have misses : ∀ operation ∈ visit.operations context, operation.scope.MissesEmpty := by
    decide +kernel
  obtain ⟨empty, -, unshown⟩ :=
    step_of_blank_code reached (by decide +kernel) (by decide +kernel) scanned rfl
  exact ⟨empty, by decide +kernel, misses, unshown misses⟩

/-- A highlight of a whole line puts its tags around nothing. -/
theorem step_of_blank_code_marked :
    let before := initial none {}
    let line := "// @highlight region=r".toList
    takeLines {} false [] (initial none {}) = (before, .next) ∧ before.phase = .collecting ∧
      before.carried = none ∧
      (MarkupComment.scan line).map (fun comment => Text.isBlank comment.code) = some true ∧
      (before.step {} false line).1.output = before.output ++ ["<b></b>".toList] := by
  exact ⟨rfl, rfl, rfl, by decide +kernel, by decide +kernel⟩

end Progress

end SnippetMarkup
