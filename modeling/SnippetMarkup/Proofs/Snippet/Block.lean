import Mathlib
import SnippetMarkup.Proofs.Region.Stack
import SnippetMarkup.Proofs.Snippet.Composition

/-!
# Blocks that close what they open

An end tag closes the latest region that it can close.  So lines that close all the regions they
open do so inside of any other regions, and leave those as they were.  Without a link, such lines
may be taken out of a snippet, and nothing changes in the lines after them.
-/

namespace SnippetMarkup

/-! ## Tags that do not link -/

namespace Operation

theorem exists_withScope (characters : Regex.CharacterNames) (attributes : Attributes)
    (operationOf : Scope → Operation) :
    (∃ failure, ∀ store, withScope characters attributes store
        (fun scope => .ok ⟨some (operationOf scope), store, []⟩) = .error failure) ∨
      ∃ operation journal, ∀ store, withScope characters attributes store
        (fun scope => .ok ⟨some (operationOf scope), store, []⟩) =
          .ok ⟨operation, store, journal⟩ := by
  simp only [withScope_eq]
  rcases Scope.ofAttributes characters attributes with failure | problem | scope
  · exact .inl ⟨failure, fun _ => rfl⟩
  · exact .inr ⟨none, _, fun _ => rfl⟩
  · exact .inr ⟨_, _, fun _ => rfl⟩

/-- Only a link looks at the store, and only a link stores anything. -/
theorem exists_build_unlinked {tag : Tag} (unlinked : tag ≠ .link) (context : MarkupContext)
    (attributes : Attributes) :
    (∃ failure, ∀ store, build context tag attributes store = .error failure) ∨
      ∃ operation journal, ∀ store,
        build context tag attributes store = .ok ⟨operation, store, journal⟩ := by
  cases tag with
  | start => exact .inr ⟨none, [], fun _ => rfl⟩
  | finish => exact .inr ⟨none, [], fun _ => rfl⟩
  | highlight =>
    simp only [build_highlight]
    cases Style.ofName? (styleName attributes) with
    | none => exact .inr ⟨none, _, fun _ => rfl⟩
    | some style =>
      exact exists_withScope context.characters attributes (highlight · style)
  | replace =>
    simp only [build_replace]
    cases attributes.value? .replacement with
    | none => exact .inr ⟨none, _, fun _ => rfl⟩
    | some replacement =>
      exact exists_withScope context.characters attributes (replace · replacement)
  | link => exact (unlinked rfl).elim

end Operation

namespace Progress

variable {context : MarkupContext} {base : RegionStack} {store : ReferenceStore}

/-! ## Reports that show a block to be unbalanced -/

/-- No end tag has found nothing to close, and no comment has been meant for a missing line. -/
structure Clean (progress : Progress) : Prop where
  matched (name : Option Text) : endProblem name ∉ progress.journal.warnings
  proper : .danglingContinuation ∉ progress.journal.warnings

theorem Clean.of_reports {progress later : Progress} (clean : Clean later)
    (reports : Reports progress later) : Clean progress where
  matched name warned := clean.matched name (reports.mem_warnings warned)
  proper warned := clean.proper (reports.mem_warnings warned)

/-! ## The same lines inside of other regions -/

/-- The state of a run by itself, and of the same run inside of some open regions. -/
structure Above (base : RegionStack) (store : ReferenceStore) (alone above : Progress) : Prop where
  collecting : alone.phase = .collecting
  collectingToo : above.phase = .collecting
  carried : alone.carried = above.carried
  stack : above.stack = alone.stack.onTop base
  /-- The run inside of the regions stores nothing. -/
  store : above.store = store

namespace Above

variable {alone above : Progress} (inside : Above base store alone above)
include inside

theorem report (entries others : Journal Problem) :
    Above base store (alone.report entries) (above.report others) :=
  ⟨inside.collecting, inside.collectingToo, inside.carried, inside.stack, inside.store⟩

theorem emit (line other : Text) : Above base store (alone.emit line) (above.emit other) :=
  ⟨inside.collecting, inside.collectingToo, inside.carried, inside.stack, inside.store⟩

theorem emitVisible (line other : Text) :
    Above base store (alone.emitVisible line) (above.emitVisible other) := by
  refine ⟨?_, ?_, ?_, ?_, ?_⟩
  · rw [emitVisible_phase, inside.collecting]
  · rw [emitVisible_phase, inside.collectingToo]
  · rw [emitVisible_carried, emitVisible_carried, inside.carried]
  · rw [emitVisible_stack, emitVisible_stack, inside.stack]
  · rw [emitVisible_store, inside.store]

theorem carrying (carried : Option CarriedComment) :
    Above base store (alone.carrying carried) (above.carrying carried) :=
  ⟨inside.collecting, inside.collectingToo, rfl, inside.stack, inside.store⟩

theorem stored (other : ReferenceStore) (entries others : Journal Problem) :
    Above base store ((alone.report entries).withStore other)
      ((above.report others).withStore store) :=
  ⟨inside.collecting, inside.collectingToo, inside.carried, inside.stack, rfl⟩

theorem push (region : Region) :
    Above base store (alone.withStack (alone.stack.push region))
      (above.withStack (above.stack.push region)) := by
  refine ⟨inside.collecting, inside.collectingToo, inside.carried, ?_, inside.store⟩
  rw [inside.stack]
  rfl

/-- A region that is closed is one of those on top. -/
theorem closing {name : Option Text} (clean : Clean (alone.closing name)) :
    Above base store (alone.closing name) (above.closing name) := by
  cases closed : alone.stack.close? name with
  | none =>
    have warned := mem_warnings_warn alone (endProblem name)
    rw [← closing_eq_warn alone closed] at warned
    exact (clean.matched name warned).elim
  | some found =>
    obtain ⟨region, later⟩ := found
    have closedToo := RegionStack.close?_onTop closed base
    rw [← inside.stack] at closedToo
    simp only [Progress.closing, closed, closedToo]
    exact ⟨inside.collecting, inside.collectingToo, inside.carried, rfl, inside.store⟩

theorem handleStart (attributes : Attributes) :
    Above base store (alone.handleStart attributes) (above.handleStart attributes) := by
  rw [handleStart_eq, handleStart_eq]
  split
  · exact inside.report _ _
  · exact inside.push _

theorem handleEnd {attributes : Attributes} {code : Text} (codeToo : Text)
    (clean : Clean (alone.handleEnd ⟨context, none⟩ attributes code)) :
    Above base store (alone.handleEnd ⟨context, none⟩ attributes code)
      (above.handleEnd ⟨context, none⟩ attributes codeToo) := by
  rw [handleEnd_eq, if_neg (by simp)] at clean ⊢
  rw [handleEnd_eq, if_neg (by simp)]
  exact (inside.closing (clean.of_reports (.of_journal_eq (emitVisible_journal _ _)))).emitVisible
    code codeToo

theorem keeping (attributes : Attributes) (operation : Operation) :
    Above base store (alone.keeping attributes operation)
      (above.keeping attributes operation) := by
  unfold Progress.keeping
  split
  · exact inside.push _
  · exact inside

theorem perform {attributes : Attributes} {code codeToo : Text} {made : Option Operation}
    (completes : (alone.perform attributes code made).2.failure? = none)
    (completesToo : (above.perform attributes codeToo made).2.failure? = none) :
    Above base store (alone.perform attributes code made).1
      (above.perform attributes codeToo made).1 := by
  cases made with
  | none => exact inside.emitVisible code codeToo
  | some operation =>
    cases applied : operation.apply code with
    | error failure => simp [Progress.perform, applied, Flow.failure?] at completes
    | ok line =>
      cases appliedToo : operation.apply codeToo with
      | error failure => simp [Progress.perform, appliedToo, Flow.failure?] at completesToo
      | ok lineToo =>
        simp only [Progress.perform, applied, appliedToo]
        exact (inside.keeping attributes operation).emitVisible _ _

theorem handleOperation {tag : Tag} {attributes : Attributes} {code codeToo : Text}
    (unlinked : tag ≠ .link)
    (completes : (alone.handleOperation ⟨context, none⟩ tag attributes code).2.failure? = none)
    (completesToo :
      (above.handleOperation ⟨context, none⟩ tag attributes codeToo).2.failure? = none) :
    Above base store (alone.handleOperation ⟨context, none⟩ tag attributes code).1
      (above.handleOperation ⟨context, none⟩ tag attributes codeToo).1 := by
  rw [handleOperation_eq] at completes completesToo ⊢
  rw [handleOperation_eq]
  rcases Operation.exists_build_unlinked unlinked context attributes with
    ⟨failure, fails⟩ | ⟨operation, journal, made⟩
  · simp only [fails]
    exact inside
  · simp only [made] at completes completesToo ⊢
    rw [inside.store] at completesToo ⊢
    exact (inside.stored alone.store journal journal).perform completes completesToo

theorem handleTag {tag : Tag} {body code codeToo : Text} (unlinked : tag ≠ .link)
    (clean : Clean (alone.handleTag ⟨context, none⟩ tag body code).1)
    (completes : (alone.handleTag ⟨context, none⟩ tag body code).2.failure? = none)
    (completesToo : (above.handleTag ⟨context, none⟩ tag body codeToo).2.failure? = none) :
    Above base store (alone.handleTag ⟨context, none⟩ tag body code).1
      (above.handleTag ⟨context, none⟩ tag body codeToo).1 := by
  rw [handleTag_eq] at clean completes completesToo ⊢
  rw [handleTag_eq]
  have reported := inside.report (refusals tag (Attributes.parse tag body).2)
    (refusals tag (Attributes.parse tag body).2)
  cases tag with
  | start => exact reported.handleStart _
  | finish => exact reported.handleEnd codeToo clean
  | highlight => exact reported.handleOperation unlinked completes completesToo
  | replace => exact reported.handleOperation unlinked completes completesToo
  | link => exact (unlinked rfl).elim

theorem collect {isLast : Bool} {line : Text} (unlinked : actingTag? line ≠ some .link)
    (clean : Clean (alone.collect ⟨context, none⟩ isLast line).1)
    (completes : (alone.collect ⟨context, none⟩ isLast line).2.failure? = none)
    (completesToo : (above.collect ⟨context, none⟩ isLast line).2.failure? = none) :
    Above base store (alone.collect ⟨context, none⟩ isLast line).1
        (above.collect ⟨context, none⟩ isLast line).1 ∧
      (alone.collect ⟨context, none⟩ isLast line).2 = .next ∧
      (above.collect ⟨context, none⟩ isLast line).2 = .next := by
  cases scanned : MarkupComment.scan line with
  | none =>
    rw [collect_plain alone scanned] at completes ⊢
    rw [collect_plain above scanned] at completesToo ⊢
    cases rendered : alone.render line with
    | error failure => simp [rendered, Flow.failure?] at completes
    | ok shown =>
      cases renderedToo : above.render line with
      | error failure => simp [renderedToo, Flow.failure?] at completesToo
      | ok shownToo => exact ⟨inside.emit shown shownToo, rfl, rfl⟩
  | some comment =>
    cases rendered : alone.render comment.code with
    | error failure => simp [Progress.collect, scanned, rendered, Flow.failure?] at completes
    | ok code =>
    cases renderedToo : above.render comment.code with
    | error failure => simp [Progress.collect, scanned, renderedToo, Flow.failure?] at completesToo
    | ok codeToo =>
    cases continues : comment.continues with
    | true =>
      rw [collect_carrying alone scanned continues, rendered] at clean ⊢
      rw [collect_carrying above scanned continues, renderedToo]
      cases isLast with
      | true => exact (clean.proper (mem_warnings_warn alone .danglingContinuation)).elim
      | false => exact ⟨(inside.emitVisible code codeToo).carrying _, rfl, rfl⟩
    | false =>
      cases tagged : Tag.ofBody? comment.body with
      | none =>
        rw [collect_idle alone scanned continues tagged, rendered,
          collect_idle above scanned continues tagged, renderedToo]
        exact ⟨inside, rfl, rfl⟩
      | some tag =>
        rw [collect_acting alone scanned continues tagged, rendered] at clean completes ⊢
        rw [collect_acting above scanned continues tagged, renderedToo] at completesToo ⊢
        simp only [settle_fst, settle_snd_failure?] at clean completes completesToo ⊢
        rw [actingTag?_eq scanned continues, tagged] at unlinked
        have handled := inside.handleTag (fun linked => unlinked (congrArg some linked)) clean
          completes completesToo
        have goesOn := handleTag_next alone completes
        have goesOnToo := handleTag_next above completesToo
        generalize alone.handleTag ⟨context, none⟩ tag comment.body code = taken at handled goesOn ⊢
        generalize above.handleTag ⟨context, none⟩ tag comment.body codeToo = takenToo
          at handled goesOnToo ⊢
        obtain ⟨later, flow⟩ := taken
        obtain ⟨laterToo, flowToo⟩ := takenToo
        obtain rfl : flow = .next := goesOn
        obtain rfl : flowToo = .next := goesOnToo
        rw [settle_of_collecting handled.collecting, settle_of_collecting handled.collectingToo]
        exact ⟨handled, rfl, rfl⟩

/-- Lines that close nothing but their own regions leave the regions around them as they are. -/
theorem takeLines {lines : List Text}
    (unlinked : ∀ whole ∈ foldedLines alone.carried lines, actingTag? whole ≠ some .link)
    (clean : Clean (alone.takeLines ⟨context, none⟩ true lines).1)
    (completes : (alone.takeLines ⟨context, none⟩ true lines).2.failure? = none)
    (completesToo : (above.takeLines ⟨context, none⟩ true lines).2.failure? = none) :
    Above base store (alone.takeLines ⟨context, none⟩ true lines).1
        (above.takeLines ⟨context, none⟩ true lines).1 ∧
      (above.takeLines ⟨context, none⟩ true lines).2 = .next := by
  induction lines generalizing alone above with
  | nil => exact ⟨inside, rfl⟩
  | cons line rest ih =>
    have whole : above.withCarried line = alone.withCarried line := by
      rw [withCarried, withCarried, inside.carried]
    rw [foldedLines, ← withCarried_eq, List.forall_mem_cons] at unlinked
    rw [takeLines_cons, step_collecting alone (by simp [inside.collecting])] at clean completes ⊢
    rw [takeLines_cons, step_collecting above (by simp [inside.collectingToo]), whole]
      at completesToo ⊢
    rw [Bool.true_and] at *
    have carried := collect_carried ⟨context, none⟩ rest.isEmpty (alone.withCarried line)
      (alone.carrying none) rfl
    -- A warning or a failure of this line would still be there at the end of the run.
    have stays := reports_continueWith (Progress.collect ⟨context, none⟩ rest.isEmpty
      (alone.withCarried line) (alone.carrying none)) fun later =>
        reports_takeLines later ⟨context, none⟩ true rest
    obtain ⟨collected, goesOn, goesOnToo⟩ := (inside.carrying none).collect unlinked.1
      (clean.of_reports stays) (failure?_eq_none_of_continueWith completes)
      (failure?_eq_none_of_continueWith completesToo)
    generalize Progress.collect ⟨context, none⟩ rest.isEmpty (alone.withCarried line)
      (alone.carrying none) = taken at *
    generalize Progress.collect ⟨context, none⟩ rest.isEmpty (alone.withCarried line)
      (above.carrying none) = takenToo at *
    obtain ⟨later, flow⟩ := taken
    obtain ⟨laterToo, flowToo⟩ := takenToo
    obtain rfl : flow = .next := goesOn
    obtain rfl : flowToo = .next := goesOnToo
    exact ih collected (carried rfl ▸ unlinked.2) clean completes completesToo

end Above

/-! ## Blocks in a snippet -/

/-- A block inside of the regions that are open in a state leaves it as it was, apart from what it
puts out and reports. -/
theorem takeLines_block {block : List Text} {fresh : ReferenceStore} {before : Progress}
    (collecting : before.phase = .collecting) (calm : before.carried = none)
    (unlinked : ∀ whole ∈ foldedLines none block, actingTag? whole ≠ some .link)
    (clean : Clean (takeLines ⟨context, none⟩ true block (initial none fresh)).1)
    (completes : (takeLines ⟨context, none⟩ true block (initial none fresh)).2.failure? = none)
    (closed : (takeLines ⟨context, none⟩ true block (initial none fresh)).1.stack.regions = [])
    (completesInside : (takeLines ⟨context, none⟩ true block before).2.failure? = none) :
    ∃ later, takeLines ⟨context, none⟩ true block before = (later, .next) ∧
      later.phase = .collecting ∧ later.carried = none ∧ later.stack = before.stack ∧
      later.store = before.store := by
  have inside : Above before.stack before.store (initial none fresh) before :=
    ⟨rfl, collecting, calm.symm, (RegionStack.empty_onTop before.stack).symm, rfl⟩
  obtain ⟨within, goesOn⟩ := inside.takeLines unlinked clean completes completesInside
  have calmToo := takeLines_carried_last ⟨context, none⟩ block before calm
  have nothing : (takeLines ⟨context, none⟩ true block (initial none fresh)).1.stack = {} :=
    congrArg RegionStack.mk (List.reverse_eq_nil_iff.1 closed)
  have stack := within.stack
  rw [nothing, RegionStack.empty_onTop] at stack
  exact ⟨_, Prod.ext rfl goesOn, within.collectingToo, calmToo, stack, within.store⟩

/-- Lines that close all the regions they open may be taken out of a snippet, if they link nothing:
the open regions after them are those before them, and so are the lines and references of whatever
comes later. -/
theorem parse_balanced_block {first block : List Text} {fresh : ReferenceStore}
    (unlinked : ∀ whole ∈ foldedLines none block, actingTag? whole ≠ some .link)
    (completes : ((initial none fresh).parse ⟨context, none⟩ block).2 = none)
    (closed : ((initial none fresh).parse ⟨context, none⟩ block).1.stack.regions = [])
    (matched : .unmatchedEnd ∉
      ((initial none fresh).parse ⟨context, none⟩ block).1.journal.warnings)
    (known : ∀ name, .unknownRegion name ∉
      ((initial none fresh).parse ⟨context, none⟩ block).1.journal.warnings)
    (proper : .danglingContinuation ∉
      ((initial none fresh).parse ⟨context, none⟩ block).1.journal.warnings)
    (properFirst : .danglingContinuation ∉
      ((initial none store).parse ⟨context, none⟩ first).1.journal.warnings)
    (completesBoth : ((initial none store).parse ⟨context, none⟩ (first ++ block)).2 = none) :
    let early := ((initial none store).parse ⟨context, none⟩ first).1
    let both := ((initial none store).parse ⟨context, none⟩ (first ++ block)).1
    both.stack = early.stack ∧ ∃ shown, both.output = early.output ++ shown ∧ ∀ after, ∃ rest,
      let whole := (initial none store).parse ⟨context, none⟩ (first ++ block ++ after)
      let without := (initial none store).parse ⟨context, none⟩ (first ++ after)
      whole.2 = without.2 ∧ whole.1.output = early.output ++ shown ++ rest ∧
        without.1.output = early.output ++ rest ∧ whole.1.stack = without.1.stack ∧
        whole.1.store = without.1.store := by
  simp only [parse_initial, outcome_failure, outcome_stack] at completes closed completesBoth
  simp only [parse_initial] at matched known proper
  have clean : Clean (takeLines ⟨context, none⟩ true block (initial none fresh)).1 := by
    refine ⟨fun name warned => ?_, fun warned => proper (mem_warnings_outcome warned)⟩
    cases name with
    | none => exact matched (mem_warnings_outcome warned)
    | some name => exact known name (mem_warnings_outcome warned)
  have goesOnFirst : (takeLines ⟨context, none⟩ true first (initial none store)).2 ≠ .stop := by
    rw [parse_initial] at properFirst
    exact takeLines_flow_whole context true first (initial none store) rfl
      fun warned => properFirst (mem_warnings_outcome warned)
  have run := takeLines_append_followed goesOnFirst
  obtain ⟨early, taken, collecting, calm⟩ := takeLines_part properFirst (by
    rw [parse_initial, outcome_failure]
    rw [run] at completesBoth
    exact failure?_eq_none_of_continueWith completesBoth)
  simp only [taken, continueWith_next] at run
  rw [run] at completesBoth
  obtain ⟨later, takenToo, collectingToo, calmToo, stack, stored⟩ := takeLines_block collecting calm
    unlinked clean completes closed completesBoth
  -- The states before and after the block differ in their output and reports only.
  have before := eq_preceded_resumed collecting calm
  have behind := eq_preceded_resumed collectingToo calmToo
  rw [stack, stored] at behind
  generalize resumed early.stack early.store = base at before behind
  have runBefore (lines : List Text) := (congrArg (takeLines ⟨context, none⟩ true lines)
    before).trans (takeLines_preceded early.output early.journal base ⟨context, none⟩ true lines)
  have runBehind (lines : List Text) := (congrArg (takeLines ⟨context, none⟩ true lines)
    behind).trans (takeLines_preceded later.output later.journal base ⟨context, none⟩ true lines)
  obtain ⟨shown, output⟩ : ∃ shown, later.output = early.output ++ shown := by
    have within := (runBefore block).symm.trans takenToo
    exact ⟨_, congrArg Progress.output (congrArg Prod.fst within).symm⟩
  have whole (after : List Text) : takeLines ⟨context, none⟩ true (first ++ block ++ after)
      (initial none store) = takeLines ⟨context, none⟩ true after later := by
    have goesOn : (takeLines ⟨context, none⟩ true (first ++ block) (initial none store)).2 ≠
        .stop := by simp [run, takenToo]
    rw [takeLines_append_followed goesOn, run, takenToo, continueWith_next]
  simp only [parse_initial, whole, run, taken, takenToo, outcome_failure, outcome_stack,
    outcome_output, outcome_store]
  refine ⟨stack, shown, output, fun after => ?_⟩
  refine ⟨(takeLines ⟨context, none⟩ true after base).1.output, ?_⟩
  rw [runBefore, runBehind]
  exact ⟨rfl, congrArg (· ++ _) output, rfl, rfl, rfl⟩

/-- A block with a region of the same name as one around it, which it closes by that name while a
later one is still open. -/
theorem parse_balanced_block_shadowing :
    let first := ["x // @highlight region=r substring=x".toList,
      "// @start region=q".toList]
    let block := ["y // @highlight region=r substring=y :".toList, "y x".toList,
      "// @start region=q".toList, "x y // @end region=r".toList, "y // @end".toList]
    let early := ((initial none {}).parse ⟨{}, none⟩ first).1
    let both := ((initial none {}).parse ⟨{}, none⟩ (first ++ block)).1
    both.stack = early.stack ∧ ∃ shown, both.output = early.output ++ shown ∧ ∀ after, ∃ rest,
      let whole := (initial none {}).parse ⟨{}, none⟩ (first ++ block ++ after)
      let without := (initial none {}).parse ⟨{}, none⟩ (first ++ after)
      whole.2 = without.2 ∧ whole.1.output = early.output ++ shown ++ rest ∧
        without.1.output = early.output ++ rest ∧ whole.1.stack = without.1.stack ∧
        whole.1.store = without.1.store := by
  intro first block
  have closed : ((initial none {}).parse ⟨{}, none⟩ block).1.stack.regions.length = 0 := by
    decide +kernel
  have quiet : ((initial none {}).parse ⟨{}, none⟩ block).1.journal.warnings = [] := by
    decide +kernel
  have clean (problem : Problem) :
      problem ∉ ((initial none {}).parse ⟨{}, none⟩ block).1.journal.warnings := by
    rw [quiet]
    exact List.not_mem_nil
  exact parse_balanced_block (by decide +kernel) (by decide +kernel)
    (List.eq_nil_of_length_eq_zero closed) (clean _) (fun name => clean (.unknownRegion name))
    (clean _) (by decide +kernel) (by decide +kernel)

end Progress

end SnippetMarkup
