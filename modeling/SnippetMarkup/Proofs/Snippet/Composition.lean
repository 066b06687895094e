import Mathlib
import SnippetMarkup.Proofs.Snippet.Extraction

/-!
# Snippets in parts

Without a region to extract, a snippet can be worked through part by part.  Between two lines
nothing is remembered but the open regions, a comment for the next line, and the store.  So lines
after which no region is open may be cut off from those after them.
-/

namespace SnippetMarkup

namespace Progress

/-! ## Cutting a snippet -/

variable {context : SnippetContext} {line : Text} {lines : List Text} {progress : Progress}

theorem collect_followed (goesOn : (progress.collect context true line).2 ≠ .stop) :
    progress.collect context false line = progress.collect context true line := by
  cases scanned : MarkupComment.scan line with
  | none => rw [collect_plain progress scanned, collect_plain progress scanned]
  | some comment =>
    cases continues : comment.continues with
    | true =>
      rw [collect_carrying progress scanned continues] at goesOn
      rw [collect_carrying progress scanned continues, collect_carrying progress scanned continues]
      cases rendered : progress.render comment.code with
      | error failure => rfl
      | ok code => simp [rendered] at goesOn
    | false =>
      cases tagged : Tag.ofBody? comment.body with
      | none =>
        rw [collect_idle progress scanned continues tagged,
          collect_idle progress scanned continues tagged]
      | some tag =>
        rw [collect_acting progress scanned continues tagged,
          collect_acting progress scanned continues tagged]

theorem step_followed (goesOn : (progress.step context true line).2 ≠ .stop) :
    progress.step context false line = progress.step context true line := by
  by_cases awaiting : progress.phase = .awaiting
  · rw [step_awaiting progress awaiting, step_awaiting progress awaiting]
  · rw [step_collecting progress awaiting] at goesOn ⊢
    rw [step_collecting progress awaiting, collect_followed goesOn]

/-- Lines that do not end a run are worked through alike with and without others after them. -/
theorem takeLines_followed (goesOn : (takeLines context true lines progress).2 ≠ .stop) :
    takeLines context false lines progress = takeLines context true lines progress := by
  induction lines generalizing progress with
  | nil => rfl
  | cons line rest ih =>
    rw [takeLines_cons, Bool.true_and] at goesOn
    rw [takeLines_cons, takeLines_cons, Bool.true_and, Bool.false_and]
    have stepped : progress.step context false line = progress.step context rest.isEmpty line := by
      cases rest with
      | nil =>
        refine step_followed fun stops => goesOn ?_
        rcases taken : progress.step context true line with ⟨later, flow⟩
        obtain rfl : flow = .stop := by simpa [taken] using stops
        simp [taken]
      | cons => rfl
    rw [stepped]
    generalize progress.step context rest.isEmpty line = taken at goesOn ⊢
    obtain ⟨later, flow⟩ := taken
    cases flow with
    | next => exact ih goesOn
    | stop => rfl
    | fail failure => rfl

/-- A run over lines that do not end it goes on with the lines after them. -/
theorem takeLines_append_followed {first : List Text}
    (goesOn : (takeLines context true first progress).2 ≠ .stop) (second : List Text) :
    takeLines context true (first ++ second) progress =
      continueWith (takeLines context true first progress) (takeLines context true second) := by
  cases second with
  | nil =>
    rw [List.append_nil]
    rcases takeLines context true first progress with ⟨later, flow⟩
    cases flow <;> rfl
  | cons line rest =>
    rw [takeLines_append _ _ _ (List.cons_ne_nil _ _), takeLines_followed goesOn]

/-! ## What is remembered -/

section Whole

variable {context : MarkupContext} {first : List Text} {store : ReferenceStore}

/-- A run that begins with some regions open. -/
def resumed (stack : RegionStack) (store : ReferenceStore) : Progress :=
  (initial none store).withStack stack

theorem resumed_empty (store : ReferenceStore) : resumed {} store = initial none store := rfl

/-- Apart from what has been put out and reported, a state between two lines is made up of the
open regions and the store. -/
theorem eq_preceded_resumed (collecting : progress.phase = .collecting)
    (calm : progress.carried = none) :
    progress = (resumed progress.stack progress.store).preceded progress.output
      progress.journal := by
  obtain ⟨phase, stack, output, carried, store, journal⟩ := progress
  obtain rfl : phase = .collecting := collecting
  obtain rfl : carried = none := calm
  simp [resumed, withStack, preceded, initial]

/-- A part that is worked through to its end leaves a state between two lines. -/
theorem takeLines_part
    (proper : .danglingContinuation ∉
      ((initial none store).parse ⟨context, none⟩ first).1.journal.warnings)
    (completes : ((initial none store).parse ⟨context, none⟩ first).2 = none) :
    ∃ later, takeLines ⟨context, none⟩ true first (initial none store) = (later, .next) ∧
      later.phase = .collecting ∧ later.carried = none := by
  rw [parse_initial] at proper completes
  have goesOn := takeLines_flow_whole context true first (initial none store) rfl
    fun warned => proper (mem_warnings_outcome warned)
  have collecting := takeLines_phase_whole context true first (initial none store) rfl
  have calm := takeLines_carried_last ⟨context, none⟩ first (initial none store) rfl
  rw [outcome_failure] at completes
  rcases taken : takeLines ⟨context, none⟩ true first (initial none store) with ⟨later, flow⟩
  rw [taken] at goesOn collecting calm completes
  cases flow with
  | next => exact ⟨later, rfl, collecting, calm⟩
  | stop => exact (goesOn rfl).elim
  | fail failure => simp [Flow.failure?] at completes

/-! ## The reports of a part -/

theorem outcome_errors_whole (count : Nat) (taken : Progress × Flow) :
    (outcome ⟨context, none⟩ count taken).1.journal.errors = taken.1.journal.errors := by
  unfold outcome
  split
  · rfl
  · rw [concluded_errors, errors_closingProblems]
    simp

/-- Where no region is left open, the end of a part has nothing to report. -/
theorem outcome_warnings_closed (count : Nat) {taken : Progress × Flow}
    (closed : taken.1.stack.size = 0) :
    (outcome ⟨context, none⟩ count taken).1.journal.warnings = taken.1.journal.warnings := by
  unfold outcome
  split
  · rfl
  · rw [concluded_warnings, warnings_closingProblems, if_pos closed]
    simp

/-- Of lines after which no region is open, nothing but the store plays a part in what the lines
after them come to. -/
theorem parse_append {first : List Text}
    (completes : ((initial none store).parse ⟨context, none⟩ first).2 = none)
    (closed : ((initial none store).parse ⟨context, none⟩ first).1.stack.regions = [])
    (proper : .danglingContinuation ∉
      ((initial none store).parse ⟨context, none⟩ first).1.journal.warnings)
    (second : List Text) :
    let early := ((initial none store).parse ⟨context, none⟩ first).1
    let late := { initial none early.store with journal := early.journal }.parse
      ⟨context, none⟩ second
    let whole := (initial none store).parse ⟨context, none⟩ (first ++ second)
    whole.2 = late.2 ∧ whole.1.output = early.output ++ late.1.output ∧
      whole.1.journal.warnings = early.journal.warnings ++ late.1.journal.warnings ∧
      whole.1.journal.errors = [] ∧ whole.1.stack = late.1.stack ∧
      whole.1.store = late.1.store := by
  obtain ⟨later, taken, collecting, calm⟩ := takeLines_part proper completes
  have goesOn : (takeLines ⟨context, none⟩ true first (initial none store)).2 ≠ .stop := by
    simp [taken]
  have nothing : later.stack = {} := by
    rw [parse_initial, outcome_stack, taken] at closed
    exact congrArg RegionStack.mk (List.reverse_eq_nil_iff.1 closed)
  have reports := reports_takeLines (initial none store) ⟨context, none⟩ true first
  rw [taken] at reports
  -- What is left after the first part is an empty state with all of its output and reports in front.
  have left := eq_preceded_resumed collecting calm
  rw [nothing, resumed_empty] at left
  have run := takeLines_append_followed goesOn second
  rw [taken, continueWith_next, left, takeLines_preceded] at run
  intro early late whole
  have earlier : early = (outcome ⟨context, none⟩ first.length (later, .next)).1 := by
    simp only [early, parse_initial, taken]
  have after : late = (initial none later.store).parse ⟨context, none⟩ second := by
    simp only [late, earlier, outcome_store]
    rfl
  have size : later.stack.size = 0 := by rw [nothing]; rfl
  have lateErrors := reports_takeLines (initial none later.store) ⟨context, none⟩ true second
  rw [after, earlier]
  simp only [whole, parse_initial, run]
  refine ⟨by simp, by simp, ?warnings, ?errors, by simp, by simp⟩
  case warnings =>
    rw [outcome_warnings_preceded second.length, outcome_warnings_closed first.length size]
  case errors =>
    rw [outcome_errors_whole, preceded_journal, Journal.errors_append, reports.errors_eq,
      lateErrors.errors_eq]
    rfl

/-- The first part stores a reference and leaves a warning, the second one links the same reference
and leaves a region open. -/
theorem parse_append_linked :
    let context : MarkupContext := { targets := some { entries := [(['T'], "pkg/T".toList)] } }
    let first := ["a // @link substring=a target=T region=r".toList, "a b // @end".toList,
      "c // @end".toList]
    let second := ["d // @link target=T :".toList, "e // @highlight region=s".toList]
    let early := ((initial none {}).parse ⟨context, none⟩ first).1
    let late := { initial none early.store with journal := early.journal }.parse
      ⟨context, none⟩ second
    let whole := (initial none {}).parse ⟨context, none⟩ (first ++ second)
    whole.2 = late.2 ∧ whole.1.output = early.output ++ late.1.output ∧
      whole.1.journal.warnings = early.journal.warnings ++ late.1.journal.warnings ∧
      whole.1.journal.errors = [] ∧ whole.1.stack = late.1.stack ∧
      whole.1.store = late.1.store := by
  intro context first second
  have closed : ((initial none {}).parse ⟨context, none⟩ first).1.stack.regions.length = 0 := by
    decide +kernel
  exact parse_append (by decide +kernel) (List.eq_nil_of_length_eq_zero closed)
    (by decide +kernel) second

end Whole

end Progress

end SnippetMarkup
