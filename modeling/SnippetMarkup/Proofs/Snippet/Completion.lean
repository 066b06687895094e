import Mathlib
import SnippetMarkup.Proofs.Operation.Failure
import SnippetMarkup.Proofs.Snippet.Visit

/-!
# Runs that come to an end

A run ends with an outcome unless one of the lines that it visits fails, and a line fails in one of
three ways: an operation that is open cannot be applied to its code, the pattern of its tag is
refused without being reported, or the operation of its tag cannot be applied.
-/

namespace SnippetMarkup

open Progress

/-! ## Parts of a visit -/

namespace Progress

variable {progress : Progress} {failure : MarkupFailure}

theorem render_eq_error_iff {line : Text} :
    progress.render line = .error failure ↔
      Operation.applyAll (Html.escape line) progress.stack.operations = .error failure := by
  unfold render
  rw [bind_eq_error_iff]
  simp [pure, Except.pure]

theorem failure?_perform (progress : Progress) (attributes : Attributes) (code : Text)
    (made : Option Operation) :
    (progress.perform attributes code made).2.failure? = some failure ↔
      ∃ operation, made = some operation ∧ operation.apply code = .error failure := by
  cases made with
  | none => simp [perform, Flow.failure?]
  | some operation =>
    cases applied : operation.apply code <;> simp [perform, applied, Flow.failure?]

theorem failure?_act (progress : Progress) (context : SnippetContext) (attributes : Attributes)
    (code : Text) (tag : Tag) :
    (progress.act context attributes code tag).2.failure? = some failure ↔
      Operation.build context.toMarkupContext tag attributes progress.store = .error failure ∨
        ∃ operation, Operation.made? context.toMarkupContext progress.store tag attributes =
            some operation ∧ operation.apply code = .error failure := by
  have operates : (progress.handleOperation context tag attributes code).2.failure? =
        some failure ↔
      Operation.build context.toMarkupContext tag attributes progress.store = .error failure ∨
        ∃ operation, Operation.made? context.toMarkupContext progress.store tag attributes =
            some operation ∧ operation.apply code = .error failure := by
    rw [handleOperation_eq, Operation.made?]
    cases Operation.build context.toMarkupContext tag attributes progress.store with
    | error early => simp [Flow.failure?]
    | ok built =>
      dsimp only
      rw [failure?_perform]
      simp
  cases tag with
  | start => simp [act, Flow.failure?, Operation.build, Operation.made?]
  | finish => simp [act, Flow.failure?, Operation.build, Operation.made?]
  | highlight => exact operates
  | replace => exact operates
  | link => exact operates

end Progress

/-! ## Lines that fail -/

namespace Visit

/-- How a line can fail. -/
inductive Fails (context : SnippetContext) (visit : Visit) : MarkupFailure → Prop
  /-- An operation that is open overruns on the code of the line as those before it leave it. -/
  | opened {before after : List Operation} {operation : Operation} {reached : Text}
    {failure : MarkupFailure}
    (inTurn : visit.before.stack.operations = before ++ operation :: after)
    (leaves : Operation.applyAll (Html.escape visit.code) before = .ok reached)
    (overruns : operation.Overruns reached failure) : Fails context visit failure
  /-- The pattern of the tag is refused, and not for an error in it. -/
  | refused {code pattern : Text} {tag : Tag} {attributes : Attributes} {refusal : Regex.Refusal}
    {failure : MarkupFailure} (rendered : visit.before.render visit.code = .ok code)
    (acts : acting? visit.line = some (tag, attributes))
    (reads : Operation.ReadsPattern tag attributes)
    (given : attributes.value? .regex = some pattern)
    (refuses : Regex.compile context.characters pattern = .error refusal)
    (unreported : refusal.failure? = some failure) : Fails context visit failure
  /-- The operation of the tag overruns on the code of the line. -/
  | made {code : Text} {operation : Operation} {failure : MarkupFailure}
    (rendered : visit.before.render visit.code = .ok code)
    (makes : visit.made? context = some operation)
    (overruns : operation.Overruns code failure) : Fails context visit failure

variable {context : SnippetContext} {visit : Visit} {failure : MarkupFailure}

theorem failure?_after_acting {code : Text} {tag : Tag} {attributes : Attributes}
    (rendered : visit.before.render visit.code = .ok code)
    (acts : acting? visit.line = some (tag, attributes)) :
    (visit.after context).2.failure? = some failure ↔
      (Operation.ReadsPattern tag attributes ∧ ∃ pattern refusal,
        attributes.value? .regex = some pattern ∧
          Regex.compile context.characters pattern = .error refusal ∧
          refusal.failure? = some failure) ∨
        ∃ operation, visit.made? context = some operation ∧
          operation.Overruns code failure := by
  obtain ⟨refused, after⟩ := visit.after_acting context rendered acts
  have made : visit.made? context =
      Operation.made? context.toMarkupContext visit.before.store tag attributes := by
    rw [made?, acts]
    rfl
  rw [after, settle_snd_failure?, failure?_act, report_store, ← made,
    Operation.build_eq_error_iff, Scope.ofAttributes_eq_error_iff]
  simp only [Operation.apply_eq_error_iff]

/-- A line fails in one of these ways and in no other. -/
theorem failure?_after :
    (visit.after context).2.failure? = some failure ↔ visit.Fails context failure := by
  constructor
  · intro failed
    cases rendered : visit.before.render visit.code with
    | error early =>
      obtain rfl : early = failure := by
        rw [visit.after_unrendered context rendered] at failed
        exact Option.some.inj failed
      obtain ⟨before, operation, after, reached, inTurn, leaves, overruns⟩ :=
        Operation.applyAll_eq_error_iff.1 (render_eq_error_iff.1 rendered)
      exact .opened inTurn leaves overruns
    | ok code =>
      cases acts : acting? visit.line with
      | none => simp [(visit.after_unacting context rendered acts).2] at failed
      | some acting =>
        rcases (failure?_after_acting rendered acts).1 failed with
          ⟨reads, pattern, refusal, given, refuses, unreported⟩ | ⟨operation, makes, overruns⟩
        · exact .refused rendered acts reads given refuses unreported
        · exact .made rendered makes overruns
  · intro fails
    cases fails with
    | opened inTurn leaves overruns =>
      -- The code is rendered before the tag is looked at, so that nothing else can happen here.
      have unrendered := render_eq_error_iff.2
        (Operation.applyAll_eq_error_iff.2 ⟨_, _, _, _, inTurn, leaves, overruns⟩)
      rw [visit.after_unrendered context unrendered]
      rfl
    | refused rendered acts reads given refuses unreported =>
      exact (failure?_after_acting rendered acts).2
        (.inl ⟨reads, _, _, given, refuses, unreported⟩)
    | made rendered makes overruns =>
      obtain ⟨⟨tag, attributes⟩, acts, -⟩ := Option.bind_eq_some_iff.1 makes
      exact (failure?_after_acting rendered acts).2 (.inr ⟨_, makes, overruns⟩)

end Visit

/-! ## Runs that fail -/

namespace Progress

variable {context : SnippetContext} {closing : Bool} {failure : MarkupFailure}

theorem failure?_takeLines (lines : List Text) (progress : Progress) :
    (takeLines context closing lines progress).2.failure? = some failure ↔
      ∃ visit ∈ visits context closing lines (progress, .next), visit.Fails context failure := by
  induction lines generalizing progress with
  | nil => simp [visits, Flow.failure?]
  | cons line rest ih =>
    -- Behind a line that ends the run nothing is visited, and nothing else fails.
    have goesOn (taken : Progress × Flow) :
        (continueWith taken (takeLines context closing rest)).2.failure? = some failure ↔
          taken.2.failure? = some failure ∨
            ∃ visit ∈ visits context closing rest taken, visit.Fails context failure := by
      obtain ⟨later, flow⟩ := taken
      cases flow with
      | next => simpa [Flow.failure?] using ih later
      | stop => simp [visits_ended, Flow.failure?]
      | fail early => simp [visits_ended, Flow.failure?]
    rw [takeLines_cons, goesOn, visits]
    split
    · next awaiting => simp [step_awaiting progress awaiting, Flow.failure?]
    · next collecting =>
      rw [step_collecting progress collecting]
      simp only [List.mem_cons, exists_eq_or_imp, ← Visit.failure?_after]
      rfl

end Progress

end SnippetMarkup
