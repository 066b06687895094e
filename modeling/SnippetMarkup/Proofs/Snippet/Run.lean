import Mathlib
import SnippetMarkup.Proofs.Snippet.Step

/-!
# Runs over parts of a snippet

A run over lines is cut into the run over the first of them and the run over the others.  What a
run has put out and reported before plays no part in what it does: it only stands in front of
what comes later.
-/

namespace SnippetMarkup

namespace Progress

/-! ## Cutting a run -/

/-- Takes some lines.  If they are the `closing` ones, no other line comes after them. -/
def takeLines (context : SnippetContext) (closing : Bool) :
    List Text → Progress → Progress × Flow
  | [], progress => (progress, .next)
  | line :: rest, progress =>
    continueWith (progress.step context (closing && rest.isEmpty) line)
      (takeLines context closing rest)

@[simp] theorem takeLines_nil (context : SnippetContext) (closing : Bool) (progress : Progress) :
    takeLines context closing [] progress = (progress, .next) := rfl

theorem takeLines_cons (context : SnippetContext) (closing : Bool) (line : Text)
    (rest : List Text) (progress : Progress) :
    takeLines context closing (line :: rest) progress =
      continueWith (progress.step context (closing && rest.isEmpty) line)
        (takeLines context closing rest) := rfl

theorem takeLines_singleton (context : SnippetContext) (closing : Bool) (line : Text)
    (progress : Progress) :
    takeLines context closing [line] progress = progress.step context closing line := by
  rw [takeLines_cons, List.isEmpty_nil, Bool.and_true]
  rcases progress.step context closing line with ⟨later, flow⟩
  cases flow <;> rfl

/-- Of lines that are followed by others, none is the last. -/
theorem takeLines_append (context : SnippetContext) (closing : Bool) (first : List Text)
    {rest : List Text} (more : rest ≠ []) (progress : Progress) :
    takeLines context closing (first ++ rest) progress =
      continueWith (takeLines context false first progress) (takeLines context closing rest) := by
  induction first generalizing progress with
  | nil => rfl
  | cons line first ih =>
    have followed : (first ++ rest).isEmpty = false := by simp [more]
    rw [List.cons_append, takeLines_cons, takeLines_cons, continueWith_assoc, followed,
      Bool.and_false, Bool.false_and]
    exact congrArg (continueWith _) (funext fun later => ih later)

/-- What every step keeps, a run keeps. -/
theorem takeLines_keeps {motive : Progress → Prop} {context : SnippetContext}
    (steps : ∀ isLast line progress, motive progress →
      motive (progress.step context isLast line).1)
    (closing : Bool) (lines : List Text) {progress : Progress} (holds : motive progress) :
    motive (takeLines context closing lines progress).1 := by
  induction lines generalizing progress with
  | nil => exact holds
  | cons line rest ih =>
    have stepped := steps (closing && rest.isEmpty) line progress holds
    rw [takeLines_cons]
    generalize progress.step context (closing && rest.isEmpty) line = taken at stepped ⊢
    obtain ⟨later, flow⟩ := taken
    cases flow with
    | next => exact ih stepped
    | stop => exact stepped
    | fail failure => exact stepped

/-- What every pair of steps keeps, a pair of runs keeps, up to where something comes in between
for good. -/
theorem takeLines_keeps_both {motive : Progress → Progress → Prop}
    (parts : Progress × Flow → Progress × Flow → Prop) {context other : SnippetContext}
    (steps : ∀ isLast line first second, motive first second →
      motive (first.step context isLast line).1 (second.step other isLast line).1 ∧
          (first.step context isLast line).2 = (second.step other isLast line).2 ∨
        parts (first.step context isLast line) (second.step other isLast line))
    (stays : ∀ closing rest taken takenToo, parts taken takenToo →
      parts (continueWith taken (takeLines context closing rest))
        (continueWith takenToo (takeLines other closing rest)))
    (closing : Bool) (lines : List Text) {first second : Progress} (holds : motive first second) :
    motive (takeLines context closing lines first).1 (takeLines other closing lines second).1 ∧
        (takeLines context closing lines first).2 = (takeLines other closing lines second).2 ∨
      parts (takeLines context closing lines first) (takeLines other closing lines second) := by
  induction lines generalizing first second with
  | nil => exact .inl ⟨holds, rfl⟩
  | cons line rest ih =>
    have stepped := steps (closing && rest.isEmpty) line first second holds
    rw [takeLines_cons, takeLines_cons]
    generalize first.step context (closing && rest.isEmpty) line = taken at stepped ⊢
    generalize second.step other (closing && rest.isEmpty) line = takenToo at stepped ⊢
    rcases stepped with ⟨kept, sameFlow⟩ | apart
    · obtain ⟨later, flow⟩ := taken
      obtain ⟨laterToo, flowToo⟩ := takenToo
      obtain rfl : flow = flowToo := sameFlow
      cases flow with
      | next => exact ih kept
      | stop => exact .inl ⟨kept, rfl⟩
      | fail failure => exact .inl ⟨kept, rfl⟩
    · exact .inr (stays closing rest taken takenToo apart)

theorem run_eq_takeLines (context : SnippetContext) (lines : List Text) (progress : Progress) :
    run context lines progress =
      ((takeLines context true lines progress).1,
        (takeLines context true lines progress).2.failure?) := by
  induction lines generalizing progress with
  | nil => rfl
  | cons line rest ih =>
    rw [takeLines_cons, run, Bool.true_and]
    rcases progress.step context rest.isEmpty line with ⟨later, flow⟩
    cases flow with
    | next => exact ih later
    | stop => rfl
    | fail failure => rfl

/-! ## The end of a run -/

/-- A state with what is reported after so many lines. -/
def concluded (context : SnippetContext) (count : Nat) (progress : Progress) : Progress :=
  progress.report (progress.closingProblems context ++
    [.note 3 (parsedNote count progress.output.length)])

/-- The result of a run that has ended in a state. -/
def outcome (context : SnippetContext) (count : Nat) (taken : Progress × Flow) :
    Progress × Option MarkupFailure :=
  match taken.2.failure? with
  | some failure => (taken.1, some failure)
  | none => (taken.1.concluded context count, none)

section Outcome

variable (context : SnippetContext) (count : Nat) (taken : Progress × Flow)

@[simp] theorem outcome_failure : (outcome context count taken).2 = taken.2.failure? := by
  unfold outcome; split <;> simp_all

@[simp] theorem outcome_phase : (outcome context count taken).1.phase = taken.1.phase := by
  unfold outcome; split <;> rfl

@[simp] theorem outcome_stack : (outcome context count taken).1.stack = taken.1.stack := by
  unfold outcome; split <;> rfl

@[simp] theorem outcome_output : (outcome context count taken).1.output = taken.1.output := by
  unfold outcome; split <;> rfl

@[simp] theorem outcome_carried :
    (outcome context count taken).1.carried = taken.1.carried := by
  unfold outcome; split <;> rfl

@[simp] theorem outcome_store : (outcome context count taken).1.store = taken.1.store := by
  unfold outcome; split <;> rfl

theorem outcome_of_failure?_none (proper : taken.2.failure? = none) :
    outcome context count taken = (taken.1.concluded context count, none) := by
  simp only [outcome, proper]

end Outcome

theorem parse_initial (context : SnippetContext) (lines : List Text) (region : Option Text)
    (store : ReferenceStore) :
    (initial region store).parse context lines =
      outcome context lines.length (takeLines context true lines (initial region store)) := by
  have cleared : { initial region store with carried := none, journal := [] } =
      initial region store := rfl
  rw [parse, cleared, run_eq_takeLines, outcome]
  cases (takeLines context true lines (initial region store)).2.failure? <;> rfl

/-- A parse goes on from the state that its first lines have led to. -/
theorem parse_reached {context : SnippetContext} {front rest : List Text} {region : Option Text}
    {store : ReferenceStore} {progress : Progress} (more : rest ≠ [])
    (reached : takeLines context false front (initial region store) = (progress, .next)) :
    (initial region store).parse context (front ++ rest) =
      outcome context (front.length + rest.length) (progress.takeLines context true rest) := by
  rw [parse_initial, takeLines_append _ _ _ more, reached, continueWith_next, List.length_append]

/-! ## What was put out and reported before -/

/-- A state with output lines and journal entries in front of its own. -/
def preceded (output : List Text) (journal : Journal Problem) (progress : Progress) : Progress :=
  { progress with output := output ++ progress.output, journal := journal ++ progress.journal }

section Preceded

variable (output : List Text) (journal : Journal Problem) (progress : Progress)

@[simp] theorem preceded_output :
    (progress.preceded output journal).output = output ++ progress.output := rfl

@[simp] theorem preceded_journal :
    (progress.preceded output journal).journal = journal ++ progress.journal := rfl

@[simp] theorem preceded_phase : (progress.preceded output journal).phase = progress.phase := rfl

@[simp] theorem preceded_stack : (progress.preceded output journal).stack = progress.stack := rfl

@[simp] theorem preceded_store : (progress.preceded output journal).store = progress.store := rfl

@[simp] theorem preceded_carried :
    (progress.preceded output journal).carried = progress.carried := rfl

@[simp] theorem preceded_render (line : Text) :
    (progress.preceded output journal).render line = progress.render line := rfl

@[simp] theorem preceded_withCarried (line : Text) :
    (progress.preceded output journal).withCarried line = progress.withCarried line := rfl

theorem report_preceded (entries : Journal Problem) :
    (progress.preceded output journal).report entries =
      (progress.report entries).preceded output journal := by
  simp [report, preceded]

theorem warn_preceded (problem : Problem) :
    (progress.preceded output journal).warn problem =
      (progress.warn problem).preceded output journal :=
  report_preceded output journal progress _

theorem emit_preceded (line : Text) :
    (progress.preceded output journal).emit line =
      (progress.emit line).preceded output journal := by
  simp [emit, preceded]

theorem emitVisible_preceded (line : Text) :
    (progress.preceded output journal).emitVisible line =
      (progress.emitVisible line).preceded output journal := by
  unfold emitVisible
  split
  · rfl
  · exact emit_preceded output journal progress line

theorem handleStart_preceded (attributes : Attributes) :
    (progress.preceded output journal).handleStart attributes =
      (progress.handleStart attributes).preceded output journal := by
  unfold handleStart
  split
  · exact warn_preceded output journal progress _
  · rfl

theorem closing_preceded (name : Option Text) :
    (progress.preceded output journal).closing name =
      (progress.closing name).preceded output journal := by
  unfold closing
  rw [preceded_stack]
  split
  · rfl
  · exact warn_preceded output journal progress _

theorem handleEnd_preceded (context : SnippetContext) (attributes : Attributes) (code : Text) :
    (progress.preceded output journal).handleEnd context attributes code =
      (progress.handleEnd context attributes code).preceded output journal := by
  rw [handleEnd_eq, handleEnd_eq, preceded_stack, finishExtraction_eq, finishExtraction_eq,
    closing_preceded, emitVisible_preceded, emitVisible_preceded]
  split <;> rfl

theorem keeping_preceded (attributes : Attributes) (operation : Operation) :
    (progress.preceded output journal).keeping attributes operation =
      (progress.keeping attributes operation).preceded output journal := by
  unfold keeping
  split <;> rfl

theorem perform_preceded (attributes : Attributes) (code : Text)
    (operation : Option Operation) :
    (progress.preceded output journal).perform attributes code operation =
      ((progress.perform attributes code operation).1.preceded output journal,
        (progress.perform attributes code operation).2) := by
  cases operation with
  | none => exact congrArg (·, Flow.next) (emitVisible_preceded output journal progress code)
  | some operation =>
    simp only [perform, keeping_preceded, emitVisible_preceded]
    split <;> rfl

theorem handleOperation_preceded (context : SnippetContext) (tag : Tag) (attributes : Attributes)
    (code : Text) :
    (progress.preceded output journal).handleOperation context tag attributes code =
      ((progress.handleOperation context tag attributes code).1.preceded output journal,
        (progress.handleOperation context tag attributes code).2) := by
  rw [handleOperation_eq, handleOperation_eq, preceded_store]
  split
  · rfl
  · next built _ =>
    rw [report_preceded]
    exact perform_preceded output journal
      ((progress.report built.journal).withStore built.store) attributes code built.operation

theorem handleTag_preceded (context : SnippetContext) (tag : Tag) (body code : Text) :
    (progress.preceded output journal).handleTag context tag body code =
      ((progress.handleTag context tag body code).1.preceded output journal,
        (progress.handleTag context tag body code).2) := by
  rw [handleTag_eq, handleTag_eq, report_preceded]
  cases tag with
  | start => exact congrArg (·, Flow.next) (handleStart_preceded output journal _ _)
  | finish => exact congrArg (·, Flow.next) (handleEnd_preceded output journal _ _ _ _)
  | highlight => exact handleOperation_preceded output journal _ _ _ _ _
  | replace => exact handleOperation_preceded output journal _ _ _ _ _
  | link => exact handleOperation_preceded output journal _ _ _ _ _

theorem collect_preceded (context : SnippetContext) (isLast : Bool) (line : Text) :
    (progress.preceded output journal).collect context isLast line =
      ((progress.collect context isLast line).1.preceded output journal,
        (progress.collect context isLast line).2) := by
  unfold collect
  split
  · rw [preceded_render]
    split
    · rfl
    · rw [emit_preceded]
  · rw [preceded_render]
    split
    · rfl
    · split
      · split
        · rw [warn_preceded]
        · rw [emitVisible_preceded]
          rfl
      · split
        · rfl
        · rw [handleTag_preceded]
          rcases progress.handleTag context _ _ _ with ⟨later, flow⟩
          cases flow <;> rfl

theorem await_preceded (context : SnippetContext) (line : Text) :
    (progress.preceded output journal).await context line =
      (progress.await context line).preceded output journal := by
  simp only [await_eq, report_preceded, warn_preceded]
  split
  · rfl
  · split
    · split
      · rfl
      · split <;> rfl
    · rfl

theorem step_preceded (context : SnippetContext) (isLast : Bool) (line : Text) :
    (progress.preceded output journal).step context isLast line =
      ((progress.step context isLast line).1.preceded output journal,
        (progress.step context isLast line).2) := by
  by_cases awaiting : progress.phase = .awaiting
  · rw [step_awaiting progress awaiting, step_awaiting (progress.preceded output journal) awaiting]
    exact congrArg (·, Flow.next)
      (await_preceded output journal (progress.carrying none) context (progress.withCarried line))
  · rw [step_collecting progress awaiting,
      step_collecting (progress.preceded output journal) awaiting]
    exact collect_preceded output journal (progress.carrying none) context isLast
      (progress.withCarried line)

/-- What was put out and reported before a run stands in front of what the run adds. -/
theorem takeLines_preceded (context : SnippetContext) (closing : Bool) (lines : List Text) :
    takeLines context closing lines (progress.preceded output journal) =
      ((takeLines context closing lines progress).1.preceded output journal,
        (takeLines context closing lines progress).2) := by
  induction lines generalizing progress with
  | nil => rfl
  | cons line rest ih =>
    rw [takeLines_cons, takeLines_cons, step_preceded]
    rcases progress.step context (closing && rest.isEmpty) line with ⟨later, flow⟩
    cases flow with
    | next => exact ih later
    | stop => rfl
    | fail failure => rfl

end Preceded

end Progress

end SnippetMarkup
