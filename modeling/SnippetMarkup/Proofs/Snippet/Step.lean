import Mathlib
import SnippetMarkup.Snippet.Progress

/-!
# What a step does

The changes that a line makes to a state have names of their own here.  A step is one of a few
kinds: a line without markup, a comment that is carried on, or a tag that acts; and for each kind
there is one equation that says all that the step does.
-/

namespace SnippetMarkup

def Flow.failure? : Flow → Option MarkupFailure
  | .fail failure => some failure
  | _ => none

/-- The tag that acts on a line. -/
def actingTag? (line : Text) : Option Tag :=
  (MarkupComment.scan line).bind fun comment =>
    if comment.continues then none else Tag.ofBody? comment.body

theorem actingTag?_eq {line : Text} {comment : MarkupComment}
    (scanned : MarkupComment.scan line = some comment) (settled : comment.continues = false) :
    actingTag? line = Tag.ofBody? comment.body := by
  simp [actingTag?, scanned, settled]

namespace Progress

/-! ## Going on -/

/-- Goes on from a state unless the lines have ended there. -/
def continueWith (taken : Progress × Flow) (next : Progress → Progress × Flow) :
    Progress × Flow :=
  match taken with
  | (progress, .next) => next progress
  | (progress, .stop) => (progress, .stop)
  | (progress, .fail failure) => (progress, .fail failure)

@[simp] theorem continueWith_next (progress : Progress) (next : Progress → Progress × Flow) :
    continueWith (progress, .next) next = next progress := rfl

@[simp] theorem continueWith_stop (progress : Progress) (next : Progress → Progress × Flow) :
    continueWith (progress, .stop) next = (progress, .stop) := rfl

@[simp] theorem continueWith_fail (progress : Progress) (failure : MarkupFailure)
    (next : Progress → Progress × Flow) :
    continueWith (progress, .fail failure) next = (progress, .fail failure) := rfl

theorem continueWith_assoc (taken : Progress × Flow) (first second : Progress → Progress × Flow) :
    continueWith (continueWith taken first) second =
      continueWith taken fun progress => continueWith (first progress) second := by
  obtain ⟨progress, flow⟩ := taken
  cases flow <;> rfl

/-- What goes on to a proper end has had no failure before. -/
theorem failure?_eq_none_of_continueWith {taken : Progress × Flow}
    {next : Progress → Progress × Flow} (completes : (continueWith taken next).2.failure? = none) :
    taken.2.failure? = none := by
  obtain ⟨progress, flow⟩ := taken
  cases flow with
  | next => rfl
  | stop => rfl
  | fail failure => exact completes

/-- What is true of going on is true of stopping if it is true of doing nothing. -/
theorem continueWith_keeps {motive : Progress → Progress → Prop}
    (stays : ∀ progress, motive progress progress) (taken : Progress × Flow)
    {next : Progress → Progress × Flow} (goesOn : ∀ later, motive later (next later).1) :
    motive taken.1 (continueWith taken next).1 := by
  obtain ⟨later, flow⟩ := taken
  cases flow with
  | next => exact goesOn later
  | stop => exact stays later
  | fail failure => exact stays later

/-- Stops after a tag that has ended the extraction. -/
def settle (taken : Progress × Flow) : Progress × Flow :=
  continueWith taken fun later => (later, if later.phase = .finished then .stop else .next)

@[simp] theorem settle_fst (taken : Progress × Flow) : (settle taken).1 = taken.1 := by
  obtain ⟨progress, flow⟩ := taken
  cases flow <;> rfl

@[simp] theorem settle_snd_failure? (taken : Progress × Flow) :
    (settle taken).2.failure? = taken.2.failure? := by
  obtain ⟨progress, flow⟩ := taken
  cases flow with
  | next =>
    rw [settle, continueWith_next]
    dsimp only
    split <;> rfl
  | stop => rfl
  | fail failure => rfl

theorem settle_of_collecting {progress : Progress} (collecting : progress.phase = .collecting) :
    settle (progress, .next) = (progress, .next) := by
  simp [settle, collecting]

theorem settle_snd_congr {first second : Progress × Flow}
    (phase : first.1.phase = second.1.phase) (flow : first.2 = second.2) :
    (settle first).2 = (settle second).2 := by
  obtain ⟨progress, happens⟩ := first
  obtain ⟨other, happensToo⟩ := second
  obtain rfl : happens = happensToo := flow
  replace phase : progress.phase = other.phase := phase
  cases happens <;> simp [settle, phase]

theorem settle_snd_eq_stop_iff (taken : Progress × Flow) :
    (settle taken).2 = .stop ↔ taken.2 = .stop ∨ taken.2 = .next ∧ taken.1.phase = .finished := by
  obtain ⟨progress, flow⟩ := taken
  cases flow <;> simp [settle]

variable (progress : Progress)

/-! ## Changes -/

def withStack (stack : RegionStack) : Progress := { progress with stack := stack }

def withStore (store : ReferenceStore) : Progress := { progress with store := store }

def withPhase (phase : Phase) : Progress := { progress with phase := phase }

def carrying (carried : Option CarriedComment) : Progress := { progress with carried := carried }

/-- A state in which the region of a tag is open with an operation, if the tag mentions one. -/
def keeping (attributes : Attributes) (operation : Operation) : Progress :=
  if attributes.mentions .region then
    progress.withStack (progress.stack.push ⟨attributes.value? .region, some operation⟩)
  else progress

/-- Applies the operation that a tag has made, if it has made one, to the line of the tag. -/
def perform (attributes : Attributes) (code : Text) : Option Operation → Progress × Flow
  | none => (progress.emitVisible code, .next)
  | some operation =>
    match operation.apply code with
    | .error failure => (progress.keeping attributes operation, .fail failure)
    | .ok line =>
      ((progress.keeping attributes operation).emitVisible (Text.trimRight line), .next)

@[simp] theorem report_nil : progress.report [] = progress := by
  simp [report]

@[simp] theorem report_report (first second : Journal Problem) :
    (progress.report first).report second = progress.report (first ++ second) := by
  simp [report]

section Setters

variable (phase : Phase) (entries : Journal Problem)

@[simp] theorem report_stack : (progress.report entries).stack = progress.stack := rfl
@[simp] theorem report_output : (progress.report entries).output = progress.output := rfl
@[simp] theorem report_store : (progress.report entries).store = progress.store := rfl
@[simp] theorem report_journal :
    (progress.report entries).journal = progress.journal ++ entries := rfl

@[simp] theorem carrying_store (carried : Option CarriedComment) :
    (progress.carrying carried).store = progress.store := rfl

@[simp] theorem withPhase_phase : (progress.withPhase phase).phase = phase := rfl
@[simp] theorem withPhase_stack : (progress.withPhase phase).stack = progress.stack := rfl
@[simp] theorem withPhase_output : (progress.withPhase phase).output = progress.output := rfl
@[simp] theorem withPhase_store : (progress.withPhase phase).store = progress.store := rfl
@[simp] theorem withPhase_journal : (progress.withPhase phase).journal = progress.journal := rfl

end Setters

theorem text_congr {first second : Progress} (same : first.output = second.output) :
    first.text = second.text := by
  rw [text, text, same]

theorem emitVisible_of_visible {text : Text} (visible : Text.isBlank text = false) :
    progress.emitVisible text = progress.emit text :=
  if_neg (by simp [visible])

section Fields

variable (text : Text) (attributes : Attributes) (operation : Operation)

@[simp] theorem emitVisible_phase : (progress.emitVisible text).phase = progress.phase := by
  unfold emitVisible; split <;> rfl

@[simp] theorem emitVisible_stack : (progress.emitVisible text).stack = progress.stack := by
  unfold emitVisible; split <;> rfl

@[simp] theorem emitVisible_carried :
    (progress.emitVisible text).carried = progress.carried := by
  unfold emitVisible; split <;> rfl

@[simp] theorem emitVisible_store : (progress.emitVisible text).store = progress.store := by
  unfold emitVisible; split <;> rfl

@[simp] theorem emitVisible_journal :
    (progress.emitVisible text).journal = progress.journal := by
  unfold emitVisible; split <;> rfl

@[simp] theorem keeping_phase :
    (progress.keeping attributes operation).phase = progress.phase := by
  unfold keeping; split <;> rfl

@[simp] theorem keeping_carried :
    (progress.keeping attributes operation).carried = progress.carried := by
  unfold keeping; split <;> rfl

@[simp] theorem keeping_store :
    (progress.keeping attributes operation).store = progress.store := by
  unfold keeping; split <;> rfl

@[simp] theorem keeping_journal :
    (progress.keeping attributes operation).journal = progress.journal := by
  unfold keeping; split <;> rfl

@[simp] theorem perform_phase (made : Option Operation) :
    (progress.perform attributes text made).1.phase = progress.phase := by
  cases made with
  | none => exact emitVisible_phase progress text
  | some operation => cases applied : operation.apply text <;> simp [perform, applied]

@[simp] theorem perform_carried (made : Option Operation) :
    (progress.perform attributes text made).1.carried = progress.carried := by
  cases made with
  | none => exact emitVisible_carried progress text
  | some operation => cases applied : operation.apply text <;> simp [perform, applied]

@[simp] theorem perform_store (made : Option Operation) :
    (progress.perform attributes text made).1.store = progress.store := by
  cases made with
  | none => exact emitVisible_store progress text
  | some operation => cases applied : operation.apply text <;> simp [perform, applied]

@[simp] theorem perform_journal (made : Option Operation) :
    (progress.perform attributes text made).1.journal = progress.journal := by
  cases made with
  | none => exact emitVisible_journal progress text
  | some operation => cases applied : operation.apply text <;> simp [perform, applied]

end Fields

/-! ## Parts of a step -/

theorem handleStart_eq (attributes : Attributes) :
    progress.handleStart attributes =
      match attributes.value? .region with
      | none => progress.warn .startWithoutRegion
      | some name => progress.withStack (progress.stack.push ⟨some name, none⟩) := rfl

theorem finishExtraction_eq (code : Text) :
    progress.finishExtraction code = (progress.emitVisible code).withPhase .finished := rfl

def endProblem (name : Option Text) : Problem :=
  match name with
  | some name => .unknownRegion name
  | none => .unmatchedEnd

/-- Closes the region that an end tag asks for, or says that there is none. -/
def closing (name : Option Text) : Progress :=
  match progress.stack.close? name with
  | some (_, stack) => progress.withStack stack
  | none => progress.warn (endProblem name)

/-- An end tag ends the extraction or closes a region, and shows the code of its line. -/
theorem handleEnd_eq (context : SnippetContext) (attributes : Attributes) (code : Text) :
    progress.handleEnd context attributes code =
      if context.region.isSome ∧ (attributes.value? .region = context.region ∨
          attributes.value? .region = none ∧ progress.stack.close? none = none) then
        progress.finishExtraction code
      else (progress.closing (attributes.value? .region)).emitVisible code := by
  unfold handleEnd closing
  cases attributes.value? .region with
  | none =>
    cases progress.stack.close? none <;> cases context.region <;> simp [withStack, endProblem]
  | some name =>
    have named : (some name = context.region) ↔ context.region = some name := eq_comm
    by_cases target : context.region = some name
    · simp [target]
    · cases closed : progress.stack.close? (some name) <;>
        simp [withStack, endProblem, closed, named, target]

theorem handleOperation_eq (context : SnippetContext) (tag : Tag) (attributes : Attributes)
    (code : Text) :
    progress.handleOperation context tag attributes code =
      match Operation.build context.toMarkupContext tag attributes progress.store with
      | .error failure => (progress, .fail failure)
      | .ok built =>
        ((progress.report built.journal).withStore built.store).perform attributes code
          built.operation := by
  unfold handleOperation perform
  cases Operation.build context.toMarkupContext tag attributes progress.store with
  | error failure => rfl
  | ok built =>
    cases built.operation with
    | none => rfl
    | some operation => cases operation.apply code <;> rfl

/-- The warnings about names that a tag does not accept. -/
def refusals (tag : Tag) (names : List Text) : Journal Problem :=
  names.map fun name => .warning (.invalidAttribute tag name)

def act (context : SnippetContext) (attributes : Attributes) (code : Text) :
    Tag → Progress × Flow
  | .start => (progress.handleStart attributes, .next)
  | .finish => (progress.handleEnd context attributes code, .next)
  | tag => progress.handleOperation context tag attributes code

theorem handleTag_eq (context : SnippetContext) (tag : Tag) (body code : Text) :
    progress.handleTag context tag body code =
      (progress.report (refusals tag (Attributes.parse tag body).2)).act context
        (Attributes.parse tag body).1 code tag := by
  cases tag <;> rfl

/-- What a start, an end and an operation have in common, every tag has. -/
theorem act_cases {motive : Progress × Flow → Prop} (context : SnippetContext)
    (attributes : Attributes) (code : Text) (tag : Tag)
    (starts : motive (progress.handleStart attributes, .next))
    (ends : motive (progress.handleEnd context attributes code, .next))
    (operates : motive (progress.handleOperation context tag attributes code)) :
    motive (progress.act context attributes code tag) := by
  cases tag with
  | start => exact starts
  | finish => exact ends
  | highlight => exact operates
  | replace => exact operates
  | link => exact operates

/-- What applying an operation preserves, an operation tag preserves. -/
theorem handleOperation_cases {motive : Progress × Flow → Prop} (context : SnippetContext)
    (attributes : Attributes) (code : Text) (tag : Tag)
    (fails : ∀ failure, motive (progress, .fail failure))
    (performs : ∀ built, Operation.build context.toMarkupContext tag attributes progress.store =
      .ok built → motive (((progress.report built.journal).withStore built.store).perform
        attributes code built.operation)) :
    motive (progress.handleOperation context tag attributes code) := by
  rw [handleOperation_eq]
  cases made : Operation.build context.toMarkupContext tag attributes progress.store with
  | error failure => exact fails failure
  | ok built => exact performs built made

theorem closing_eq_warn {name : Option Text} (nothing : progress.stack.close? name = none) :
    progress.closing name = progress.warn (endProblem name) := by
  simp only [closing, nothing]

theorem closing_phase (name : Option Text) : (progress.closing name).phase = progress.phase := by
  unfold closing
  split <;> rfl

theorem closing_carried (name : Option Text) :
    (progress.closing name).carried = progress.carried := by
  unfold closing
  split <;> rfl

theorem closing_store (name : Option Text) : (progress.closing name).store = progress.store := by
  unfold closing
  split <;> rfl

/-- The store after a tag is the one that its operation leaves. -/
theorem act_store (context : SnippetContext) (attributes : Attributes) (code : Text) (tag : Tag) :
    (progress.act context attributes code tag).1.store =
      match Operation.build context.toMarkupContext tag attributes progress.store with
      | .error _ => progress.store
      | .ok built => built.store := by
  have operated (tag : Tag) : (progress.handleOperation context tag attributes code).1.store =
      match Operation.build context.toMarkupContext tag attributes progress.store with
      | .error _ => progress.store
      | .ok built => built.store := by
    rw [handleOperation_eq]
    split
    · rfl
    · rw [perform_store]
      rfl
  cases tag with
  | start =>
    simp only [act, handleStart_eq]
    split <;> rfl
  | finish =>
    simp only [act, handleEnd_eq]
    split
    · rw [finishExtraction_eq, withPhase_store, emitVisible_store]
      rfl
    · rw [emitVisible_store, closing_store]
      rfl
  | highlight => exact operated .highlight
  | replace => exact operated .replace
  | link => exact operated .link

/-- A tag leaves the phase as it is, unless it ends the extraction. -/
theorem handleTag_phase (context : SnippetContext) (tag : Tag) (body code : Text) :
    (progress.handleTag context tag body code).1.phase = progress.phase ∨
      context.region.isSome ∧ (progress.handleTag context tag body code).1.phase = .finished ∧
        (progress.handleTag context tag body code).2 = .next := by
  rw [handleTag_eq]
  generalize (Attributes.parse tag body).1 = attributes
  generalize refusals tag (Attributes.parse tag body).2 = refused
  have operated : ∀ tag, ((progress.report refused).handleOperation context tag attributes
      code).1.phase = progress.phase := fun tag =>
    handleOperation_cases (motive := fun taken => taken.1.phase = progress.phase) _ context
      attributes code tag (fun _ => rfl) (fun _ _ => perform_phase _ _ _ _)
  cases tag with
  | start =>
    left
    simp only [act, handleStart_eq]
    split <;> rfl
  | finish =>
    simp only [act, handleEnd_eq]
    split
    · next ends => exact .inr ⟨ends.1, rfl, trivial⟩
    · left
      rw [emitVisible_phase, closing_phase]
      rfl
  | highlight => exact .inl (operated .highlight)
  | replace => exact .inl (operated .replace)
  | link => exact .inl (operated .link)

theorem handleTag_carried (context : SnippetContext) (tag : Tag) (body code : Text) :
    (progress.handleTag context tag body code).1.carried = progress.carried := by
  rw [handleTag_eq]
  refine act_cases (motive := fun taken => taken.1.carried = progress.carried) _ context _ code
    tag ?starts ?ends ?operates
  case starts =>
    rw [handleStart_eq]
    split <;> rfl
  case ends =>
    rw [handleEnd_eq]
    split
    · exact emitVisible_carried _ code
    · rw [emitVisible_carried, closing_carried]
      rfl
  case operates =>
    exact handleOperation_cases (motive := fun taken => taken.1.carried = _) _ context _ code tag
      (fun _ => rfl) (fun _ _ => perform_carried _ _ _ _)

theorem handleTag_flow (context : SnippetContext) (tag : Tag) (body code : Text) :
    (progress.handleTag context tag body code).2 ≠ .stop := by
  rw [handleTag_eq]
  refine act_cases (motive := fun taken => taken.2 ≠ .stop) _ context _ code tag
    (by simp) (by simp) ?_
  refine handleOperation_cases (motive := fun taken => taken.2 ≠ .stop) _ context _ code tag
    (by simp) fun built _ => ?_
  cases built.operation with
  | none => simp [perform]
  | some operation => cases applied : operation.apply code <;> simp [perform, applied]

theorem handleTag_next {context : SnippetContext} {tag : Tag} {body code : Text}
    (completes : (progress.handleTag context tag body code).2.failure? = none) :
    (progress.handleTag context tag body code).2 = .next := by
  have goesOn := handleTag_flow progress context tag body code
  cases flow : (progress.handleTag context tag body code).2 with
  | next => rfl
  | stop => exact (goesOn flow).elim
  | fail failure => simp [flow, Flow.failure?] at completes

/-! ## Kinds of lines -/

variable {line : Text} {comment : MarkupComment} {tag : Tag}

theorem collect_plain (plain : MarkupComment.scan line = none) (context : SnippetContext)
    (isLast : Bool) :
    progress.collect context isLast line =
      match progress.render line with
      | .error failure => (progress, .fail failure)
      | .ok shown => (progress.emit shown, .next) := by
  cases rendered : progress.render line <;> simp [collect, plain, rendered]

/-- A comment for the next line is taken along, and the code in front of it is shown; on the last
line it ends the run. -/
theorem collect_carrying (scanned : MarkupComment.scan line = some comment)
    (continues : comment.continues = true) (context : SnippetContext) (isLast : Bool) :
    progress.collect context isLast line =
      match progress.render comment.code with
      | .error failure => (progress, .fail failure)
      | .ok code =>
        if isLast then (progress.warn .danglingContinuation, .stop)
        else
          ((progress.emitVisible code).carrying
            (some ⟨comment.introducer, comment.body.dropLast⟩), .next) := by
  simp only [collect, scanned, continues, if_true]
  rfl

theorem collect_acting (scanned : MarkupComment.scan line = some comment)
    (settled : comment.continues = false) (tagged : Tag.ofBody? comment.body = some tag)
    (context : SnippetContext) (isLast : Bool) :
    progress.collect context isLast line =
      match progress.render comment.code with
      | .error failure => (progress, .fail failure)
      | .ok code =>
        settle (progress.handleTag context tag comment.body code) := by
  simp only [collect, scanned, settled, tagged]
  cases progress.render comment.code with
  | error failure => rfl
  | ok code =>
    rcases handled : progress.handleTag context tag comment.body code with ⟨later, flow⟩
    simp only [handled]
    cases flow with
    | next => rfl
    | stop => rfl
    | fail failure => rfl

theorem collect_idle (scanned : MarkupComment.scan line = some comment)
    (settled : comment.continues = false) (untagged : Tag.ofBody? comment.body = none)
    (context : SnippetContext) (isLast : Bool) :
    progress.collect context isLast line =
      match progress.render comment.code with
      | .error failure => (progress, .fail failure)
      | .ok _ => (progress, .next) := by
  cases rendered : progress.render comment.code <;>
    simp [collect, scanned, settled, untagged, rendered]

/-- What collecting a line can come to. -/
inductive Collects (context : SnippetContext) (isLast : Bool) (line : Text)
    (progress : Progress) : Progress × Flow → Prop
  | unrendered (failure : MarkupFailure) :
    Collects context isLast line progress (progress, .fail failure)
  | plain (shown : Text) (unmarked : MarkupComment.scan line = none)
    (rendered : progress.render line = .ok shown) :
    Collects context isLast line progress (progress.emit shown, .next)
  | carried {comment : MarkupComment} (code : Text)
    (scanned : MarkupComment.scan line = some comment) (continues : comment.continues = true)
    (rendered : progress.render comment.code = .ok code) (followed : isLast = false) :
    Collects context isLast line progress
      ((progress.emitVisible code).carrying (some ⟨comment.introducer, comment.body.dropLast⟩),
        .next)
  | dangling {comment : MarkupComment} (scanned : MarkupComment.scan line = some comment)
    (continues : comment.continues = true) (last : isLast = true) :
    Collects context isLast line progress (progress.warn .danglingContinuation, .stop)
  | idle {comment : MarkupComment} (scanned : MarkupComment.scan line = some comment)
    (settled : comment.continues = false) :
    Collects context isLast line progress (progress, .next)
  | acted {comment : MarkupComment} {tag : Tag} (code : Text)
    (scanned : MarkupComment.scan line = some comment) (settled : comment.continues = false)
    (tagged : Tag.ofBody? comment.body = some tag)
    (rendered : progress.render comment.code = .ok code) :
    Collects context isLast line progress
      (settle (progress.handleTag context tag comment.body code))

/-- Nothing else happens when a line is collected. -/
theorem collects (context : SnippetContext) (isLast : Bool) (line : Text) :
    Collects context isLast line progress (progress.collect context isLast line) := by
  cases scanned : MarkupComment.scan line with
  | none =>
    rw [collect_plain progress scanned]
    split
    · exact .unrendered _
    · next shown rendered => exact .plain shown scanned rendered
  | some comment =>
    cases continues : comment.continues with
    | true =>
      rw [collect_carrying progress scanned continues]
      split
      · exact .unrendered _
      · next code rendered =>
        cases isLast with
        | true => exact .dangling scanned continues rfl
        | false => exact .carried code scanned continues rendered rfl
    | false =>
      cases tagged : Tag.ofBody? comment.body with
      | none =>
        rw [collect_idle progress scanned continues tagged]
        split
        · exact .unrendered _
        · exact .idle scanned continues
      | some tag =>
        rw [collect_acting progress scanned continues tagged]
        split
        · exact .unrendered _
        · next code rendered => exact .acted code scanned continues tagged rendered

/-- While a region is awaited, only a start tag is looked at. -/
theorem await_eq (context : SnippetContext) (line : Text) :
    progress.await context line =
      match MarkupComment.scan line with
      | none => progress
      | some comment =>
        if Tag.ofBody? comment.body = some .start then
          match (Attributes.parse .start comment.body).1.value? .region with
          | none =>
            (progress.report (refusals .start (Attributes.parse .start comment.body).2)).warn
              .startWithoutRegion
          | some name =>
            if context.region = some name then
              ((progress.report (refusals .start (Attributes.parse .start comment.body).2)).report
                [.note 3 (foundNote name)]).withPhase .collecting
            else progress.report (refusals .start (Attributes.parse .start comment.body).2)
        else progress := rfl

/-- Until the region is found, nothing is done but to report. -/
theorem exists_await (context : SnippetContext) (line : Text) :
    ∃ entries phase, (phase = progress.phase ∨ phase = .collecting) ∧
      progress.await context line = (progress.report entries).withPhase phase := by
  rw [await_eq]
  split
  · exact ⟨[], progress.phase, .inl rfl, by rw [report_nil]; rfl⟩
  · split
    · split
      · exact ⟨_, progress.phase, .inl rfl, report_report progress _ _⟩
      · split
        · rw [report_report]
          exact ⟨_, .collecting, .inr rfl, rfl⟩
        · exact ⟨_, progress.phase, .inl rfl, rfl⟩
    · exact ⟨[], progress.phase, .inl rfl, by rw [report_nil]; rfl⟩

theorem await_carried (context : SnippetContext) (line : Text) :
    (progress.await context line).carried = progress.carried := by
  obtain ⟨entries, phase, -, same⟩ := exists_await progress context line
  rw [same]
  rfl

theorem await_stack (context : SnippetContext) (line : Text) :
    (progress.await context line).stack = progress.stack := by
  obtain ⟨entries, phase, -, same⟩ := exists_await progress context line
  rw [same, withPhase_stack, report_stack]

theorem await_output (context : SnippetContext) (line : Text) :
    (progress.await context line).output = progress.output := by
  obtain ⟨entries, phase, -, same⟩ := exists_await progress context line
  rw [same, withPhase_output, report_output]

theorem await_store (context : SnippetContext) (line : Text) :
    (progress.await context line).store = progress.store := by
  obtain ⟨entries, phase, -, same⟩ := exists_await progress context line
  rw [same, withPhase_store, report_store]

theorem await_phase (context : SnippetContext) (line : Text) :
    (progress.await context line).phase = progress.phase ∨
      (progress.await context line).phase = .collecting := by
  obtain ⟨entries, phase, found, same⟩ := exists_await progress context line
  rwa [same, withPhase_phase]

/-! ## Steps -/

theorem step_awaiting (awaiting : progress.phase = .awaiting) (context : SnippetContext)
    (isLast : Bool) (line : Text) :
    progress.step context isLast line =
      ((progress.carrying none).await context (progress.withCarried line), .next) :=
  if_pos awaiting

theorem step_collecting (collecting : progress.phase ≠ .awaiting) (context : SnippetContext)
    (isLast : Bool) (line : Text) :
    progress.step context isLast line =
      (progress.carrying none).collect context isLast (progress.withCarried line) :=
  if_neg collecting

section Calm

variable {progress} (calm : progress.carried = none)
include calm

theorem carrying_none : progress.carrying none = progress := by
  simp [carrying, ← calm]

theorem withCarried_none (line : Text) : progress.withCarried line = line := by
  simp only [withCarried, calm]

theorem step_awaiting_none (awaiting : progress.phase = .awaiting) (context : SnippetContext)
    (isLast : Bool) (line : Text) :
    progress.step context isLast line = (progress.await context line, .next) := by
  rw [step_awaiting progress awaiting, carrying_none calm, withCarried_none calm]

theorem step_collecting_none (collecting : progress.phase ≠ .awaiting) (context : SnippetContext)
    (isLast : Bool) (line : Text) :
    progress.step context isLast line = progress.collect context isLast line := by
  rw [step_collecting progress collecting, carrying_none calm, withCarried_none calm]

/-- A line without markup is put out as it is rendered. -/
theorem step_plain (collecting : progress.phase ≠ .awaiting) {line shown : Text}
    (plain : MarkupComment.scan line = none) (rendered : progress.render line = .ok shown)
    (context : SnippetContext) (isLast : Bool) :
    progress.step context isLast line = (progress.emit shown, .next) := by
  rw [step_collecting_none calm collecting, collect_plain progress plain, rendered]

end Calm

/-- A step that ends the extraction ends the run, whether or not there are other lines. -/
theorem step_finish {context : SnippetContext} {isLast : Bool} {line : Text}
    {progress : Progress} (unfinished : progress.phase ≠ .finished)
    (finishes : (progress.step context isLast line).1.phase = .finished) (other : Bool) :
    (progress.step context isLast line).2 = .stop ∧
      progress.step context other line = progress.step context isLast line := by
  by_cases awaiting : progress.phase = .awaiting
  · rw [step_awaiting progress awaiting] at finishes
    rcases await_phase (progress.carrying none) context (progress.withCarried line) with
      same | collecting
    · exact (unfinished (same.symm.trans finishes)).elim
    · simp [collecting] at finishes
  · rw [step_collecting progress awaiting] at finishes ⊢
    rw [step_collecting progress awaiting]
    have collected := collects (progress.carrying none) context isLast (progress.withCarried line)
    generalize collect context isLast (progress.withCarried line) (progress.carrying none) = taken
      at collected finishes ⊢
    cases collected with
    | unrendered failure => exact (unfinished finishes).elim
    | plain shown => exact (unfinished finishes).elim
    | carried code =>
      have same := emitVisible_phase (progress.carrying none) code
      exact (unfinished (same.symm.trans finishes)).elim
    | dangling => exact (unfinished finishes).elim
    | idle => exact (unfinished finishes).elim
    | @acted comment tag code scanned settled tagged rendered =>
      constructor
      · rw [settle_fst] at finishes
        rcases handleTag_phase (progress.carrying none) context tag comment.body code with
          same | ⟨-, -, goesOn⟩
        · exact (unfinished (same.symm.trans finishes)).elim
        · exact (settle_snd_eq_stop_iff _).2 (.inr ⟨goesOn, finishes⟩)
      · rw [collect_acting _ scanned settled tagged, rendered]

end Progress

end SnippetMarkup
