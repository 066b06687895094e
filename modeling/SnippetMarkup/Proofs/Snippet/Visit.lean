import Mathlib
import SnippetMarkup.Proofs.Operation.Marking
import SnippetMarkup.Proofs.Region.Stack
import SnippetMarkup.Proofs.Snippet.Run

/-!
# The lines that are collected

A run visits the lines that it collects, each in a state in which the operations of some regions
are open.  What it puts out is what it puts out for each of these lines, and that is the code of the
line after the operations of the open regions and the one that the tag of the line makes.  No other
operation is open at a later line than those of the lines before it.
-/

namespace SnippetMarkup

open Progress

/-! ## Tags that act -/

/-- The tag that acts on a line, with its attributes. -/
def acting? (line : Text) : Option (Tag × Attributes) :=
  (MarkupComment.scan line).bind fun comment =>
    (actingTag? line).map fun tag => (tag, (Attributes.parse tag comment.body).1)

theorem acting?_eq {line : Text} {comment : MarkupComment} {tag : Tag}
    (scanned : MarkupComment.scan line = some comment) (settled : comment.continues = false)
    (tagged : Tag.ofBody? comment.body = some tag) :
    acting? line = some (tag, (Attributes.parse tag comment.body).1) := by
  rw [acting?, actingTag?_eq scanned settled, scanned, tagged, Option.bind_some, Option.map_some]

theorem actingTag?_of_acting? {line : Text} {tag : Tag} {attributes : Attributes}
    (acts : acting? line = some (tag, attributes)) : actingTag? line = some tag := by
  obtain ⟨comment, -, made⟩ := Option.bind_eq_some_iff.1 acts
  obtain ⟨tagToo, tagged, same⟩ := Option.map_eq_some_iff.1 made
  rw [tagged, (Prod.mk.inj same).1]

/-! ## Visits -/

/-- A line that is collected, with what was carried over to it, and the state it is collected in. -/
structure Visit where
  before : Progress
  line : Text
  isLast : Bool

namespace Visit

/-- The code on a line: all of it, or what stands in front of its markup. -/
def code (visit : Visit) : Text := ((MarkupComment.scan visit.line).map (·.code)).getD visit.line

/-- The operation that the tag of a line makes. -/
def made? (context : SnippetContext) (visit : Visit) : Option Operation :=
  (acting? visit.line).bind fun (tag, attributes) =>
    Operation.made? context.toMarkupContext visit.before.store tag attributes

/-- The operations that act on a line, in turn. -/
def operations (context : SnippetContext) (visit : Visit) : List Operation :=
  visit.before.stack.operations ++ (visit.made? context).toList

def after (context : SnippetContext) (visit : Visit) : Progress × Flow :=
  visit.before.collect context visit.isLast visit.line

/-- What is put out for a line. -/
def shown (context : SnippetContext) (visit : Visit) : List Text :=
  (visit.after context).1.output.drop visit.before.output.length

/-- How a line may be shown. -/
inductive Renders (context : SnippetContext) (visit : Visit) : Text → Prop
  | plain (shown : Text) (rendered : visit.before.render visit.code = .ok shown) :
    Renders context visit shown
  | marked (operation : Operation) (code marked : Text)
    (rendered : visit.before.render visit.code = .ok code)
    (made : visit.made? context = some operation) (applied : operation.apply code = .ok marked) :
    Renders context visit (Text.trimRight marked)

end Visit

/-! ## What is put out for a line -/

namespace Progress

/-- Nothing but lines of a kind has been put out on the way to a later state. -/
def Adds (kind : Text → Prop) (progress later : Progress) : Prop :=
  ∃ shown, later.output = progress.output ++ shown ∧ ∀ line ∈ shown, kind line

namespace Adds

variable {kind : Text → Prop} {progress later : Progress}

theorem of_eq (same : later.output = progress.output) : Adds kind progress later :=
  ⟨[], by simp [same], by simp⟩

theorem emit {line : Text} (fits : kind line) (same : later.output = progress.output) :
    Adds kind progress (later.emit line) :=
  ⟨[line], by rw [Progress.emit, same], by simpa using fits⟩

theorem emitVisible {line : Text} (fits : kind line) (same : later.output = progress.output) :
    Adds kind progress (later.emitVisible line) := by
  unfold Progress.emitVisible
  split
  · exact of_eq same
  · exact emit fits same

end Adds

variable (progress : Progress)

theorem closing_output (name : Option Text) :
    (progress.closing name).output = progress.output := by
  unfold closing
  split <;> rfl

theorem keeping_output (attributes : Attributes) (operation : Operation) :
    (progress.keeping attributes operation).output = progress.output := by
  unfold keeping
  split <;> rfl

variable {progress}

theorem adds_perform {kind : Text → Prop} {before : Progress} {attributes : Attributes}
    {code : Text} {made : Option Operation} (same : progress.output = before.output)
    (plain : kind code)
    (marks : ∀ operation ∈ made, ∀ marked, operation.apply code = .ok marked →
      kind (Text.trimRight marked)) :
    Adds kind before (progress.perform attributes code made).1 := by
  cases made with
  | none => exact .emitVisible plain same
  | some operation =>
    have kept := (keeping_output progress attributes operation).trans same
    cases applied : operation.apply code with
    | error failure =>
      simp only [perform, applied]
      exact .of_eq kept
    | ok marked =>
      simp only [perform, applied]
      exact .emitVisible (marks operation rfl marked applied) kept

theorem adds_handleTag {kind : Text → Prop} {context : SnippetContext} {tag : Tag}
    {body code : Text} (plain : kind code)
    (marks : ∀ operation ∈ Operation.made? context.toMarkupContext progress.store tag
        (Attributes.parse tag body).1, ∀ marked, operation.apply code = .ok marked →
      kind (Text.trimRight marked)) :
    Adds kind progress (progress.handleTag context tag body code).1 := by
  rw [handleTag_eq]
  generalize (Attributes.parse tag body).1 = attributes at marks
  generalize refusals tag (Attributes.parse tag body).2 = refused
  refine act_cases (motive := fun taken => Adds kind progress taken.1) _ context attributes code tag
    ?starts ?ends ?operates
  case starts =>
    rw [handleStart_eq]
    split <;> exact .of_eq rfl
  case ends =>
    rw [handleEnd_eq, finishExtraction_eq]
    split
    · exact Adds.emitVisible plain (rfl : (progress.report refused).output = progress.output)
    · exact .emitVisible plain (closing_output _ _)
  case operates =>
    refine handleOperation_cases (motive := fun taken => Adds kind progress taken.1) _ context
      attributes code tag (fun _ => .of_eq rfl) fun built made => ?_
    refine adds_perform rfl plain fun operation member => marks operation ?_
    rw [report_store] at made
    simpa only [Operation.made?, made] using member

end Progress

namespace Visit

variable (context : SnippetContext) (visit : Visit)

theorem code_eq {comment : MarkupComment}
    (scanned : MarkupComment.scan visit.line = some comment) : visit.code = comment.code := by
  rw [code, scanned, Option.map_some, Option.getD_some]

theorem code_eq_line (unmarked : MarkupComment.scan visit.line = none) :
    visit.code = visit.line := by
  rw [code, unmarked, Option.map_none, Option.getD_none]

theorem made?_eq {comment : MarkupComment} {tag : Tag}
    (scanned : MarkupComment.scan visit.line = some comment) (settled : comment.continues = false)
    (tagged : Tag.ofBody? comment.body = some tag) :
    visit.made? context = Operation.made? context.toMarkupContext visit.before.store tag
      (Attributes.parse tag comment.body).1 := by
  rw [made?, acting?_eq scanned settled tagged, Option.bind_some]

/-! ## What a visit comes to -/

/-- A line that cannot be rendered ends the run before its tag is looked at. -/
theorem after_unrendered {failure : MarkupFailure}
    (failed : visit.before.render visit.code = .error failure) :
    visit.after context = (visit.before, .fail failure) := by
  unfold after
  cases scanned : MarkupComment.scan visit.line with
  | none =>
    rw [collect_plain visit.before scanned, ← visit.code_eq_line scanned, failed]
  | some comment =>
    rw [visit.code_eq scanned] at failed
    cases continues : comment.continues with
    | true => rw [collect_carrying visit.before scanned continues, failed]
    | false =>
      cases tagged : Tag.ofBody? comment.body with
      | none => rw [collect_idle visit.before scanned continues tagged, failed]
      | some tag => rw [collect_acting visit.before scanned continues tagged, failed]

theorem rendered_of_proper {context : SnippetContext} {visit : Visit}
    (proper : (visit.after context).2.failure? = none) :
    ∃ code, visit.before.render visit.code = .ok code := by
  cases rendered : visit.before.render visit.code with
  | ok code => exact ⟨code, rfl⟩
  | error failure => simp [visit.after_unrendered context rendered, Flow.failure?] at proper

theorem after_acting {code : Text} {tag : Tag} {attributes : Attributes}
    (rendered : visit.before.render visit.code = .ok code)
    (acts : acting? visit.line = some (tag, attributes)) :
    ∃ refused, visit.after context =
      settle ((visit.before.report refused).act context attributes code tag) := by
  obtain ⟨comment, scanned, made⟩ := Option.bind_eq_some_iff.1 acts
  obtain ⟨_, tagged, same⟩ := Option.map_eq_some_iff.1 made
  obtain ⟨rfl, rfl⟩ := Prod.mk.inj same
  rw [actingTag?, scanned, Option.bind_some] at tagged
  split at tagged
  · simp at tagged
  · next settled =>
    rw [visit.code_eq scanned] at rendered
    rw [after, collect_acting visit.before scanned (by simpa using settled) tagged, rendered]
    exact ⟨_, congrArg settle (handleTag_eq _ context _ comment.body code)⟩

theorem after_unacting {code : Text} (rendered : visit.before.render visit.code = .ok code)
    (idle : acting? visit.line = none) :
    (visit.after context).1.store = visit.before.store ∧
      (visit.after context).2.failure? = none := by
  unfold after
  cases scanned : MarkupComment.scan visit.line with
  | none =>
    rw [collect_plain visit.before scanned, ← visit.code_eq_line scanned, rendered]
    exact ⟨rfl, rfl⟩
  | some comment =>
    rw [visit.code_eq scanned] at rendered
    cases continues : comment.continues with
    | true =>
      rw [collect_carrying visit.before scanned continues, rendered]
      dsimp only
      split
      · exact ⟨rfl, rfl⟩
      · exact ⟨emitVisible_store visit.before code, rfl⟩
    | false =>
      cases tagged : Tag.ofBody? comment.body with
      | none =>
        rw [collect_idle visit.before scanned continues tagged, rendered]
        exact ⟨rfl, rfl⟩
      | some tag => simp [acting?_eq scanned continues tagged] at idle

/-- The line of an end tag fails only if its code cannot be rendered. -/
theorem after_finish {comment : MarkupComment}
    (scanned : MarkupComment.scan visit.line = some comment)
    (tagged : Tag.ofBody? comment.body = some .finish) :
    (visit.after context).1.store = visit.before.store ∧
      ∀ failure, (visit.after context).2.failure? = some failure ↔
        visit.before.render visit.code = .error failure := by
  cases rendered : visit.before.render visit.code with
  | error failure =>
    rw [visit.after_unrendered context rendered]
    exact ⟨rfl, fun other => by simp [Flow.failure?]⟩
  | ok code =>
    cases continues : comment.continues with
    | true =>
      have idle : acting? visit.line = none := by
        simp [acting?, actingTag?, scanned, continues]
      obtain ⟨store, proper⟩ := visit.after_unacting context rendered idle
      exact ⟨store, fun failure => by simp [proper]⟩
    | false =>
      obtain ⟨refused, after⟩ :=
        visit.after_acting context rendered (acting?_eq scanned continues tagged)
      rw [after, settle_fst, settle_snd_failure?, act_store]
      exact ⟨rfl, fun failure => by simp [act, Flow.failure?]⟩

theorem adds_after : Adds (visit.Renders context) visit.before (visit.after context).1 := by
  unfold after
  have collected := collects visit.before context visit.isLast visit.line
  generalize visit.before.collect context visit.isLast visit.line = taken at collected
  cases collected with
  | unrendered failure => exact .of_eq rfl
  | plain shown unmarked rendered =>
    exact .emit (.plain shown (by rw [visit.code_eq_line unmarked, rendered])) rfl
  | carried code scanned continues rendered followed =>
    rw [← visit.code_eq scanned] at rendered
    exact Adds.emitVisible (.plain code rendered) (rfl : visit.before.output = _)
  | dangling scanned continues last => exact .of_eq rfl
  | idle scanned settled => exact .of_eq rfl
  | acted code scanned settled tagged rendered =>
    rw [settle_fst]
    rw [← visit.code_eq scanned] at rendered
    refine adds_handleTag (.plain code rendered) fun operation made marked applied => ?_
    rw [← visit.made?_eq context scanned settled tagged] at made
    exact .marked operation code marked rendered made applied

theorem output_after :
    (visit.after context).1.output = visit.before.output ++ visit.shown context := by
  obtain ⟨shown, output, -⟩ := visit.adds_after context
  rw [Visit.shown, output, List.drop_left]

theorem renders_of_mem_shown {context : SnippetContext} {visit : Visit} {line : Text}
    (member : line ∈ visit.shown context) : visit.Renders context line := by
  obtain ⟨shown, output, renders⟩ := visit.adds_after context
  rw [Visit.shown, output, List.drop_left] at member
  exact renders line member

end Visit

/-! ## What is open after a line -/

namespace Progress

variable {progress : Progress} {operation : Operation}

theorem mem_operations_closing (progress : Progress) {name : Option Text}
    (member : operation ∈ (progress.closing name).stack.operations) :
    operation ∈ progress.stack.operations := by
  unfold closing at member
  split at member
  · next closed => exact RegionStack.mem_operations_close? closed member
  · exact member

theorem mem_operations_perform {attributes : Attributes} {code : Text} {made : Option Operation}
    (member : operation ∈ (progress.perform attributes code made).1.stack.operations) :
    operation ∈ progress.stack.operations ∨ made = some operation := by
  cases made with
  | none => exact .inl (by rwa [perform, emitVisible_stack] at member)
  | some own =>
    have stack : (progress.perform attributes code (some own)).1.stack =
        (progress.keeping attributes own).stack := by
      cases applied : own.apply code <;> simp [perform, applied]
    rw [stack, keeping] at member
    split at member
    · exact RegionStack.mem_operations_push member
    · exact .inl member

theorem mem_operations_handleTag {context : SnippetContext} {tag : Tag} {body code : Text}
    (member : operation ∈ (progress.handleTag context tag body code).1.stack.operations) :
    operation ∈ progress.stack.operations ∨
      Operation.made? context.toMarkupContext progress.store tag (Attributes.parse tag body).1 =
        some operation := by
  rw [handleTag_eq] at member
  generalize (Attributes.parse tag body).1 = attributes at member ⊢
  generalize refusals tag (Attributes.parse tag body).2 = refused at member
  revert member
  refine act_cases (motive := fun taken => operation ∈ taken.1.stack.operations → _) _ context
    attributes code tag ?starts ?ends ?operates
  case starts =>
    rw [handleStart_eq]
    split
    · exact .inl
    · exact fun member =>
        (RegionStack.mem_operations_push member).imp_right fun made => by cases made
  case ends =>
    rw [handleEnd_eq, finishExtraction_eq]
    split
    · rw [withPhase_stack, emitVisible_stack]
      exact .inl
    · rw [emitVisible_stack]
      exact fun member => .inl (mem_operations_closing (progress.report refused) member)
  case operates =>
    refine handleOperation_cases (motive := fun taken => operation ∈ taken.1.stack.operations → _)
      _ context attributes code tag (fun _ => .inl) fun built made member => ?_
    rw [report_store] at made
    rw [Operation.made?, made]
    rcases mem_operations_perform member with before | own
    · exact .inl before
    · exact .inr own

end Progress

namespace Visit

theorem mem_operations_after {context : SnippetContext} {visit : Visit} {operation : Operation}
    (member : operation ∈ (visit.after context).1.stack.operations) :
    operation ∈ visit.operations context := by
  rw [operations, List.mem_append, Option.mem_toList]
  unfold after at member
  have collected := collects visit.before context visit.isLast visit.line
  generalize visit.before.collect context visit.isLast visit.line = taken at member collected
  cases collected with
  | unrendered failure => exact .inl member
  | plain shown unmarked rendered => exact .inl member
  | carried code scanned continues rendered followed =>
    left
    rwa [carrying, emitVisible_stack] at member
  | dangling scanned continues last => exact .inl member
  | idle scanned settled => exact .inl member
  | acted code scanned settled tagged rendered =>
    rw [settle_fst] at member
    rw [visit.made?_eq context scanned settled tagged]
    exact mem_operations_handleTag member

end Visit

/-! ## Visits of a run -/

namespace Progress

/-- The visits of a run that goes on with some lines. -/
def visits (context : SnippetContext) (closing : Bool) : List Text → Progress × Flow → List Visit
  | line :: rest, (progress, .next) =>
    let isLast := closing && rest.isEmpty
    let later := visits context closing rest (progress.step context isLast line)
    if progress.phase = .awaiting then later
    else ⟨progress.carrying none, progress.withCarried line, isLast⟩ :: later
  | _, _ => []

/-- The visits of a run over a whole snippet. -/
def allVisits (context : SnippetContext) (store : ReferenceStore) (lines : List Text) :
    List Visit :=
  visits context true lines (initial context.region store, .next)

variable {context : SnippetContext} {closing : Bool}

theorem visits_ended {taken : Progress × Flow} (ended : taken.2 ≠ .next) (lines : List Text) :
    visits context closing lines taken = [] := by
  obtain ⟨progress, flow⟩ := taken
  cases lines with
  | nil => rfl
  | cons line rest =>
    cases flow with
    | next => exact (ended rfl).elim
    | stop => rfl
    | fail failure => rfl

/-- What a run does to a part of the state, it does at the lines that it visits, if that part is
left alone while a region is awaited. -/
theorem view_takeLines {α : Type} (view : Progress → α) (act : α → Visit → α)
    (uncarried : ∀ progress, view (progress.carrying none) = view progress)
    (awaited : ∀ progress line, view (progress.await context line) = view progress)
    (acted : ∀ visit : Visit, view (visit.after context).1 = act (view visit.before) visit)
    (lines : List Text) (progress : Progress) :
    view (takeLines context closing lines progress).1 =
      (visits context closing lines (progress, .next)).foldl act (view progress) := by
  induction lines generalizing progress with
  | nil => rfl
  | cons line rest ih =>
    -- Behind a line that ends the run nothing is visited, and nothing is done.
    have goesOn (taken : Progress × Flow) :
        view (continueWith taken (takeLines context closing rest)).1 =
          (visits context closing rest taken).foldl act (view taken.1) := by
      obtain ⟨later, flow⟩ := taken
      cases flow with
      | next => exact ih later
      | stop => simp [visits_ended]
      | fail failure => simp [visits_ended]
    rw [takeLines_cons, goesOn, visits]
    split
    · next awaiting => rw [step_awaiting progress awaiting, awaited, uncarried]
    · next collecting =>
      rw [step_collecting progress collecting, List.foldl_cons, ← uncarried progress]
      exact congrArg (List.foldl act · _) (acted
        ⟨progress.carrying none, progress.withCarried line, closing && rest.isEmpty⟩)

/-- All that a run puts out, it puts out for the lines that it visits. -/
theorem output_takeLines (lines : List Text) (progress : Progress) :
    (takeLines context closing lines progress).1.output =
      progress.output ++ (visits context closing lines (progress, .next)).flatMap
        (·.shown context) := by
  rw [List.flatMap_def, ← List.foldl_append_eq_append]
  exact view_takeLines (·.output) (fun output visit => output ++ visit.shown context)
    (fun _ => rfl) (fun progress line => await_output progress context line)
    (fun visit => visit.output_after context) lines progress

/-- A run is cut at each line that it visits into the run up to it and the run after it. -/
theorem exists_run_of_mem_visits {visit : Visit} {lines : List Text} {progress : Progress}
    (visited : visit ∈ visits context closing lines (progress, .next)) :
    ∃ first rest later, takeLines context false first progress = (later, .next) ∧
      later.phase ≠ .awaiting ∧ visit.before = later.carrying none ∧
      takeLines context closing lines progress =
        continueWith (visit.after context) (takeLines context closing rest) := by
  induction lines generalizing progress with
  | nil => simp [visits] at visited
  | cons line rest ih =>
    by_cases here : progress.phase ≠ .awaiting ∧
        visit = ⟨progress.carrying none, progress.withCarried line, closing && rest.isEmpty⟩
    · obtain ⟨collecting, rfl⟩ := here
      refine ⟨[], rest, progress, rfl, collecting, rfl, ?_⟩
      rw [takeLines_cons, step_collecting progress collecting]
      rfl
    · have later : visit ∈ visits context closing rest
          (progress.step context (closing && rest.isEmpty) line) := by
        rw [visits] at visited
        split at visited
        · exact visited
        · next collecting =>
          exact (List.mem_cons.1 visited).resolve_left fun same => here ⟨collecting, same⟩
      -- There is a line after this one, so that this one is not the last.
      have followed : rest.isEmpty = false := by
        cases rest with
        | nil => simp [visits] at later
        | cons => rfl
      rw [followed, Bool.and_false] at later
      rw [takeLines_cons, followed, Bool.and_false]
      rcases taken : progress.step context false line with ⟨middle, flow⟩
      rw [taken] at later
      cases flow with
      | next =>
        obtain ⟨first, after, reached, run, collecting, before, goesOn⟩ := ih later
        refine ⟨line :: first, after, reached, ?_, collecting, before, goesOn⟩
        rw [takeLines_cons, Bool.false_and, taken, continueWith_next, run]
      | stop => simp [visits_ended] at later
      | fail failure => simp [visits_ended] at later

/-- What holds of the operations that tags make holds of all that act on a line. -/
theorem forall_operations_visits {holds : Operation → Prop} {lines : List Text}
    {taken : Progress × Flow}
    (before : ∀ operation ∈ taken.1.stack.operations, holds operation)
    (made : ∀ visit ∈ visits context closing lines taken, ∀ operation ∈ visit.made? context,
      holds operation) :
    ∀ visit ∈ visits context closing lines taken, ∀ operation ∈ visit.operations context,
      holds operation := by
  induction lines generalizing taken with
  | nil => simp [visits]
  | cons line rest ih =>
    obtain ⟨progress, flow⟩ := taken
    by_cases goesOn : flow = .next
    · subst goesOn
      rw [visits] at made ⊢
      dsimp only at made ⊢ before
      split
      · next awaiting =>
        rw [if_pos awaiting] at made
        refine ih (fun operation member => before operation ?_) made
        rw [step_awaiting progress awaiting] at member
        rwa [await_stack] at member
      · next collecting =>
        rw [if_neg collecting, List.forall_mem_cons] at made
        rw [List.forall_mem_cons]
        -- What is open after a line was open before it, or is what the tag of the line has made.
        have here : ∀ operation ∈ Visit.operations context
            ⟨progress.carrying none, progress.withCarried line, closing && rest.isEmpty⟩,
              holds operation := by
          intro operation member
          rcases List.mem_append.1 member with opened | own
          · exact before operation opened
          · exact made.1 operation (Option.mem_toList.1 own)
        refine ⟨here, ih (fun operation member => here operation ?_) made.2⟩
        rw [step_collecting progress collecting] at member
        exact Visit.mem_operations_after member
    · have nothing : visits context closing (line :: rest) (progress, flow) = [] :=
        visits_ended goesOn _
      rw [nothing]
      exact List.forall_mem_nil _

theorem output_parse (store : ReferenceStore) (lines : List Text) :
    ((initial context.region store).parse context lines).1.output =
      (allVisits context store lines).flatMap (·.shown context) := by
  rw [parse_initial, outcome_output, output_takeLines]
  rfl

theorem forall_operations_allVisits {holds : Operation → Prop} {store : ReferenceStore}
    {lines : List Text}
    (made : ∀ visit ∈ allVisits context store lines, ∀ operation ∈ visit.made? context,
      holds operation) :
    ∀ visit ∈ allVisits context store lines, ∀ operation ∈ visit.operations context,
      holds operation :=
  forall_operations_visits (by simp [initial, RegionStack.mem_operations_iff]) made

end Progress

end SnippetMarkup
