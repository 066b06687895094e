import Mathlib
import SnippetMarkup.Proofs.Operation.Indentation
import SnippetMarkup.Proofs.Snippet.Completion
import SnippetMarkup.Proofs.Snippet.Extraction
import SnippetMarkup.Proofs.Snippet.Linking
import SnippetMarkup.Proofs.Snippet.Rendering

/-!
# Indented snippets

A run over lines with white space in front takes the same steps as a run over the lines: it opens and
closes the same regions, stores the same references and reports the same.  As long as no operation
takes a whole line, each line is put out with the white space in front, and the text is the same
without the indentation that its lines share.  A whole line is marked together with its indentation,
which is then not taken off.
-/

namespace SnippetMarkup

open Html

namespace Progress

/-! ## Lines with white space in front -/

section Rendering

variable {attrName space : Text} {progress : Progress}

theorem trimRight_render {line rendered : Text} (renders : progress.render line = .ok rendered) :
    Text.trimRight rendered = rendered := by
  obtain ⟨marked, -, rfl⟩ := exists_applyAll_of_render renders
  exact Text.trimRight_trimRight marked

theorem markAll_escape_append
    (anchored : ∀ operation ∈ progress.stack.operations, operation.scope.Anchored)
    (blank : Text.isBlank space) (line : Text) :
    Operation.markAll (escape (space ++ line)) progress.stack.operations =
      space ++ Operation.markAll (escape line) progress.stack.operations := by
  rw [escape_append, escape_of_isBlank blank, Operation.markAll_append anchored blank]

end Rendering

theorem withCarried_append (progress : Progress) (space line : Text) :
    progress.withCarried (space ++ line) = space ++ progress.withCarried line := by
  unfold withCarried
  split
  · rfl
  · simp

theorem await_append {space : Text} (blank : Text.isBlank space) (progress : Progress)
    (context : SnippetContext) (line : Text) :
    progress.await context (space ++ line) = progress.await context line := by
  rw [await_eq, await_eq, MarkupComment.scan_append_of_isBlank blank]
  cases MarkupComment.scan line <;> rfl

/-! ## Runs beside each other -/

def withOutput (output : List Text) (progress : Progress) : Progress :=
  { progress with output := output }

/-- Results that differ in what has been put out only.  If they are tied, each line of the first is
indented in the second. -/
def Beside (tied : Prop) (space : Text) (first second : Progress × Flow) : Prop :=
  ∃ output, second = (first.1.withOutput output, first.2) ∧
    (tied → output = first.1.output.map (Text.indent space))

namespace Beside

variable {tied : Prop} {space : Text} {progress : Progress} {flow : Flow}

theorem of_fresh {taken : Progress × Flow} (fresh : taken.1.output = []) :
    Beside tied space taken taken :=
  ⟨[], by rw [← fresh]; rfl, fun _ => by rw [fresh]; rfl⟩

theorem withPhase {first second : Progress} (beside : Beside tied space (first, flow) (second, flow))
    (phase : Phase) : Beside tied space (first.withPhase phase, flow) (second.withPhase phase, flow) := by
  obtain ⟨output, same, moves⟩ := beside
  obtain rfl := (Prod.mk.inj same).1
  exact ⟨output, rfl, moves⟩

theorem carrying {first second : Progress} (beside : Beside tied space (first, flow) (second, flow))
    (carried : Option CarriedComment) :
    Beside tied space (first.carrying carried, flow) (second.carrying carried, flow) := by
  obtain ⟨output, same, moves⟩ := beside
  obtain rfl := (Prod.mk.inj same).1
  exact ⟨output, rfl, moves⟩

theorem settle {first second : Progress × Flow} (beside : Beside tied space first second) :
    Beside tied space (Progress.settle first) (Progress.settle second) := by
  obtain ⟨output, rfl, moves⟩ := beside
  obtain ⟨progress, flow⟩ := first
  cases flow with
  | next => exact ⟨output, rfl, moves⟩
  | stop => exact ⟨output, rfl, moves⟩
  | fail failure => exact ⟨output, rfl, moves⟩

section Fresh

variable (fresh : progress.output = []) {line moved : Text}
  (moves : tied → moved = Text.indent space line)
include fresh moves

theorem emit : Beside tied space (progress.emit line, flow) (progress.emit moved, flow) := by
  refine ⟨[moved], ?_, fun holds => ?_⟩
  · rw [Progress.emit, fresh]
    rfl
  · rw [Progress.emit, fresh, moves holds]
    rfl

theorem emitVisible (blank : Text.isBlank space) :
    Beside tied space (progress.emitVisible line, flow) (progress.emitVisible moved, flow) := by
  have shown (text : Text) : progress.emitVisible text =
      progress.withOutput (if Text.isBlank text then [] else [text]) := by
    unfold Progress.emitVisible
    split
    · rw [withOutput, ← fresh]
    · rw [Progress.emit, fresh]
      rfl
  refine ⟨if Text.isBlank moved then [] else [moved], ?_, fun holds => ?_⟩
  · rw [shown, shown]
    rfl
  · rw [shown, moves holds, Text.isBlank_indent blank, withOutput]
    split <;> rfl

theorem handleEnd (blank : Text.isBlank space) (context : SnippetContext)
    (attributes : Attributes) :
    Beside tied space (progress.handleEnd context attributes line, flow)
      (progress.handleEnd context attributes moved, flow) := by
  rw [handleEnd_eq, handleEnd_eq]
  split
  · exact (emitVisible fresh moves blank).withPhase .finished
  · exact emitVisible ((closing_output progress _).trans fresh) moves blank

theorem perform {attrName : Text} {made : Option Operation} (blank : Text.isBlank space)
    (trimmed : Text.trimRight line = line)
    (marking : ∀ operation ∈ made, Operation.Marking attrName operation)
    (anchored : tied → ∀ operation ∈ made, operation.scope.Anchored) (attributes : Attributes) :
    Beside tied space (progress.perform attributes line made)
      (progress.perform attributes moved made) := by
  cases made with
  | none => exact emitVisible fresh moves blank
  | some operation =>
    simp only [Progress.perform, (marking operation rfl).apply_eq]
    refine emitVisible ((keeping_output progress attributes operation).trans fresh)
      (fun holds => ?_) blank
    have own := anchored holds operation rfl
    rw [moves holds]
    exact Text.trimRight_indent operation.mark (Operation.mark_append own blank)
      (Operation.mark_nil own) blank trimmed

theorem handleOperation {attrName : Text} {context : SnippetContext} {tag : Tag}
    {attributes : Attributes} (blank : Text.isBlank space) (trimmed : Text.trimRight line = line)
    (marking : ∀ operation ∈
      Operation.made? context.toMarkupContext progress.store tag attributes,
        Operation.Marking attrName operation)
    (anchored : tied → ∀ operation ∈
      Operation.made? context.toMarkupContext progress.store tag attributes,
        operation.scope.Anchored) :
    Beside tied space (progress.handleOperation context tag attributes line)
      (progress.handleOperation context tag attributes moved) := by
  rw [handleOperation_eq, handleOperation_eq]
  unfold Operation.made? at marking anchored
  cases built : Operation.build context.toMarkupContext tag attributes progress.store with
  | error failure => exact of_fresh fresh
  | ok made =>
    rw [built] at marking anchored
    have stored : ((progress.report made.journal).withStore made.store).output = [] := fresh
    exact perform stored moves blank trimmed marking anchored attributes

theorem handleTag {attrName : Text} {context : SnippetContext} {tag : Tag} {body : Text}
    (blank : Text.isBlank space) (trimmed : Text.trimRight line = line)
    (marking : ∀ operation ∈ Operation.made? context.toMarkupContext progress.store tag
      (Attributes.parse tag body).1, Operation.Marking attrName operation)
    (anchored : tied → ∀ operation ∈ Operation.made? context.toMarkupContext progress.store tag
      (Attributes.parse tag body).1, operation.scope.Anchored) :
    Beside tied space (progress.handleTag context tag body line)
      (progress.handleTag context tag body moved) := by
  rw [handleTag_eq, handleTag_eq]
  have reported : (progress.report (refusals tag (Attributes.parse tag body).2)).output = [] :=
    fresh
  cases tag with
  | start =>
    refine of_fresh ?_
    rw [act, handleStart_eq]
    split <;> exact reported
  | finish => exact handleEnd reported moves blank context _
  | highlight => exact handleOperation reported moves blank trimmed marking anchored
  | replace => exact handleOperation reported moves blank trimmed marking anchored
  | link => exact handleOperation reported moves blank trimmed marking anchored

end Fresh

end Beside

end Progress

/-! ## Steps -/

open Progress

/-- A line on which nothing is replaced, and on which nothing is marked, if that is required, but
texts that begin with something visible. -/
structure Visit.Markable (context : SnippetContext) (tied : Prop) (visit : Visit) : Prop where
  marking : ∀ operation ∈ visit.operations context,
    Operation.Marking context.linkAttribute operation
  anchored : tied → ∀ operation ∈ visit.operations context, operation.scope.Anchored

namespace Visit

variable {context : SnippetContext} {tied : Prop} {space : Text} {visit : Visit}

theorem beside_after (markable : visit.Markable context tied)
    (fresh : visit.before.output = []) (blank : Text.isBlank space) :
    Beside tied space (visit.after context)
      (visit.before.collect context visit.isLast (space ++ visit.line)) := by
  have rendered := render_eq_markAll fun operation opened =>
    markable.marking operation (List.mem_append_left _ opened)
  have anchored (holds : tied) : ∀ operation ∈ visit.before.stack.operations,
      operation.scope.Anchored := fun operation opened =>
    markable.anchored holds operation (List.mem_append_left _ opened)
  have scannedToo := MarkupComment.scan_append_of_isBlank blank visit.line
  unfold after
  cases scanned : MarkupComment.scan visit.line with
  | none =>
    rw [scanned, Option.map_none] at scannedToo
    rw [collect_plain _ scanned, collect_plain _ scannedToo, rendered, rendered]
    refine Beside.emit fresh fun holds => ?_
    rw [markAll_escape_append (anchored holds) blank, Text.indent,
      Text.trimRight_append_trimRight]
  | some comment =>
    rw [scanned, Option.map_some] at scannedToo
    have moves (holds : tied) := Text.trimRight_indent
      (fun line => Operation.markAll (escape line) visit.before.stack.operations)
      (markAll_escape_append (anchored holds) blank) (Operation.markAll_nil (anchored holds)) blank
      (MarkupComment.trimRight_code scanned)
    cases continues : comment.continues with
    | true =>
      rw [collect_carrying _ scanned continues, collect_carrying _ scannedToo continues, rendered,
        rendered]
      cases visit.isLast with
      | true => exact .of_fresh fresh
      | false => exact (Beside.emitVisible fresh moves blank).carrying _
    | false =>
      cases tagged : Tag.ofBody? comment.body with
      | none =>
        rw [collect_idle _ scanned continues tagged, collect_idle _ scannedToo continues tagged,
          rendered, rendered]
        exact .of_fresh fresh
      | some tag =>
        have made := visit.made?_eq context scanned continues tagged
        have own {operation : Operation} (member : operation ∈ Operation.made?
            context.toMarkupContext visit.before.store tag (Attributes.parse tag comment.body).1) :
            operation ∈ visit.operations context :=
          List.mem_append_right _ (Option.mem_toList.2 (made ▸ member))
        rw [collect_acting _ scanned continues tagged, collect_acting _ scannedToo continues tagged,
          rendered, rendered]
        exact (Beside.handleTag fresh moves blank (Text.trimRight_trimRight _)
          (fun operation member => markable.marking operation (own member))
          fun holds operation member => markable.anchored holds operation (own member)).settle

end Visit

namespace Progress

variable {context : SnippetContext} {tied : Prop} {space : Text}

theorem beside_step {progress : Progress} {isLast : Bool} {line : Text}
    (fresh : progress.output = []) (blank : Text.isBlank space)
    (markable : progress.phase ≠ .awaiting →
      Visit.Markable context tied ⟨progress.carrying none, progress.withCarried line, isLast⟩) :
    Beside tied space (progress.step context isLast line)
      (progress.step context isLast (space ++ line)) := by
  by_cases awaiting : progress.phase = .awaiting
  · rw [step_awaiting progress awaiting, step_awaiting progress awaiting, withCarried_append,
      await_append blank]
    exact .of_fresh ((await_output _ context _).trans fresh)
  · rw [step_collecting progress awaiting, step_collecting progress awaiting, withCarried_append]
    exact Visit.beside_after (markable awaiting) fresh blank

/-- What has been put out before a step plays no part in it. -/
theorem step_withOutput (progress : Progress) (output : List Text) (isLast : Bool) (line : Text) :
    (progress.withOutput output).step context isLast line =
      (((progress.withOutput []).step context isLast line).1.preceded output [],
        ((progress.withOutput []).step context isLast line).2) := by
  have cut : progress.withOutput output = (progress.withOutput []).preceded output [] := by
    simp [withOutput, preceded]
  rw [cut, step_preceded]

theorem Beside.step {first second : Progress}
    (beside : Beside tied space (first, .next) (second, .next)) {isLast : Bool} {line : Text}
    (blank : Text.isBlank space)
    (markable : first.phase ≠ .awaiting →
      Visit.Markable context tied ⟨first.carrying none, first.withCarried line, isLast⟩) :
    Beside tied space (first.step context isLast line)
      (second.step context isLast (space ++ line)) := by
  obtain ⟨output, same, moves⟩ := beside
  obtain rfl := (Prod.mk.inj same).1
  have here (collecting : first.phase ≠ .awaiting) : Visit.Markable context tied
      ⟨(first.withOutput []).carrying none, (first.withOutput []).withCarried line, isLast⟩ :=
    ⟨(markable collecting).marking, (markable collecting).anchored⟩
  obtain ⟨shown, step, shifts⟩ : Beside tied space ((first.withOutput []).step context isLast line)
      ((first.withOutput []).step context isLast (space ++ line)) := beside_step rfl blank here
  have own : first.step context isLast line = _ := step_withOutput first first.output isLast line
  rw [own, step_withOutput first output isLast, step]
  refine ⟨output ++ shown, rfl, fun holds => ?_⟩
  rw [preceded_output, List.map_append, ← shifts holds, moves holds]

/-! ## Runs -/

/-- Runs over lines and over the same lines with white space in front stay beside each other. -/
theorem beside_takeLines {closing : Bool} {lines : List Text} (blank : Text.isBlank space)
    {first second : Progress} (beside : Beside tied space (first, .next) (second, .next))
    (markable : ∀ visit ∈ visits context closing lines (first, .next),
      visit.Markable context tied) :
    Beside tied space (takeLines context closing lines first)
      (takeLines context closing (lines.map (space ++ ·)) second) := by
  induction lines generalizing first second with
  | nil => exact beside
  | cons line rest ih =>
    have stepped : Beside tied space (first.step context (closing && rest.isEmpty) line)
        (second.step context (closing && rest.isEmpty) (space ++ line)) := by
      refine beside.step blank fun collecting => ?_
      rw [visits, if_neg collecting, List.forall_mem_cons] at markable
      exact markable.1
    have followed : ∀ visit ∈ visits context closing rest
        (first.step context (closing && rest.isEmpty) line), visit.Markable context tied := by
      intro visit member
      rw [visits] at markable
      split at markable
      · exact markable visit member
      · exact markable visit (List.mem_cons_of_mem _ member)
    rw [List.map_cons, takeLines_cons, takeLines_cons, List.isEmpty_map]
    generalize first.step context (closing && rest.isEmpty) line = taken at stepped followed ⊢
    obtain ⟨shown, step, shifts⟩ := stepped
    rw [step]
    obtain ⟨later, flow⟩ := taken
    cases flow with
    | next => exact ih ⟨shown, rfl, shifts⟩ followed
    | stop => exact ⟨shown, rfl, shifts⟩
    | fail failure => exact ⟨shown, rfl, shifts⟩

end Progress

/-! ## Output lines without line feeds -/

theorem Operation.exists_reference_of_made? {context : MarkupContext} {store : ReferenceStore}
    {tag : Tag} {attributes : Attributes} {scope : Scope} {attrName id : Text}
    (made : made? context store tag attributes = some (.link scope attrName id)) :
    ∃ reference, id = (store.put reference).1 := by
  have here : context.movedTo context.origin = context := rfl
  rw [made?, ← here] at made
  cases makes context attributes tag with
  | fails failure fails => simp [fails] at made
  | plain operation journal ofLine alike unlinked plain =>
    rw [plain] at made
    exact (unlinked _ made trivial).elim
  | linked own target reference _ limits resolved linked =>
    rw [linked] at made
    exact ⟨reference, (Operation.link.inj (Option.some.inj made)).2.2.symm⟩

/-- The markers of an operation have no line feed in them if the names in them have none. -/
theorem Operation.lineFeed_notMem_markers {context : MarkupContext} {store : ReferenceStore}
    {tag : Tag} {attributes : Attributes} {operation : Operation}
    (linkOneLine : '\n' ∉ context.linkAttribute) (idsOneLine : store.OneLine)
    (unreplaced : tag ≠ .replace) (made : made? context store tag attributes = some operation) :
    '\n' ∉ operation.wrapper [] := by
  obtain ⟨marking, -⟩ := marking_of_made? made unreplaced
  cases marking with
  | highlight scope style =>
    have plain : ∀ style : Style, '\n' ∉ wrapStyle style [] := by rintro ⟨⟩ <;> decide
    exact plain style
  | link scope id =>
    obtain ⟨reference, rfl⟩ := exists_reference_of_made? made
    have idOneLine := lineFeed_notMem_escape (idsOneLine.put reference).1
    simp [wrapper, wrapAnchor, anchorOpening, anchorClosing, linkOneLine, idOneLine]

theorem carriedOn?_oneLine {line : Text} (oneLine : '\n' ∉ line) :
    ∀ comment ∈ carriedOn? line, '\n' ∉ comment.body := by
  intro carried left
  obtain ⟨comment, scanned, left⟩ := Option.bind_eq_some_iff.1 left
  obtain ⟨-, same⟩ := Option.ite_none_right_eq_some.1 left
  obtain rfl := Option.some.inj same
  exact fun member => MarkupComment.body_oneLine scanned oneLine (List.mem_of_mem_dropLast member)

namespace Visit

variable {context : SnippetContext} {visit : Visit}

theorem code_subset (visit : Visit) : visit.code ⊆ visit.line := by
  cases scanned : MarkupComment.scan visit.line with
  | none =>
    rw [code, scanned]
    exact List.Subset.refl _
  | some comment =>
    rw [visit.code_eq scanned]
    simpa using MarkupComment.code_subset scanned

/-- A line is put out without white space at its end, and without line feeds if it has none and the
markers on it have none. -/
theorem shown_of_renders {tied : Prop} {line : Text} (markable : visit.Markable context tied)
    (oneLine : '\n' ∉ visit.line)
    (markers : ∀ operation ∈ visit.operations context, '\n' ∉ operation.wrapper [])
    (renders : visit.Renders context line) : Text.trimRight line = line ∧ '\n' ∉ line := by
  have codeOneLine : '\n' ∉ escape visit.code :=
    lineFeed_notMem_escape fun member => oneLine (visit.code_subset member)
  have plain {rendered : Text} (shows : visit.before.render visit.code = .ok rendered) :
      '\n' ∉ rendered := by
    have opened {operation : Operation} (member : operation ∈ visit.before.stack.operations) :
        operation ∈ visit.operations context := List.mem_append_left _ member
    rw [render_eq_markAll fun operation member => markable.marking operation (opened member),
      Except.ok.injEq] at shows
    intro member
    rw [← shows] at member
    exact Operation.notMem_markAll
      (fun operation member => markable.marking operation (opened member))
      (fun operation member => markers operation (opened member)) codeOneLine
      (Text.trimRight_subset _ member)
  cases renders with
  | plain shown rendered => exact ⟨trimRight_render rendered, plain rendered⟩
  | marked operation code marked rendered made applied =>
    have own : operation ∈ visit.operations context :=
      List.mem_append_right _ (Option.mem_toList.2 made)
    have marking := markable.marking operation own
    rw [marking.apply_eq, Except.ok.injEq] at applied
    refine ⟨Text.trimRight_trimRight marked, fun member => ?_⟩
    rw [← applied] at member
    have inside := Operation.mark_subset marking code (Text.trimRight_subset _ member)
    exact (List.mem_append.1 inside).elim (plain rendered) (markers operation own)

end Visit

namespace Progress

variable {context : SnippetContext} {closing : Bool} {space : Text} {store : ReferenceStore}
  {lines : List Text}

theorem oneLine_of_mem_visits {progress : Progress}
    (carried : ∀ comment ∈ progress.carried, '\n' ∉ comment.body)
    (oneLine : ∀ line ∈ lines, '\n' ∉ line) :
    ∀ visit ∈ visits context closing lines (progress, .next), '\n' ∉ visit.line := by
  induction lines generalizing progress with
  | nil => simp [visits]
  | cons line rest ih =>
    rw [List.forall_mem_cons] at oneLine
    have whole : '\n' ∉ progress.withCarried line := by
      unfold withCarried
      split
      · exact oneLine.1
      · next comment left =>
        have introduced : '\n' ∉ comment.introducer.written := by
          cases comment.introducer <;> decide
        simp [oneLine.1, introduced, carried comment left]
    have later (taken : Progress × Flow)
        (left : taken.2 = .next → ∀ comment ∈ taken.1.carried, '\n' ∉ comment.body) :
        ∀ visit ∈ visits context closing rest taken, '\n' ∉ visit.line := by
      obtain ⟨progress, flow⟩ := taken
      by_cases goesOn : flow = .next
      · subst goesOn
        exact ih (left rfl) oneLine.2
      · rw [visits_ended goesOn]
        exact List.forall_mem_nil _
    rw [visits]
    split
    · next awaiting =>
      refine later _ fun _ => ?_
      rw [step_awaiting progress awaiting, await_carried]
      exact fun comment left => (Option.not_mem_none comment left).elim
    · next collecting =>
      rw [List.forall_mem_cons]
      refine ⟨whole, later _ fun goesOn => ?_⟩
      rw [step_collecting progress collecting] at goesOn ⊢
      rw [collect_carried context _ _ _ rfl goesOn]
      exact carriedOn?_oneLine whole

/-! ## Snippets -/

theorem failure?_of_markable {tied : Prop} {progress : Progress}
    (markable : ∀ visit ∈ visits context closing lines (progress, .next),
      visit.Markable context tied)
    (unrefused : ∀ visit ∈ visits context closing lines (progress, .next),
      ∀ acts ∈ acting? visit.line, acts.2.value? .regex = none) :
    (takeLines context closing lines progress).2.failure? = none := by
  by_contra failed
  obtain ⟨failure, failed⟩ := Option.ne_none_iff_exists'.1 failed
  obtain ⟨visit, visited, fails⟩ := (failure?_takeLines lines progress).1 failed
  have proper {operation : Operation} {line : Text} (own : operation ∈ visit.operations context) :
      ¬Operation.Overruns operation line failure := by
    intro overruns
    have marking := (markable visit visited).marking operation own
    cases overruns with
    | replace => cases marking
  cases fails with
  | opened inTurn leaves overruns =>
    exact proper (List.mem_append_left _ (inTurn ▸ by simp)) overruns
  | refused rendered acts reads given refuses unreported =>
    simp [unrefused visit visited _ acts] at given
  | made rendered makes overruns =>
    exact proper (List.mem_append_right _ (Option.mem_toList.2 makes)) overruns

theorem outcome_warnings_withOutput (count : Nat) (taken : Progress × Flow) (output : List Text) :
    (outcome context count (taken.1.withOutput output, taken.2)).1.journal.warnings =
      (outcome context count taken).1.journal.warnings := by
  unfold outcome
  split
  · next failed =>
    rw [failed]
    rfl
  · next completes =>
    rw [completes, concluded_warnings, concluded_warnings]
    rfl

/-- No operation that a tag makes takes a whole line. -/
def Piecewise (context : SnippetContext) (store : ReferenceStore) (lines : List Text) : Prop :=
  ∀ visit ∈ allVisits context store lines, ∀ operation ∈ visit.made? context,
    operation.scope.isWholeLine = false

instance (context : SnippetContext) (store : ReferenceStore) (lines : List Text) :
    Decidable (Piecewise context store lines) :=
  inferInstanceAs (Decidable (∀ visit ∈ _, _))

theorem markable_of_visible
    (unreplaced : ∀ visit ∈ allVisits context store lines, actingTag? visit.line ≠ some .replace)
    (unrefused : ∀ visit ∈ allVisits context store lines, ∀ acts ∈ acting? visit.line,
      acts.2.value? .regex = none)
    (visible : ∀ visit ∈ allVisits context store lines, ∀ acts ∈ acting? visit.line,
      ∀ part ∈ acts.2.value? .substring, Text.startsVisible part) :
    ∀ visit ∈ allVisits context store lines,
      visit.Markable context (Piecewise context store lines) := by
  refine fun visit visited => ⟨marking_of_unreplaced unreplaced visit visited, fun piecewise => ?_⟩
  refine forall_operations_allVisits (fun visit visited operation made => ?_) visit visited
  obtain ⟨acts, acting, -, limits⟩ := Visit.exists_acting_of_made? (unreplaced visit visited) made
  rw [Scope.ofAttributes, unrefused visit visited acts acting] at limits
  have limited := piecewise visit visited operation made
  rw [← Except.ok.inj (Except.ok.inj limits)] at limited ⊢
  obtain ⟨part, given⟩ : ∃ part, acts.2.value? .substring = some part :=
    Option.isSome_iff_exists.1 (by simpa [Scope.isWholeLine] using limited)
  obtain ⟨first, others, rfl, shown⟩ :=
    Text.exists_cons_of_startsVisible (visible visit visited acts acting part given)
  exact ⟨⟨first, others, given, shown⟩, rfl⟩

/-- White space in front of all lines of a snippet changes nothing in what is reported, if nothing is
replaced and no tag has a pattern or a text that begins with white space; and if no operation takes a
whole line, it changes nothing in the text. -/
theorem parse_indented (blank : Text.isBlank space) (spaceOneLine : '\n' ∉ space)
    (oneLine : ∀ line ∈ lines, '\n' ∉ line) (linkOneLine : '\n' ∉ context.linkAttribute)
    (idsOneLine : store.OneLine)
    (unreplaced : ∀ visit ∈ allVisits context store lines, actingTag? visit.line ≠ some .replace)
    (unrefused : ∀ visit ∈ allVisits context store lines, ∀ acts ∈ acting? visit.line,
      acts.2.value? .regex = none)
    (visible : ∀ visit ∈ allVisits context store lines, ∀ acts ∈ acting? visit.line,
      ∀ part ∈ acts.2.value? .substring, Text.startsVisible part) :
    let plain := (initial context.region store).parse context lines
    let indented := (initial context.region store).parse context (lines.map (space ++ ·))
    plain.2 = none ∧ indented.2 = none ∧
      indented.1.journal.warnings = plain.1.journal.warnings ∧
      (Piecewise context store lines → indented.1.text = plain.1.text) := by
  have markable := markable_of_visible unreplaced unrefused visible
  have completes := failure?_of_markable markable unrefused
  have begun : Beside (Piecewise context store lines) space
      (initial context.region store, .next) (initial context.region store, .next) := .of_fresh rfl
  obtain ⟨output, run, moves⟩ := beside_takeLines blank begun markable
  have whole : ((initial context.region store).parse context lines).1.output = _ :=
    output_parse store lines
  simp only [parse_initial, run, List.length_map, outcome_failure, completes] at whole ⊢
  refine ⟨trivial, trivial, outcome_warnings_withOutput _ _ _, fun piecewise => ?text⟩
  case text =>
    have shown : ∀ line ∈ (takeLines context true lines (initial context.region store)).1.output,
        Text.trimRight line = line ∧ '\n' ∉ line := by
      intro line member
      rw [← outcome_output context lines.length, whole] at member
      obtain ⟨visit, visited, member⟩ := List.mem_flatMap.1 member
      refine Visit.shown_of_renders (markable visit visited) ?_ ?_
        (Visit.renders_of_mem_shown member)
      · exact oneLine_of_mem_visits (by simp [initial]) oneLine visit visited
      · refine forall_operations_allVisits (fun visit visited operation made => ?_) visit visited
        obtain ⟨⟨tag, attributes⟩, acting, made⟩ := Option.bind_eq_some_iff.1 made
        obtain ⟨references, stored⟩ := exists_putAll_of_mem_visits visited
        refine Operation.lineFeed_notMem_markers linkOneLine (stored ▸ idsOneLine.putAll references)
          (fun replaces => unreplaced visit visited ?_) made
        rw [actingTag?_of_acting? acting, replaces]
    rw [text, text, outcome_output, outcome_output, moves piecewise]
    exact Text.trimIndent_indent blank spaceOneLine (fun line member => (shown line member).1)
      fun line member => (shown line member).2

/-- A region is marked and one of its lines linked, behind a tab and a space. -/
theorem parse_indented_linked :
    let context : SnippetContext :=
      { targets := some { entries := [(['T'], "pkg/T".toList)] } }
    let space := ['\t', ' ']
    let lines := ["f(a): // @highlight region=r substring=f type=italic".toList,
      "  g(f) & f // @link substring=g target=T".toList, "".toList,
      "f // @end region=r".toList, "  # @end".toList]
    let plain := (initial none {}).parse context lines
    let indented := (initial none {}).parse context (lines.map (space ++ ·))
    Piecewise context {} lines ∧ plain.2 = none ∧ indented.2 = none ∧
      indented.1.journal.warnings = plain.1.journal.warnings ∧
      indented.1.text = plain.1.text := by
  intro context space lines plain indented
  have piecewise : Piecewise context {} lines := by decide +kernel
  have unreplaced : ∀ visit ∈ allVisits context {} lines,
      actingTag? visit.line ≠ some .replace := by decide +kernel
  have unrefused : ∀ visit ∈ allVisits context {} lines, ∀ acts ∈ acting? visit.line,
      acts.2.value? .regex = none := by decide +kernel
  have visible : ∀ visit ∈ allVisits context {} lines, ∀ acts ∈ acting? visit.line,
      ∀ part ∈ acts.2.value? .substring, Text.startsVisible part := by decide +kernel
  have blank : Text.isBlank space := by decide
  obtain ⟨completes, completesToo, warnings, text⟩ := parse_indented blank (by decide) (by decide)
    (by decide) (by decide) unreplaced unrefused visible
  exact ⟨piecewise, completes, completesToo, warnings, text piecewise⟩

/-- A whole line is marked with the white space in front of it, and this is then no part of the
indentation that the lines share. -/
theorem parse_indented_whole :
    let space := [' ', ' ']
    let lines := ["a // @highlight".toList, "b".toList]
    (Text.isBlank space ∧ '\n' ∉ space ∧ ∀ line ∈ lines, '\n' ∉ line) ∧
      (∀ visit ∈ allVisits {} {} lines, actingTag? visit.line ≠ some .replace ∧
        ∀ acts ∈ acting? visit.line, acts.2.value? .regex = none ∧
          ∀ part ∈ acts.2.value? .substring, Text.startsVisible part) ∧
      ((initial none {}).parse {} lines).1.text = "<b>a</b>\nb".toList ∧
      ((initial none {}).parse {} (lines.map (space ++ ·))).1.text =
        "<b>  a</b>\n  b".toList := by
  decide +kernel

end Progress

end SnippetMarkup
