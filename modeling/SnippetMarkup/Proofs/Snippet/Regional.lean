import Mathlib
import SnippetMarkup.Proofs.Markup.Appending
import SnippetMarkup.Proofs.Markup.Writing
import SnippetMarkup.Proofs.Operation.Visibility
import SnippetMarkup.Proofs.Snippet.Completion
import SnippetMarkup.Proofs.Snippet.Unmarked

/-!
# Operations for a region and for each line

An operation that is kept for a region does to the lines of the region what it does to lines that
have the tag for themselves each, and what it links is stored once in either case.  They differ in
what comes after: the line of the end tag goes through the operation of the region, too, even if
nothing stands in front of the tag, and a replacement can fail there.
-/

namespace SnippetMarkup

/-! ## Comments of a tag -/

/-- A comment of a tag with its attributes, for the line that it stands on. -/
structure TagComment (tag : Tag) where
  introducer : Introducer
  entries : List WrittenAttribute
  wellFormed : ∀ entry ∈ entries, entry.WellFormed
  oneLine : '\n' ∉ tag.written ++ entries.flatMap (·.written)
  settled : (tag.written ++ entries.flatMap (·.written)).getLast? ≠ some ':'

theorem Tag.region_mem_accepted (tag : Tag) : .region ∈ tag.accepted := by
  cases tag <;> decide

namespace TagComment

variable {tag : Tag} (comment : TagComment tag)

def parts : CommentParts where
  introducer := comment.introducer
  gap := [' ']
  tag := tag
  tail := comment.entries.flatMap (·.written)

/-- What is put behind a line. -/
def written : Text := ' ' :: comment.parts.written

/-- Whether some attributes are those that are written. -/
def Gives (attributes : Attributes) : Prop :=
  ∀ name, WrittenAttribute.last? comment.entries name = attributes.lookup name

theorem wellFormed_parts : comment.parts.WellFormed := by
  obtain ⟨introducer, entries, wellFormed, oneLine, settled⟩ := comment
  refine ⟨rfl, ?_⟩
  cases entries with
  | nil => exact .inl rfl
  | cons entry rest =>
    obtain ⟨some, blank, -⟩ := wellFormed entry List.mem_cons_self
    obtain ⟨c, others, lead⟩ := List.exists_cons_of_ne_nil some
    obtain ⟨mark, letters, name, -⟩ := entry.name.exists_written
    rw [lead, Text.isBlank, List.all_cons, Bool.and_eq_true] at blank
    refine .inr ⟨c, others ++ (entry.name.written ++ entry.assigned) ++ rest.flatMap (·.written),
      ?_, blank.1, by simp [name]⟩
    simp [parts, WrittenAttribute.written, lead]

theorem oneLine_parts : '\n' ∉ comment.parts.written := by
  have plain : '\n' ∉ comment.introducer.written := fun member =>
    absurd (comment.introducer.isSpace_of_mem_written member) (by decide)
  rw [CommentParts.written, List.mem_append, List.mem_append, not_or, not_or]
  exact ⟨⟨plain, by simp [parts]⟩, comment.oneLine⟩

theorem lookup_parse {attributes : Attributes} (gives : comment.Gives attributes)
    {name : AttributeName} (accepted : name ∈ tag.accepted) :
    (Attributes.parse tag comment.parts.body).1.lookup name = attributes.lookup name := by
  rw [Attributes.parse, CommentParts.body, parts, Attributes.text_written,
    Assignment.readAll_trimLeft, WrittenAttribute.readAll_flatMap comment.wellFormed,
    WrittenAttribute.lookup_collect_written accepted comment.wellFormed, gives]

theorem build_parse {context : MarkupContext} {attributes : Attributes} {store : ReferenceStore}
    (gives : comment.Gives attributes) :
    Operation.build context tag (Attributes.parse tag comment.parts.body).1 store =
      Operation.build context tag attributes store := by
  refine Operation.build_congr fun name accepted _ => ?_
  rw [Attributes.value?, comment.lookup_parse gives accepted, Attributes.value?]

end TagComment

/-! ## Lines with the tag -/

/-- Whether a line has no markup, and an operation leaves something to be seen of it. -/
structure Operation.Shows (operation : Operation) (line shown : Text) : Prop where
  oneLine : '\n' ∉ line
  unmarked : MarkupComment.scan line = none
  trimmed : Text.trimRight line = line
  applied : operation.apply (Html.escape line) = .ok shown
  visible : Text.isBlank shown = false

theorem TagComment.scan_append {tag : Tag} (comment : TagComment tag) {operation : Operation}
    {line shown : Text} (shows : operation.Shows line shown) :
    MarkupComment.scan (line ++ comment.written) =
      some ⟨comment.introducer, comment.parts.body, line⟩ :=
  MarkupComment.scan_append_written shows.oneLine shows.trimmed shows.unmarked
    comment.wellFormed_parts comment.oneLine_parts

namespace Progress

theorem render_of_unopened {progress : Progress} (unopened : progress.stack.operations = [])
    {line : Text} (trimmed : Text.trimRight line = line) :
    progress.render line = .ok (Html.escape line) := by
  rw [render, unopened]
  change Except.ok (Text.trimRight (Html.escape line)) = _
  rw [Html.trimRight_escape, trimmed]

theorem render_of_single {progress : Progress} {operation : Operation}
    (single : progress.stack.operations = [operation]) (line : Text) :
    progress.render line = (operation.apply (Html.escape line)).map Text.trimRight := by
  rw [render, single, Operation.applyAll, List.foldlM_cons, bind_assoc]
  cases operation.apply (Html.escape line) <;> rfl

theorem keeping_congr (progress : Progress) {first second : Attributes} (operation : Operation)
    (same : first.lookup .region = second.lookup .region) :
    progress.keeping first operation = progress.keeping second operation := by
  simp only [keeping, Attributes.mentions_eq, Attributes.value?, same]

theorem keeping_of_unbound (progress : Progress) {attributes : Attributes} (operation : Operation)
    (unbound : attributes.lookup .region = none) :
    progress.keeping attributes operation = progress := by
  simp [keeping, Attributes.mentions_eq, unbound]

theorem keeping_of_bound (progress : Progress) {attributes : Attributes} {name : Text}
    (operation : Operation) (bound : attributes.lookup .region = some (some name)) :
    progress.keeping attributes operation =
      progress.withStack (progress.stack.push ⟨some name, some operation⟩) := by
  simp [keeping, Attributes.mentions_eq, Attributes.value?, bound]

/-- A tag that makes an operation is not a start or an end tag. -/
theorem act_of_made {progress : Progress} {context : SnippetContext} {tag : Tag}
    {attributes : Attributes} {built : Built} {operation : Operation}
    (builds : Operation.build context.toMarkupContext tag attributes progress.store = .ok built)
    (makes : built.operation = some operation) (code : Text) :
    progress.act context attributes code tag =
      ((progress.report built.journal).withStore built.store).perform attributes code
        (some operation) := by
  have operates : progress.handleOperation context tag attributes code =
      ((progress.report built.journal).withStore built.store).perform attributes code
        (some operation) := by
    rw [handleOperation_eq, builds, ← makes]
  cases tag with
  | start =>
    obtain rfl := Except.ok.inj builds
    simp at makes
  | finish =>
    obtain rfl := Except.ok.inj builds
    simp at makes
  | highlight => exact operates
  | replace => exact operates
  | link => exact operates

section Tagged

variable {context : SnippetContext} {closing : Bool} {progress : Progress} {tag : Tag}
  {comment : TagComment tag} {attributes : Attributes} {built : Built} {operation : Operation}

/-- A line with the tag behind it is put out as the operation shows it, and the region is opened. -/
theorem step_tagged {line shown : Text} (calm : progress.carried = none)
    (collecting : progress.phase = .collecting) (unopened : progress.stack.operations = [])
    (builds : Operation.build context.toMarkupContext tag attributes progress.store = .ok built)
    (makes : built.operation = some operation) (gives : comment.Gives attributes)
    (shows : operation.Shows line shown) (isLast : Bool) :
    ∃ entries, progress.step context isLast (line ++ comment.written) =
      ((((progress.report entries).withStore built.store).keeping attributes operation).emit
        (Text.trimRight shown), .next) := by
  have settled : (MarkupComment.mk comment.introducer comment.parts.body line).continues = false :=
    beq_eq_false_iff_ne.2 comment.settled
  have tagged : Tag.ofBody? comment.parts.body = some tag := Tag.ofBody?_written tag _
  have visible : Text.isBlank (Text.trimRight shown) = false := by
    rw [Text.isBlank_trimRight, shows.visible]
  have region := comment.lookup_parse gives tag.region_mem_accepted
  generalize refused : refusals tag (Attributes.parse tag comment.parts.body).2 = entries
  have reads : Operation.build context.toMarkupContext tag
      (Attributes.parse tag comment.parts.body).1 (progress.report entries).store = .ok built := by
    rw [comment.build_parse gives, report_store, builds]
  refine ⟨entries ++ built.journal, ?_⟩
  rw [step_collecting_none calm (by simp [collecting]),
    collect_acting progress (comment.scan_append shows) settled tagged,
    render_of_unopened unopened shows.trimmed]
  dsimp only
  rw [handleTag_eq, refused, act_of_made reads makes, report_report, perform, shows.applied]
  dsimp only
  rw [keeping_congr _ operation region, emitVisible_of_visible _ visible]
  refine settle_of_collecting ?_
  change (keeping _ attributes operation).phase = _
  rw [keeping_phase]
  exact collecting

/-- The lines that have the tag each are put out as the operation shows them. -/
theorem takeLines_tagged {lines : List Text} {image : Text → Text}
    (calm : progress.carried = none) (collecting : progress.phase = .collecting)
    (unopened : progress.stack.operations = [])
    (builds : Operation.build context.toMarkupContext tag attributes progress.store = .ok built)
    (stored : built.store = progress.store) (makes : built.operation = some operation)
    (gives : comment.Gives attributes) (unbound : attributes.lookup .region = none)
    (shows : ∀ line ∈ lines, operation.Shows line (image line)) :
    ∃ entries, takeLines context closing (lines.map (· ++ comment.written)) progress =
      ((progress.report entries).emitAll (lines.map fun line => Text.trimRight (image line)),
        .next) := by
  induction lines generalizing progress with
  | nil =>
    refine ⟨[], ?_⟩
    rw [List.map_nil, takeLines_nil, report_nil, List.map_nil, emitAll_nil]
  | cons line rest ih =>
    rw [List.forall_mem_cons] at shows
    obtain ⟨entries, step⟩ :=
      step_tagged calm collecting unopened builds makes gives shows.1 (closing && rest.isEmpty)
    have kept : ((progress.report entries).withStore built.store).keeping attributes operation =
        progress.report entries := by
      rw [keeping_of_unbound _ operation unbound, stored]
      rfl
    rw [kept] at step
    obtain ⟨more, run⟩ : ∃ more, takeLines context closing (rest.map (· ++ comment.written))
        ((progress.report entries).emit (Text.trimRight (image line))) = _ :=
      ih calm collecting unopened builds stored shows.2
    refine ⟨entries ++ more, ?_⟩
    rw [List.map_cons, takeLines_cons, List.isEmpty_map, step, continueWith_next, run,
      ← report_report, List.map_cons, ← emit_emitAll]
    rfl

variable {first : Text} {rest : List Text} {image : Text → Text} (calm : progress.carried = none)
  (collecting : progress.phase = .collecting) (unopened : progress.stack.operations = [])
  (builds : Operation.build context.toMarkupContext tag attributes progress.store = .ok built)
  (makes : built.operation = some operation) (gives : comment.Gives attributes)
  (shows : ∀ line ∈ first :: rest, operation.Shows line (image line))
include calm collecting unopened builds makes gives shows

/-- What comes of some lines that have the tag each. -/
theorem takeLines_lineWise (unbound : attributes.lookup .region = none) :
    ∃ later, takeLines context closing ((first :: rest).map (· ++ comment.written)) progress =
        (later, .next) ∧
      later.store = built.store ∧ later.output = progress.output ++
        (first :: rest).map fun line => Text.trimRight (image line) := by
  obtain ⟨showsFirst, showsRest⟩ := List.forall_mem_cons.1 shows
  obtain ⟨entries, step⟩ := step_tagged calm collecting unopened builds makes gives showsFirst
    (closing && rest.isEmpty)
  rw [keeping_of_unbound _ operation unbound] at step
  obtain ⟨more, run⟩ : ∃ more, takeLines context closing (rest.map (· ++ comment.written))
      (((progress.report entries).withStore built.store).emit (Text.trimRight (image first))) = _ :=
    takeLines_tagged calm collecting unopened (Operation.build_again builds) rfl makes gives
      unbound showsRest
  rw [List.map_cons, takeLines_cons, List.isEmpty_map, step, continueWith_next, run]
  refine ⟨_, rfl, ?store, ?output⟩
  case store => rfl
  case output =>
    rw [emitAll_output, List.map_cons, ← List.singleton_append, ← List.append_assoc]
    rfl

/-- What comes of these lines if the first of them opens a region with the tag. -/
theorem takeLines_regionWise {name : Text} (bound : attributes.lookup .region = some (some name)) :
    ∃ later, takeLines context closing ((first ++ comment.written) :: rest) progress =
        (later, .next) ∧
      later.carried = none ∧ later.phase = .collecting ∧
      later.stack.operations = [operation] ∧ later.store = built.store ∧
      later.output = progress.output ++
        (first :: rest).map fun line => Text.trimRight (image line) := by
  obtain ⟨showsFirst, showsRest⟩ := List.forall_mem_cons.1 shows
  obtain ⟨entries, step⟩ := step_tagged calm collecting unopened builds makes gives showsFirst
    (closing && rest.isEmpty)
  rw [keeping_of_bound _ operation bound] at step
  generalize reached : (((progress.report entries).withStore built.store).withStack _).emit _ =
    opened at step
  have single : opened.stack.operations = [operation] := by
    rw [← reached]
    change (progress.stack.push ⟨some name, some operation⟩).operations = _
    rw [RegionStack.operations_push, unopened]
    rfl
  have run : takeLines context closing rest opened =
      (opened.emitAll (rest.map fun line => Text.trimRight (image line)), .next) := by
    apply takeLines_plain
    case collecting =>
      rw [← reached]
      change progress.phase ≠ .awaiting
      simp [collecting]
    case calm => exact reached ▸ calm
    case unmarked => exact fun line member => (showsRest line member).unmarked
    case rendered =>
      intro line member
      rw [render_of_single single, (showsRest line member).applied]
      rfl
  rw [takeLines_cons, step, continueWith_next, run]
  refine ⟨_, rfl, ?calm, ?collecting, single, ?store, ?output⟩
  case calm => exact reached ▸ calm
  case collecting => exact reached ▸ collecting
  case store => exact reached ▸ rfl
  case output =>
    rw [emitAll_output, List.map_cons, ← List.singleton_append, ← List.append_assoc, ← reached]
    rfl

end Tagged

/-! ## The line of the end tag -/

/-- The end tag of a region. -/
def endTag (name : Text) : CommentParts where
  introducer := .slashes
  gap := [' ']
  tag := .finish
  tail := ' ' :: (AttributeName.region.written ++ '=' :: name)

example : (endTag ['r']).written = "// @end region=r".toList := by decide

theorem wellFormed_endTag (name : Text) : (endTag name).WellFormed := by
  refine ⟨rfl, .inr ⟨' ', AttributeName.region.written ++ '=' :: name, rfl, by decide, ?_⟩⟩
  simp

theorem oneLine_endTag {name : Text} (oneLine : '\n' ∉ name) : '\n' ∉ (endTag name).written := by
  have plain : '\n' ∉ Introducer.slashes.written ∧ '\n' ∉ Tag.finish.written ∧
      '\n' ∉ AttributeName.region.written := by decide
  simp [endTag, CommentParts.written, CommentParts.body, oneLine, plain]

/-- With one region open, the line of an end tag fails only if the operation of the region does so
on an empty line; what has been put out and stored stays. -/
theorem step_endTag (context : SnippetContext) {progress : Progress} {operation : Operation}
    {name : Text} (calm : progress.carried = none) (collecting : progress.phase = .collecting)
    (opened : progress.stack.operations = [operation]) (oneLine : '\n' ∉ name) :
    let taken := progress.step context true (endTag name).written
    taken.1.store = progress.store ∧ (∃ shown, taken.1.output = progress.output ++ shown) ∧
      ∀ failure, taken.2.failure? = some failure ↔ operation.Overruns [] failure := by
  intro taken
  let visit : Visit := ⟨progress, (endTag name).written, true⟩
  have scanned := MarkupComment.scan_written (wellFormed_endTag name) (oneLine_endTag oneLine)
  have reached : taken = visit.after context :=
    step_collecting_none calm (by simp [collecting]) context true _
  have code : visit.code = [] := visit.code_eq scanned
  obtain ⟨store, fails⟩ := visit.after_finish context scanned (Tag.ofBody?_written .finish _)
  rw [reached]
  refine ⟨store, ⟨_, visit.output_after context⟩, fun failure => ?_⟩
  rw [fails, code, render_of_single opened, ← Operation.apply_eq_error_iff]
  change (operation.apply []).map Text.trimRight = .error failure ↔ _
  cases operation.apply [] <;> simp [Except.map]

/-! ## Both runs -/

section Runs

variable {context : MarkupContext} {store : ReferenceStore} {tag : Tag} {attributes : Attributes}
  {built : Built} {operation : Operation} {first : Text} {rest : List Text} {image : Text → Text}
  (builds : Operation.build context tag attributes store = .ok built)
  (makes : built.operation = some operation)
  (shows : ∀ line ∈ first :: rest, operation.Shows line (image line))
include builds makes shows

theorem parse_lineWise {each : TagComment tag} (gives : each.Gives attributes)
    (unbound : attributes.lookup .region = none) :
    ∃ later, (initial none store).parse ⟨context, none⟩
        ((first :: rest).map (· ++ each.written)) = (later, none) ∧
      later.store = built.store ∧
      later.output = (first :: rest).map fun line => Text.trimRight (image line) := by
  obtain ⟨every, run, stored, output⟩ :
      ∃ every, takeLines ⟨context, none⟩ true _ (initial none store) = (every, .next) ∧ _ :=
    takeLines_lineWise rfl rfl rfl builds makes gives shows unbound
  have ended := parse_initial ⟨context, none⟩ ((first :: rest).map (· ++ each.written)) none store
  rw [run, outcome_of_failure?_none _ _ _ rfl] at ended
  exact ⟨_, ended, stored, output⟩

theorem parse_regionWise {opening : TagComment tag} {name : Text}
    (gives : opening.Gives attributes) (bound : attributes.lookup .region = some (some name))
    (oneLine : '\n' ∉ name) :
    let parsed := (initial none store).parse ⟨context, none⟩
      ((first ++ opening.written) :: rest ++ [(endTag name).written])
    parsed.1.store = built.store ∧ parsed.1.output.take (first :: rest).length =
        ((first :: rest).map fun line => Text.trimRight (image line)) ∧
      ∀ failure, parsed.2 = some failure ↔ operation.Overruns [] failure := by
  intro parsed
  obtain ⟨opened, run, calm, collecting, single, stored, output⟩ :
      ∃ opened, takeLines ⟨context, none⟩ false _ (initial none store) = (opened, .next) ∧ _ :=
    takeLines_regionWise rfl rfl rfl builds makes gives shows bound
  obtain ⟨endStored, ⟨shown, endOutput⟩, fails⟩ :=
    step_endTag ⟨context, none⟩ calm collecting single oneLine
  obtain ⟨count, ended⟩ : ∃ count, parsed =
      outcome ⟨context, none⟩ count (opened.step ⟨context, none⟩ true (endTag name).written) := by
    rw [← takeLines_singleton]
    exact ⟨_, parse_reached (List.cons_ne_nil _ _) run⟩
  rw [ended, outcome_failure, outcome_store, outcome_output]
  refine ⟨endStored.trans stored, ?_, fails⟩
  rw [endOutput, output, List.take_left']
  · rfl
  · simp [initial]

end Runs

/-- A tag that is put behind the first of some lines for a region that ends after the last of them
does to these lines what it does behind each of them, and stores the same.  It can fail for what
comes after, and then only for one thing: that a reference to a group overruns on the empty line of
the end tag. -/
theorem parse_regional {context : MarkupContext} {store : ReferenceStore} {tag : Tag}
    {attributes : Attributes} {built : Built} {operation : Operation} {name : Text}
    {each opening : TagComment tag} {first : Text} {rest : List Text}
    (builds : Operation.build context tag attributes store = .ok built)
    (makes : built.operation = some operation) (unbound : attributes.lookup .region = none)
    (gives : each.Gives attributes)
    (givesRegion : opening.Gives (attributes.set .region (some name))) (oneLine : '\n' ∉ name)
    (shows : ∀ line ∈ first :: rest, ∃ shown, operation.Shows line shown) :
    let lineWise := (initial none store).parse ⟨context, none⟩
      ((first :: rest).map (· ++ each.written))
    let regionWise := (initial none store).parse ⟨context, none⟩
      ((first ++ opening.written) :: rest ++ [(endTag name).written])
    lineWise.2 = none ∧ lineWise.1.output.length = (first :: rest).length ∧
      regionWise.1.output.take (first :: rest).length = lineWise.1.output ∧
      regionWise.1.store = lineWise.1.store ∧
      ∀ failure, regionWise.2 = some failure ↔ operation.Overruns [] failure := by
  intro lineWise regionWise
  choose! image shows using shows
  have bound : (attributes.set .region (some name)).lookup .region = some (some name) := by
    rw [Attributes.lookup_set, if_pos rfl]
  have buildsRegion : Operation.build context tag (attributes.set .region (some name)) store =
      .ok built := by
    rw [← builds]
    refine Operation.build_congr fun other _ different => ?_
    rw [Attributes.value?, Attributes.lookup_set, if_neg different, Attributes.value?]
  obtain ⟨every, lineEnds, lineStore, lineOutput⟩ :=
    parse_lineWise builds makes shows gives unbound
  obtain ⟨regionStore, regionOutput, fails⟩ :=
    parse_regionWise buildsRegion makes shows givesRegion bound oneLine
  simp only [lineWise, lineEnds]
  exact ⟨trivial, by rw [lineOutput, List.length_map], regionOutput.trans lineOutput.symm,
    regionStore.trans lineStore.symm, fails⟩

/-- The lines end in an introducer, in something like a tag and in a comment that lacks one, and the
region has a name that its end tag is not able to give. -/
theorem parse_regional_linked :
    let context : MarkupContext := { targets := some { entries := [(['T'], "pkg/T".toList)] } }
    let entries : List WrittenAttribute :=
      [{ lead := [' ', '\t'], name := .target, before := [' '], value := .double ['T'] },
        { name := .substring, value := .bare ['T'] }]
    let each : TagComment .link :=
      ⟨.hash, entries, by decide +kernel, by decide +kernel, by decide +kernel⟩
    let opening : TagComment .link :=
      ⟨.upperRem, entries ++ [{ name := .region, value := .single ['r', ' ', 's'] }],
        by decide +kernel, by decide +kernel, by decide +kernel⟩
    let first := "T t; //".toList
    let rest := ["  <T> # @linked".toList, "T // @link'".toList]
    let lineWise := (initial none {}).parse ⟨context, none⟩
      ((first :: rest).map (· ++ each.written))
    let regionWise := (initial none {}).parse ⟨context, none⟩
      ((first ++ opening.written) :: rest ++ [(endTag ['r', ' ', 's']).written])
    lineWise.1.store.references = ["pkg/T".toList] ∧
      lineWise.2 = none ∧ lineWise.1.output.length = (first :: rest).length ∧
      regionWise.1.output.take (first :: rest).length = lineWise.1.output ∧
      regionWise.1.store = lineWise.1.store ∧ regionWise.2 = none := by
  intro context entries each opening first rest lineWise regionWise
  let operation : Operation :=
    .link { substring := some ['T'] } "data-dri".toList "ref-0".toList
  let attributes : Attributes := [(.target, some ['T']), (.substring, some ['T'])]
  have builds : Operation.build context .link attributes {} = .ok ⟨some operation,
      { entries := [⟨"ref-0".toList, "pkg/T".toList⟩] },
      [.note 3 (Operation.linkedNote ['T'] "ref-0".toList)]⟩ := rfl
  have gives : each.Gives attributes := by
    intro name
    cases name <;> decide +kernel
  have givesRegion : opening.Gives (attributes.set .region (some ['r', ' ', 's'])) := by
    intro name
    cases name <;> decide +kernel
  let shown (line : Text) : Text :=
    operation.scope.wrap (Operation.wrapAnchor "data-dri".toList "ref-0".toList) (Html.escape line)
  have lines : ∀ line ∈ first :: rest, '\n' ∉ line ∧ MarkupComment.scan line = none ∧
      Text.trimRight line = line ∧ Text.isBlank (shown line) = false := by decide +kernel
  have shows : ∀ line ∈ first :: rest, ∃ shown, operation.Shows line shown := by
    intro line member
    obtain ⟨oneLine, unmarked, trimmed, visible⟩ := lines line member
    exact ⟨shown line, oneLine, unmarked, trimmed, rfl, visible⟩
  obtain ⟨proper, length, output, stored, fails⟩ :=
    parse_regional builds rfl rfl gives givesRegion (by decide) shows
  refine ⟨by decide +kernel, proper, length, output, stored, ?_⟩
  refine Option.eq_none_iff_forall_ne_some.2 fun failure failed => ?_
  have overruns := (fails failure).1 failed
  simp only [operation] at overruns
  cases overruns

/-- The reference to a group by a number with too many digits is looked at nowhere but on the empty
line of the end tag. -/
theorem parse_regional_overlong :
    let digits := List.replicate 4301 '1'
    let tagged (region : Text) : Text :=
      "x // @replace".toList ++ region ++ " regex=^$ replacement=$".toList ++ digits
    let lineWise := (initial none {}).parse {} [tagged []]
    let regionWise := (initial none {}).parse {}
      [tagged " region=r".toList, "// @end region=r".toList]
    lineWise.2 = none ∧ lineWise.1.output = [['x']] ∧
      regionWise.2 = some (.tooManyDigits 4301) := by
  intro digits tagged lineWise regionWise
  let replacement : Text := '$' :: digits
  let regex : Regex := ⟨"^$".toList, .seq (.place .textStart) (.place .textEnd), 0⟩
  let operation : Operation := .replace { regex := some regex } replacement
  let attributes : Attributes := [(.regex, some "^$".toList), (.replacement, some replacement)]
  let entries : List WrittenAttribute :=
    [{ name := .regex, value := .bare "^$".toList },
      { name := .replacement, value := .bare replacement }]
  let each : TagComment .replace :=
    ⟨.slashes, entries, by decide +kernel, by decide +kernel, by decide +kernel⟩
  let opening : TagComment .replace :=
    ⟨.slashes, { name := .region, value := .bare ['r'] } :: entries, by decide +kernel,
      by decide +kernel, by decide +kernel⟩
  have applied : operation.apply (Html.escape ['x']) = .ok ['x'] := by
    have nothing : regex.pieces ['x'] = [.plain ['x']] :=
      Regex.pieces_of_search (by decide +kernel)
    change Operation.applyReplace { regex := some regex } replacement ['x'] = _
    rw [Operation.applyReplace_eq]
    change regex.replaceMatches replacement ['x'] = _
    rw [Regex.replaceMatches, nothing]
    rfl
  have shows : ∀ line ∈ [['x']], operation.Shows line line := by
    rw [List.forall_mem_singleton]
    exact ⟨by decide, by decide, by decide, applied, by decide⟩
  have overruns : operation.Overruns [] (.tooManyDigits 4301) := by
    have empty : regex.MatchesEmpty := Regex.matchesEmpty_of_search (by decide +kernel)
    obtain ⟨found, hit⟩ := empty
    exact .replace rfl hit (by decide +kernel)
  have eachLine : tagged [] = ['x'] ++ each.written := by
    change _ = ['x', ' '] ++ (Introducer.slashes.written ++ [' '] ++ (Tag.replace.written ++
      entries.flatMap (·.written)))
    simp only [entries, List.flatMap_cons, List.flatMap_nil, List.append_nil]
    rfl
  have openingLine : tagged " region=r".toList = ['x'] ++ opening.written := by
    change _ = ['x', ' '] ++ (Introducer.slashes.written ++ [' '] ++ (Tag.replace.written ++
      ([' '] ++ AttributeName.region.written ++ ['=', 'r'] ++ entries.flatMap (·.written))))
    simp only [entries, List.flatMap_cons, List.flatMap_nil, List.append_nil]
    rfl
  have endLine : "// @end region=r".toList = (endTag ['r']).written := by decide
  have builds : Operation.build {} .replace attributes {} = .ok ⟨some operation, {}, []⟩ := rfl
  have buildsRegion : Operation.build {} .replace (attributes.set .region (some ['r'])) {} =
      .ok ⟨some operation, {}, []⟩ := rfl
  have gives : each.Gives attributes := by
    intro name
    cases name <;> rfl
  have givesRegion : opening.Gives (attributes.set .region (some ['r'])) := by
    intro name
    cases name <;> rfl
  obtain ⟨every, lineEnds, -, lineOutput⟩ := parse_lineWise builds rfl shows gives rfl
  obtain ⟨-, -, fails⟩ :=
    parse_regionWise buildsRegion rfl shows givesRegion rfl (by decide : '\n' ∉ ['r'])
  have lines : lineWise = (every, none) := by
    rw [← lineEnds]
    exact congrArg (fun line => (initial none {}).parse {} [line]) eachLine
  have regionLines : regionWise =
      (initial none {}).parse {} ([['x'] ++ opening.written] ++ [(endTag ['r']).written]) :=
    congrArg₂ (fun line last => (initial none {}).parse {} [line, last]) openingLine endLine
  rw [lines, regionLines]
  exact ⟨rfl, lineOutput.trans (by decide), (fails _).2 overruns⟩

end Progress

end SnippetMarkup
