import Mathlib
import SnippetMarkup.Proofs.Markup.Scan
import SnippetMarkup.Proofs.Snippet.Reports

/-!
# Extracting a region

Up to the start of the region to extract, lines only leave reports behind.  Between its start and
its end, lines are worked through as if they were the whole snippet.  After its end, no line is
looked at.
-/

namespace SnippetMarkup

/-! ## Lines that open and close regions -/

/-- The region that a line names in a tag of the given kind. -/
def regionNamed? (tag : Tag) (line : Text) : Option Text :=
  (MarkupComment.scan line).bind fun comment =>
    if Tag.ofBody? comment.body = some tag then
      (Attributes.parse tag comment.body).1.value? .region
    else none

/-- A line opens a region if it has a start tag that names it. -/
def Opens (name line : Text) : Prop := regionNamed? .start line = some name

/-- A line closes a region if it has an end tag that names it and acts on the line itself. -/
def Closes (name line : Text) : Prop :=
  (MarkupComment.scan line).all (fun comment => !comment.continues) = true ∧
    regionNamed? .finish line = some name

instance (name line : Text) : Decidable (Opens name line) :=
  inferInstanceAs (Decidable (_ = _))

instance (name line : Text) : Decidable (Closes name line) :=
  inferInstanceAs (Decidable (_ ∧ _))

theorem regionNamed?_eq_some_iff {tag : Tag} {line name : Text} :
    regionNamed? tag line = some name ↔
      ∃ comment, MarkupComment.scan line = some comment ∧ Tag.ofBody? comment.body = some tag ∧
        (Attributes.parse tag comment.body).1.value? .region = some name := by
  simp only [regionNamed?, Option.bind_eq_some_iff, Option.ite_none_right_eq_some]

theorem closes_iff {line name : Text} :
    Closes name line ↔
      ∃ comment, MarkupComment.scan line = some comment ∧ comment.continues = false ∧
        Tag.ofBody? comment.body = some .finish ∧
        (Attributes.parse .finish comment.body).1.value? .region = some name := by
  rw [Closes, regionNamed?_eq_some_iff]
  constructor
  · rintro ⟨settled, comment, scanned, tagged, named⟩
    exact ⟨comment, scanned, by simpa [scanned] using settled, tagged, named⟩
  · rintro ⟨comment, scanned, settled, tagged, named⟩
    exact ⟨by simp [scanned, settled], comment, scanned, tagged, named⟩

/-! ## Lines with the comments carried over to them -/

/-- A line with a comment that is carried over to it. -/
def joined (carried : Option CarriedComment) (line : Text) : Text :=
  match carried with
  | none => line
  | some comment => line ++ ' ' :: comment.introducer.written ++ ' ' :: comment.body

/-- The comment that a line leaves for the next one. -/
def carriedOn? (line : Text) : Option CarriedComment :=
  (MarkupComment.scan line).bind fun comment =>
    if comment.continues then some ⟨comment.introducer, comment.body.dropLast⟩ else none

/-- The lines, each with the comment that the line before it leaves for it. -/
def foldedLines : Option CarriedComment → List Text → List Text
  | _, [] => []
  | carried, line :: rest =>
    joined carried line :: foldedLines (carriedOn? (joined carried line)) rest

namespace Progress

theorem withCarried_eq (progress : Progress) (line : Text) :
    progress.withCarried line = joined progress.carried line := rfl

/-- What is carried to the next line is what the line leaves for it. -/
theorem collect_carried (context : SnippetContext) (isLast : Bool) (line : Text)
    (progress : Progress) (calm : progress.carried = none)
    (goesOn : (progress.collect context isLast line).2 = .next) :
    (progress.collect context isLast line).1.carried = carriedOn? line := by
  have collected := collects progress context isLast line
  generalize progress.collect context isLast line = taken at collected goesOn
  cases collected with
  | unrendered failure => simp at goesOn
  | plain shown unmarked => simp [carriedOn?, unmarked, emit, calm]
  | carried code scanned continues => simp [carriedOn?, scanned, continues, carrying]
  | dangling => simp at goesOn
  | idle scanned settled => simp [carriedOn?, scanned, settled, calm]
  | acted code scanned settled tagged =>
    rw [settle_fst, handleTag_carried, calm]
    simp [carriedOn?, scanned, settled]

/-- Nothing is left for another line by the last one, or by one that ends the run. -/
theorem step_carried_none (context : SnippetContext) (isLast : Bool) (line : Text)
    (progress : Progress) (ends : isLast = true ∨ (progress.step context isLast line).2 ≠ .next) :
    (progress.step context isLast line).1.carried = none := by
  by_cases awaiting : progress.phase = .awaiting
  · rw [step_awaiting progress awaiting, await_carried]
    rfl
  · rw [step_collecting progress awaiting] at ends ⊢
    have collected := collects (progress.carrying none) context isLast (progress.withCarried line)
    generalize collect context isLast (progress.withCarried line) (progress.carrying none) = taken
      at collected ends ⊢
    cases collected with
    | unrendered failure => rfl
    | plain shown => rfl
    | carried code scanned continues rendered followed => simp [followed] at ends
    | dangling => rfl
    | idle => rfl
    | acted code =>
      rw [settle_fst, handleTag_carried]
      rfl

theorem takeLines_carried_ended (context : SnippetContext) (closing : Bool) (lines : List Text)
    (progress : Progress) (ended : (takeLines context closing lines progress).2 ≠ .next) :
    (takeLines context closing lines progress).1.carried = none := by
  induction lines generalizing progress with
  | nil => exact (ended rfl).elim
  | cons line rest ih =>
    have stops := step_carried_none context (closing && rest.isEmpty) line progress
    rw [takeLines_cons] at ended ⊢
    generalize progress.step context (closing && rest.isEmpty) line = taken at ended stops ⊢
    obtain ⟨later, flow⟩ := taken
    cases flow with
    | next => exact ih later ended
    | stop => exact stops (.inr ended)
    | fail failure => exact stops (.inr ended)

/-- After the closing lines, nothing is left for another one. -/
theorem takeLines_carried_last (context : SnippetContext) (lines : List Text)
    (progress : Progress) (calm : progress.carried = none) :
    (takeLines context true lines progress).1.carried = none := by
  rcases List.eq_nil_or_concat' lines with rfl | ⟨init, last, rfl⟩
  · exact calm
  · have ended := takeLines_carried_ended context false init progress
    rw [takeLines_append context true init (by simp)]
    generalize takeLines context false init progress = taken at ended ⊢
    obtain ⟨later, flow⟩ := taken
    cases flow with
    | next =>
      rw [continueWith_next, takeLines_singleton]
      exact step_carried_none context true last later (.inl rfl)
    | stop => exact ended (by simp)
    | fail failure => exact ended (by simp)

/-! ## Lines without a region to extract -/

section Whole

variable (context : MarkupContext) (isLast closing : Bool) (line : Text) (lines : List Text)
  (progress : Progress)

theorem collect_phase_whole :
    (progress.collect ⟨context, none⟩ isLast line).1.phase = progress.phase := by
  have collected := collects progress ⟨context, none⟩ isLast line
  generalize progress.collect ⟨context, none⟩ isLast line = taken at collected
  cases collected with
  | unrendered failure => rfl
  | plain shown => rfl
  | carried code => exact emitVisible_phase progress code
  | dangling => rfl
  | idle => rfl
  | acted code =>
    rw [settle_fst]
    rcases handleTag_phase progress ⟨context, none⟩ _ _ code with same | ends
    · exact same
    · simp at ends

/-- Only a comment that is meant for a line after the last one ends the run early. -/
theorem collect_stop_whole (collecting : progress.phase = .collecting)
    (stops : (progress.collect ⟨context, none⟩ isLast line).2 = .stop) :
    .danglingContinuation ∈
      (progress.collect ⟨context, none⟩ isLast line).1.journal.warnings := by
  have collected := collects progress ⟨context, none⟩ isLast line
  have phase := collect_phase_whole context isLast line progress
  generalize progress.collect ⟨context, none⟩ isLast line = taken at collected stops phase
  cases collected with
  | unrendered failure => simp at stops
  | plain shown => simp at stops
  | carried code => simp at stops
  | dangling => exact mem_warnings_warn progress .danglingContinuation
  | idle => simp at stops
  | @acted comment tag code =>
    have goesOn := handleTag_flow progress ⟨context, none⟩ tag comment.body code
    rw [settle_fst, collecting] at phase
    simp [settle_snd_eq_stop_iff, goesOn, phase] at stops

theorem takeLines_phase_whole (collecting : progress.phase = .collecting) :
    (takeLines ⟨context, none⟩ closing lines progress).1.phase = .collecting := by
  refine takeLines_keeps (motive := fun later => later.phase = .collecting) ?_ closing lines
    collecting
  intro isLast line later collecting
  rw [step_collecting later (by simp [collecting]), collect_phase_whole]
  exact collecting

/-- A run that is not broken off by a dangling comment goes through all lines. -/
theorem takeLines_flow_whole (collecting : progress.phase = .collecting)
    (proper : .danglingContinuation ∉
      (takeLines ⟨context, none⟩ closing lines progress).1.journal.warnings) :
    (takeLines ⟨context, none⟩ closing lines progress).2 ≠ .stop := by
  induction lines generalizing progress with
  | nil => simp
  | cons line rest ih =>
    have collects : progress.phase ≠ .awaiting := by simp [collecting]
    have phase := collect_phase_whole context (closing && rest.isEmpty)
      (progress.withCarried line) (progress.carrying none)
    have stops := collect_stop_whole context (closing && rest.isEmpty)
      (progress.withCarried line) (progress.carrying none) collecting
    rw [takeLines_cons, step_collecting progress collects] at proper ⊢
    generalize collect ⟨context, none⟩ (closing && rest.isEmpty) (progress.withCarried line)
      (progress.carrying none) = taken at *
    obtain ⟨later, flow⟩ := taken
    cases flow with
    | next => exact ih later (phase.trans collecting) proper
    | stop => exact (proper (stops rfl)).elim
    | fail failure => simp

end Whole

/-! ## Inside of the region -/

section Inside

variable {context : MarkupContext} {name : Text}

/-- A tag acts the same with and without a region to extract, unless it is an end tag for that
region or finds nothing to close. -/
theorem handleTag_agree {tag : Tag} {body code : Text} (progress : Progress)
    (staysOpen : tag = .finish → (Attributes.parse .finish body).1.value? .region ≠ some name)
    (matched : .unmatchedEnd ∉
      (progress.handleTag ⟨context, none⟩ tag body code).1.journal.warnings) :
    progress.handleTag ⟨context, some name⟩ tag body code =
      progress.handleTag ⟨context, none⟩ tag body code := by
  rw [handleTag_eq] at matched
  rw [handleTag_eq, handleTag_eq]
  cases tag with
  | start => rfl
  | finish =>
    have other := staysOpen rfl
    simp only [act, handleEnd_eq] at matched ⊢
    generalize (Attributes.parse .finish body).1.value? .region = asked at *
    generalize progress.report (refusals .finish (Attributes.parse .finish body).2) = reported
      at matched ⊢
    rw [if_neg (by simp)] at matched
    rw [if_neg ?closes, if_neg (by simp)]
    rintro ⟨-, same | ⟨rfl, nothing⟩⟩
    · exact other same
    · rw [closing_eq_warn _ nothing] at matched
      exact matched (by simpa [endProblem] using mem_warnings_warn reported .unmatchedEnd)
  | highlight => rfl
  | replace => rfl
  | link => rfl

theorem collect_agree {isLast : Bool} {line : Text} (progress : Progress)
    (staysOpen : ¬Closes name line)
    (matched : .unmatchedEnd ∉
      (progress.collect ⟨context, none⟩ isLast line).1.journal.warnings)
    (proper : .danglingContinuation ∉
      (progress.collect ⟨context, none⟩ isLast line).1.journal.warnings) :
    progress.collect ⟨context, some name⟩ false line =
      progress.collect ⟨context, none⟩ isLast line := by
  cases scanned : MarkupComment.scan line with
  | none => rw [collect_plain progress scanned, collect_plain progress scanned]
  | some comment =>
    cases continues : comment.continues with
    | true =>
      rw [collect_carrying progress scanned continues] at proper
      rw [collect_carrying progress scanned continues, collect_carrying progress scanned continues]
      cases rendered : progress.render comment.code with
      | error failure => rfl
      | ok code =>
        cases isLast with
        | false => rfl
        | true =>
          rw [rendered] at proper
          exact (proper (mem_warnings_warn progress .danglingContinuation)).elim
    | false =>
      cases tagged : Tag.ofBody? comment.body with
      | none =>
        rw [collect_idle progress scanned continues tagged,
          collect_idle progress scanned continues tagged]
      | some tag =>
        rw [collect_acting progress scanned continues tagged] at matched
        rw [collect_acting progress scanned continues tagged,
          collect_acting progress scanned continues tagged]
        cases rendered : progress.render comment.code with
        | error failure => rfl
        | ok code =>
          rw [rendered] at matched
          simp only [settle_fst] at matched
          simp only []
          rw [handleTag_agree progress _ matched]
          rintro rfl named
          exact staysOpen (closes_iff.2 ⟨comment, scanned, continues, tagged, named⟩)

/-- Lines that do not close the region are worked through as if they were the whole snippet. -/
theorem takeLines_agree {closing : Bool} {lines : List Text} {progress : Progress}
    (collecting : progress.phase = .collecting)
    (staysOpen : ∀ whole ∈ foldedLines progress.carried lines, ¬Closes name whole)
    (matched : .unmatchedEnd ∉
      (takeLines ⟨context, none⟩ closing lines progress).1.journal.warnings)
    (proper : .danglingContinuation ∉
      (takeLines ⟨context, none⟩ closing lines progress).1.journal.warnings) :
    takeLines ⟨context, some name⟩ false lines progress =
      takeLines ⟨context, none⟩ closing lines progress := by
  induction lines generalizing progress with
  | nil => rfl
  | cons line rest ih =>
    have collects : progress.phase ≠ .awaiting := by simp [collecting]
    have phase := collect_phase_whole context (closing && rest.isEmpty)
      (progress.withCarried line) (progress.carrying none)
    have carried := collect_carried ⟨context, none⟩ (closing && rest.isEmpty)
      (progress.withCarried line) (progress.carrying none) rfl
    rw [foldedLines, ← withCarried_eq, List.forall_mem_cons] at staysOpen
    rw [takeLines_cons, step_collecting progress collects] at matched proper ⊢
    rw [takeLines_cons, step_collecting progress collects, Bool.false_and]
    -- A warning of this line would still be there at the end of the run.
    have stays := reports_continueWith (collect ⟨context, none⟩ (closing && rest.isEmpty)
      (progress.withCarried line) (progress.carrying none)) fun later =>
        reports_takeLines later ⟨context, none⟩ closing rest
    rw [collect_agree (progress.carrying none) staysOpen.1
      (fun warned => matched (stays.mem_warnings warned))
      (fun warned => proper (stays.mem_warnings warned))]
    generalize collect ⟨context, none⟩ (closing && rest.isEmpty) (progress.withCarried line)
      (progress.carrying none) = taken at *
    obtain ⟨later, flow⟩ := taken
    cases flow with
    | next => exact ih (phase.trans collecting) (carried rfl ▸ staysOpen.2) matched proper
    | stop => rfl
    | fail failure => rfl

end Inside

/-! ## Up to the start of the region -/

section Before

variable (context : MarkupContext) {name : Text}

theorem await_unopened {line : Text} (unopened : ¬Opens name line) :
    ∃ entries : Journal Problem, (∀ entry ∈ entries, entry.IsOfLine) ∧ ∀ progress : Progress,
      progress.await ⟨context, some name⟩ line = progress.report entries := by
  simp only [await_eq]
  cases scanned : MarkupComment.scan line with
  | none => exact ⟨[], by simp, by simp⟩
  | some comment =>
    have refused := ofLine_refusals .start (Attributes.parse .start comment.body).2
    by_cases tagged : Tag.ofBody? comment.body = some .start
    · cases named : (Attributes.parse .start comment.body).1.value? .region with
      | none =>
        refine ⟨refusals .start (Attributes.parse .start comment.body).2 ++
          [.warning .startWithoutRegion], ?_, by simp [tagged, named, warn]⟩
        intro entry member
        rcases List.mem_append.1 member with early | late
        · exact refused entry early
        · rw [List.mem_singleton.1 late]
          trivial
      | some other =>
        have differs : some name ≠ some other := by
          rintro same
          exact unopened (regionNamed?_eq_some_iff.2 ⟨comment, scanned, tagged, same ▸ named⟩)
        exact ⟨_, refused, by simp [tagged, named, differs]⟩
    · exact ⟨[], by simp, by simp [tagged]⟩

theorem await_opening {line : Text} (opens : Opens name line) :
    ∃ entries : Journal Problem, (∀ entry ∈ entries, entry.IsOfLine) ∧ ∀ progress : Progress,
      progress.await ⟨context, some name⟩ line =
        (progress.report entries).withPhase .collecting := by
  obtain ⟨comment, scanned, tagged, named⟩ := regionNamed?_eq_some_iff.1 opens
  refine ⟨refusals .start (Attributes.parse .start comment.body).2 ++
    [.note 3 (foundNote name)], ?_, by simp [await_eq, scanned, tagged, named]⟩
  intro entry member
  rcases List.mem_append.1 member with early | late
  · exact ofLine_refusals _ _ entry early
  · rw [List.mem_singleton.1 late]
    trivial

/-- Lines that do not open the region only leave reports behind. -/
theorem takeLines_unopened {lines : List Text} (unopened : ∀ line ∈ lines, ¬Opens name line) :
    ∃ entries : Journal Problem, (∀ entry ∈ entries, entry.IsOfLine) ∧
      ∀ closing (progress : Progress), progress.phase = .awaiting → progress.carried = none →
        takeLines ⟨context, some name⟩ closing lines progress =
          (progress.report entries, .next) := by
  induction lines with
  | nil => exact ⟨[], by simp, by simp⟩
  | cons line rest ih =>
    obtain ⟨first, firstOfLine, awaited⟩ := await_unopened context
      (unopened line List.mem_cons_self)
    obtain ⟨others, othersOfLine, taken⟩ := ih fun line member =>
      unopened line (List.mem_cons_of_mem _ member)
    refine ⟨first ++ others, ?_, fun closing progress awaiting calm => ?_⟩
    · intro entry member
      rcases List.mem_append.1 member with early | late
      · exact firstOfLine entry early
      · exact othersOfLine entry late
    · rw [takeLines_cons, step_awaiting_none calm awaiting, awaited, continueWith_next,
        taken closing (progress.report first) awaiting calm, report_report]

end Before

/-! ## The end of the region -/

/-- A run that ends the extraction does not depend on the lines after the end of the region. -/
theorem takeLines_finish {context : SnippetContext} {lines : List Text} {progress : Progress}
    (unfinished : progress.phase ≠ .finished)
    (finishes : (takeLines context true lines progress).1.phase = .finished) :
    ∃ front rest, lines = front ++ rest ∧ front ≠ [] ∧
      ∀ closing more, takeLines context closing (front ++ more) progress =
        ((takeLines context true lines progress).1, .stop) := by
  induction lines generalizing progress with
  | nil => exact (unfinished finishes).elim
  | cons line rest ih =>
    rw [takeLines_cons, Bool.true_and] at finishes
    -- Either this line ends the extraction or the induction goes on after it.
    by_cases now : (progress.step context rest.isEmpty line).1.phase = .finished
    · refine ⟨[line], rest, rfl, by simp, fun closing more => ?_⟩
      obtain ⟨stops, -⟩ := step_finish unfinished now true
      have same := (step_finish unfinished now (closing && more.isEmpty)).2
      rw [List.singleton_append, takeLines_cons, takeLines_cons, same, Bool.true_and]
      generalize progress.step context rest.isEmpty line = taken at stops ⊢
      obtain ⟨later, flow⟩ := taken
      cases stops
      rfl
    · rcases stepped : progress.step context rest.isEmpty line with ⟨later, flow⟩
      rw [stepped] at finishes now
      cases flow with
      | next =>
        obtain ⟨front, others, rfl, more, stops⟩ := ih now finishes
        refine ⟨line :: front, others, rfl, by simp, fun closing lines => ?_⟩
        have followed : ∀ lines : List Text, (front ++ lines).isEmpty = false := by simp [more]
        rw [followed] at stepped
        rw [List.cons_append, takeLines_cons, followed, Bool.and_false, stepped,
          continueWith_next, stops, takeLines_cons, followed, Bool.and_false, stepped,
          continueWith_next]
      | stop => exact (now finishes).elim
      | fail failure => exact (now finishes).elim

theorem step_closing (context : MarkupContext) {name line : Text} {progress : Progress}
    (closes : Closes name line)
    (bare : ∀ comment ∈ MarkupComment.scan line, Text.isBlank comment.code = true)
    (collecting : progress.phase = .collecting) (calm : progress.carried = none)
    (inert : progress.stack.operations = []) (isLast : Bool) :
    ∃ entries : Journal Problem, (∀ entry ∈ entries, entry.IsOfLine) ∧
      progress.step ⟨context, some name⟩ isLast line =
        ((progress.report entries).withPhase .finished, .stop) := by
  obtain ⟨comment, scanned, settled, tagged, named⟩ := closes_iff.1 closes
  have nothing := MarkupComment.code_eq_nil scanned (bare comment scanned)
  have rendered : progress.render comment.code = .ok [] := by
    rw [nothing, render, inert]
    rfl
  refine ⟨refusals .finish (Attributes.parse .finish comment.body).2, ofLine_refusals _ _, ?_⟩
  rw [step_collecting_none calm (by simp [collecting]),
    collect_acting progress scanned settled tagged, rendered]
  simp only [handleTag_eq, act, handleEnd_eq, named]
  rfl

/-! ## Extractions -/

/-- Before the lines of the region, an extraction has nothing to go on from but reports. -/
theorem takeLines_opening (context : MarkupContext) {name opening : Text} {before : List Text}
    (unopened : ∀ line ∈ before, ¬Opens name line) (opens : Opens name opening) :
    ∃ entries : Journal Problem, (∀ entry ∈ entries, entry.IsOfLine) ∧
      ∀ (rest : List Text) (store : ReferenceStore), rest ≠ [] →
        takeLines ⟨context, some name⟩ true (before ++ opening :: rest)
            (initial (some name) store) =
          ((takeLines ⟨context, some name⟩ true rest (initial none store)).1.preceded [] entries,
            (takeLines ⟨context, some name⟩ true rest (initial none store)).2) := by
  obtain ⟨early, earlyOfLine, awaited⟩ := takeLines_unopened context unopened
  obtain ⟨found, foundOfLine, opened⟩ := await_opening context opens
  refine ⟨early ++ found, ?_, fun rest store more => ?_⟩
  · intro entry member
    rcases List.mem_append.1 member with before | after
    · exact earlyOfLine entry before
    · exact foundOfLine entry after
  · have followed : rest.isEmpty = false := by simp [more]
    have started : (((initial (some name) store).report early).report found).withPhase
        .collecting = (initial none store).preceded [] (early ++ found) := by
      simp [report, preceded, withPhase, initial]
    rw [takeLines_append _ _ _ (List.cons_ne_nil _ _), awaited false _ rfl rfl, continueWith_next,
      takeLines_cons, step_awaiting_none rfl rfl, opened, continueWith_next, started,
      takeLines_preceded]

/-- The extraction of a region gives what its lines give by themselves. -/
theorem parse_region_eq_parse_lines {context : MarkupContext} {name opening closing : Text}
    {before lines after : List Text} {store : ReferenceStore}
    (unopened : ∀ line ∈ before, ¬Opens name line) (opens : Opens name opening)
    (closes : Closes name closing)
    (bare : ∀ comment ∈ MarkupComment.scan closing, Text.isBlank comment.code = true)
    (matched : .unmatchedEnd ∉
      ((initial none store).parse ⟨context, none⟩ lines).1.journal.warnings)
    (proper : .danglingContinuation ∉
      ((initial none store).parse ⟨context, none⟩ lines).1.journal.warnings)
    (staysOpen : ∀ whole ∈ foldedLines none lines, ¬Closes name whole)
    (inert : ((initial none store).parse ⟨context, none⟩ lines).1.stack.operations = []) :
    let extracted := (initial (some name) store).parse ⟨context, some name⟩
      (before ++ opening :: lines ++ closing :: after)
    let whole := (initial none store).parse ⟨context, none⟩ lines
    extracted.2 = whole.2 ∧ extracted.1.output = whole.1.output ∧
      extracted.1.text = whole.1.text ∧ extracted.1.store = whole.1.store ∧
      (whole.2 = none → extracted.1.phase = .finished ∧ extracted.1.journal.errors = []) := by
  obtain ⟨entries, ofLine, extracts⟩ := takeLines_opening context unopened opens
  intro extracted whole
  simp only [extracted, whole]
  rw [parse_initial] at matched proper inert ⊢
  rw [parse_initial, List.append_assoc, List.cons_append, extracts _ _ (by simp),
    takeLines_append _ _ _ (List.cons_ne_nil _ _)]
  replace matched := fun warned => matched (mem_warnings_outcome warned)
  replace proper := fun warned => proper (mem_warnings_outcome warned)
  have runs := takeLines_flow_whole context true lines (initial none store) rfl proper
  have quiet := takeLines_carried_last ⟨context, none⟩ lines (initial none store) rfl
  have collecting := takeLines_phase_whole context true lines (initial none store) rfl
  have reports := reports_takeLines (initial none store) ⟨context, none⟩ true lines
  rw [takeLines_agree rfl staysOpen matched proper]
  generalize takeLines ⟨context, none⟩ true lines (initial none store) = taken at *
  obtain ⟨later, flow⟩ := taken
  cases flow with
  | fail failure => exact ⟨rfl, by simp, text_congr (by simp), by simp, by simp [Flow.failure?]⟩
  | stop => exact (runs rfl).elim
  | next =>
    obtain ⟨last, lastOfLine, ended⟩ := step_closing context closes bare collecting
      quiet (by simpa using inert) after.isEmpty
    rw [continueWith_next, takeLines_cons, Bool.true_and, ended, continueWith_stop]
    refine ⟨rfl, by simp, text_congr (by simp), by simp, fun _ => ⟨by simp, ?_⟩⟩
    rw [outcome_of_failure?_none _ _ _ rfl, concluded_errors_of_finished _ _ _ rfl]
    simp only [preceded_journal, withPhase_journal, report_journal, Journal.errors_append,
      Journal.errors_eq_nil_of_ofLine ofLine, Journal.errors_eq_nil_of_ofLine lastOfLine,
      reports.errors_eq]
    rfl

/-- A region opened and closed inside of another, with an operation, does not get in the way. -/
theorem parse_region_eq_parse_lines_nested :
    let lines := ["a // @start region=in".toList, "b // @highlight region :".toList,
      "c".toList, "d // @end".toList, "e // @end region=in".toList]
    let extracted := (initial (some ['r']) {}).parse ⟨{}, some ['r']⟩
      (["x".toList] ++ "// @start region=r".toList :: lines ++
        "// @end region=r".toList :: ["y".toList])
    let whole := (initial none {}).parse ⟨{}, none⟩ lines
    extracted.2 = whole.2 ∧ extracted.1.output = whole.1.output ∧
      extracted.1.text = whole.1.text ∧ extracted.1.store = whole.1.store ∧
      (whole.2 = none → extracted.1.phase = .finished ∧ extracted.1.journal.errors = []) :=
  parse_region_eq_parse_lines (by decide +kernel) (by decide +kernel) (by decide +kernel)
    (by decide +kernel) (by decide +kernel) (by decide +kernel) (by decide +kernel)
    (by decide +kernel)

/-- An extraction depends on nothing but the lines from the start of the region to its end. -/
theorem parse_region_eq_parse_closed {context : MarkupContext} {name opening : Text}
    {before lines after : List Text} {store : ReferenceStore}
    (unopened : ∀ line ∈ before, ¬Opens name line)
    (finishes : ((initial (some name) store).parse ⟨context, some name⟩
      (opening :: lines)).1.phase = .finished)
    (notBefore : ∀ front, front <+: lines → front ≠ lines →
      ((initial (some name) store).parse ⟨context, some name⟩
        (opening :: front)).1.phase ≠ .finished) :
    let wide := (initial (some name) store).parse ⟨context, some name⟩
      (before ++ opening :: lines ++ after)
    let close := (initial (some name) store).parse ⟨context, some name⟩ (opening :: lines)
    wide.2 = none ∧ close.2 = none ∧ wide.1.output = close.1.output ∧
      wide.1.text = close.1.text ∧ wide.1.phase = close.1.phase ∧
      wide.1.stack = close.1.stack ∧ wide.1.store = close.1.store ∧
      wide.1.journal.errors = close.1.journal.errors ∧
      wide.1.journal.warnings =
        (run ⟨context, some name⟩ before (initial (some name) store)).1.journal.warnings ++
          close.1.journal.warnings := by
  obtain ⟨early, earlyOfLine, awaited⟩ := takeLines_unopened context unopened
  have waiting : (initial (some name) store).phase ≠ .finished := by simp [initial]
  have started : (initial (some name) store).report early =
      (initial (some name) store).preceded [] early := by simp [report, preceded, initial]
  simp only [parse_initial, outcome_phase] at finishes notBefore
  obtain ⟨front, rest, cut, more, stops⟩ := takeLines_finish waiting finishes
  -- The run stops within `opening :: lines`, and by `notBefore` not before its last line.
  have whole : front = opening :: lines := by
    cases front with
    | nil => exact (more rfl).elim
    | cons first front =>
      rw [List.cons_append, List.cons.injEq] at cut
      obtain ⟨rfl, rfl⟩ := cut
      by_contra shorter
      refine notBefore front (List.prefix_append front rest) ?_ ?_
      · exact fun same => shorter (by rw [← same])
      · have stopped := stops true []
        rw [List.append_nil] at stopped
        rw [stopped]
        exact finishes
  subst whole
  have closed := stops true []
  rw [List.append_nil] at closed
  intro wide close
  simp only [wide, close, parse_initial, run_eq_takeLines]
  rw [List.append_assoc, takeLines_append _ _ _ (by simp), awaited false _ rfl rfl,
    awaited true _ rfl rfl, continueWith_next, started, takeLines_preceded, stops true after]
  generalize takeLines ⟨context, some name⟩ true (opening :: lines) (initial (some name) store) =
    taken at *
  obtain ⟨later, flow⟩ := taken
  cases closed
  dsimp only at finishes ⊢
  rw [outcome_of_failure?_none _ _ _ rfl, outcome_of_failure?_none _ _ _ rfl]
  refine ⟨rfl, rfl, rfl, rfl, rfl, rfl, rfl, ?_, ?_⟩
  · rw [concluded_errors_of_finished (later.preceded [] early) _ _ finishes,
      concluded_errors_of_finished later _ _ finishes, preceded_journal, Journal.errors_append,
      Journal.errors_eq_nil_of_ofLine earlyOfLine]
    rfl
  · rw [concluded_warnings, concluded_warnings]
    simp only [preceded_journal, Journal.warnings_append, List.append_assoc]
    rfl

/-- A start tag without a name before the region leaves its warning, and what follows the end of
the region leaves nothing. -/
theorem parse_region_eq_parse_closed_amid :
    let before := ["// @start".toList, "w // @highlight :".toList]
    let opening := "// @start region=r".toList
    let lines := ["x // @highlight region".toList, "y // @end".toList, "z // @end :".toList,
      "// @end".toList]
    let wide := (initial (some ['r']) {}).parse ⟨{}, some ['r']⟩
      (before ++ opening :: lines ++ ["// @end".toList])
    let close := (initial (some ['r']) {}).parse ⟨{}, some ['r']⟩ (opening :: lines)
    wide.2 = none ∧ close.2 = none ∧ wide.1.output = close.1.output ∧
      wide.1.text = close.1.text ∧ wide.1.phase = close.1.phase ∧
      wide.1.stack = close.1.stack ∧ wide.1.store = close.1.store ∧
      wide.1.journal.errors = close.1.journal.errors ∧
      wide.1.journal.warnings =
        (run ⟨{}, some ['r']⟩ before (initial (some ['r']) {})).1.journal.warnings ++
          close.1.journal.warnings := by
  refine parse_region_eq_parse_closed (by decide +kernel) (by decide +kernel) ?_
  have notBefore : ∀ front ∈ ["x // @highlight region".toList, "y // @end".toList,
      "z // @end :".toList, "// @end".toList].inits, front ≠ ["x // @highlight region".toList,
      "y // @end".toList, "z // @end :".toList, "// @end".toList] →
      ((initial (some ['r']) {}).parse ⟨{}, some ['r']⟩
        ("// @start region=r".toList :: front)).1.phase ≠ .finished := by decide +kernel
  exact fun front isPrefix differs => notBefore front ((List.mem_inits _ _).2 isPrefix) differs

end Progress

end SnippetMarkup
