import Mathlib
import SnippetMarkup.Proofs.Operation.Build
import SnippetMarkup.Proofs.Report.Journal
import SnippetMarkup.Proofs.Snippet.Run

/-!
# What lines report

Lines only ever add to the journal, and what they add is about their own markup.  The other
problems are found out at the end of a run or outside of it.
-/

namespace SnippetMarkup

namespace Journal

theorem errors_eq_nil_of_ofLine {journal : Journal Problem}
    (ofLine : ∀ entry ∈ journal, entry.IsOfLine) : journal.errors = [] := by
  refine List.filterMap_eq_nil_iff.2 fun entry member => ?_
  cases entry with
  | note level text => rfl
  | warning problem => rfl
  | error problem => exact (ofLine _ member).elim

theorem ofLine_of_mem_warnings {journal : Journal Problem}
    (ofLine : ∀ entry ∈ journal, entry.IsOfLine) {problem : Problem}
    (warned : problem ∈ journal.warnings) : (Entry.warning problem).IsOfLine := by
  obtain ⟨entry, member, shown⟩ := List.mem_filterMap.1 warned
  cases entry with
  | note level text => simp at shown
  | warning problem =>
    simp only [Option.some.injEq] at shown
    exact shown ▸ ofLine _ member
  | error problem => simp at shown

end Journal

namespace Progress

/-- A later state has the journal of an earlier one, with reports about lines added to it. -/
def Reports (progress later : Progress) : Prop :=
  ∃ entries, later.journal = progress.journal ++ entries ∧ ∀ entry ∈ entries, entry.IsOfLine

namespace Reports

variable {progress middle later : Progress}

theorem of_journal_eq (same : later.journal = progress.journal) : Reports progress later :=
  ⟨[], by simp [same], by simp⟩

theorem trans (first : Reports progress middle) (second : Reports middle later) :
    Reports progress later := by
  obtain ⟨entries, added, ofLine⟩ := first
  obtain ⟨more, addedMore, moreOfLine⟩ := second
  refine ⟨entries ++ more, by rw [addedMore, added, List.append_assoc], ?_⟩
  intro entry member
  rcases List.mem_append.1 member with early | late
  · exact ofLine entry early
  · exact moreOfLine entry late

theorem of_report (progress : Progress) {entries : Journal Problem}
    (ofLine : ∀ entry ∈ entries, entry.IsOfLine) : Reports progress (progress.report entries) :=
  ⟨entries, rfl, ofLine⟩

theorem mem_warnings (reports : Reports progress later) {problem : Problem}
    (warned : problem ∈ progress.journal.warnings) : problem ∈ later.journal.warnings := by
  obtain ⟨entries, added, -⟩ := reports
  simp [added, warned]

theorem errors_eq (reports : Reports progress later) :
    later.journal.errors = progress.journal.errors := by
  obtain ⟨entries, added, ofLine⟩ := reports
  rw [added, Journal.errors_append, Journal.errors_eq_nil_of_ofLine ofLine, List.append_nil]

end Reports

variable (progress : Progress)

theorem ofLine_refusals (tag : Tag) (names : List Text) :
    ∀ entry ∈ refusals tag names, entry.IsOfLine := by
  intro entry member
  obtain ⟨name, -, rfl⟩ := List.mem_map.1 member
  trivial

theorem reports_refusals (tag : Tag) (names : List Text) :
    Reports progress (progress.report (refusals tag names)) :=
  .of_report progress (ofLine_refusals tag names)

theorem reports_warn (problem : Problem) (ofLine : (Entry.warning problem).IsOfLine) :
    Reports progress (progress.warn problem) :=
  .of_report progress (by simpa using ofLine)

theorem mem_warnings_warn (problem : Problem) :
    problem ∈ (progress.warn problem).journal.warnings := by
  rw [warn, report, Journal.warnings_append]
  exact List.mem_append_right _ List.mem_cons_self

theorem reports_handleStart (attributes : Attributes) :
    Reports progress (progress.handleStart attributes) := by
  rw [handleStart_eq]
  split
  · exact reports_warn progress _ trivial
  · exact .of_journal_eq rfl

theorem reports_closing (name : Option Text) : Reports progress (progress.closing name) := by
  unfold closing
  split
  · exact .of_journal_eq rfl
  · cases name with
    | none => exact reports_warn progress .unmatchedEnd trivial
    | some name => exact reports_warn progress (.unknownRegion name) trivial

theorem reports_handleEnd (context : SnippetContext) (attributes : Attributes) (code : Text) :
    Reports progress (progress.handleEnd context attributes code) := by
  rw [handleEnd_eq]
  split
  · exact .of_journal_eq (emitVisible_journal progress code)
  · exact (reports_closing progress _).trans (.of_journal_eq (emitVisible_journal _ code))

theorem reports_handleOperation (context : SnippetContext) (tag : Tag) (attributes : Attributes)
    (code : Text) :
    Reports progress (progress.handleOperation context tag attributes code).1 :=
  handleOperation_cases (motive := fun taken => Reports progress taken.1) progress context
    attributes code tag (fun _ => .of_journal_eq rfl) fun _ made =>
      (Reports.of_report progress (Operation.ofLine_of_build made)).trans
        (.of_journal_eq (perform_journal _ _ _ _))

theorem reports_handleTag (context : SnippetContext) (tag : Tag) (body code : Text) :
    Reports progress (progress.handleTag context tag body code).1 := by
  rw [handleTag_eq]
  refine (reports_refusals progress tag (Attributes.parse tag body).2).trans ?_
  exact act_cases (motive := fun taken => Reports _ taken.1) _ context _ code tag
    (reports_handleStart _ _) (reports_handleEnd _ _ _ _)
    (reports_handleOperation _ _ tag _ _)

theorem reports_collect (context : SnippetContext) (isLast : Bool) (line : Text) :
    Reports progress (progress.collect context isLast line).1 := by
  have collected := collects progress context isLast line
  generalize progress.collect context isLast line = taken at collected
  cases collected with
  | unrendered failure => exact .of_journal_eq rfl
  | plain shown => exact .of_journal_eq rfl
  | carried code => exact .of_journal_eq (emitVisible_journal progress code)
  | dangling => exact reports_warn progress _ trivial
  | idle => exact .of_journal_eq rfl
  | acted code =>
    rw [settle_fst]
    exact reports_handleTag progress context _ _ code

theorem reports_await (context : SnippetContext) (line : Text) :
    Reports progress (progress.await context line) := by
  rw [await_eq]
  split
  · exact .of_journal_eq rfl
  · next comment _ =>
    have refused := reports_refusals progress .start (Attributes.parse .start comment.body).2
    split
    · split
      · exact refused.trans (reports_warn _ _ trivial)
      · next name _ =>
        split
        · exact refused.trans ⟨[.note 3 (foundNote name)], rfl, by simp [Entry.IsOfLine]⟩
        · exact refused
    · exact .of_journal_eq rfl

theorem reports_step (context : SnippetContext) (isLast : Bool) (line : Text) :
    Reports progress (progress.step context isLast line).1 := by
  by_cases awaiting : progress.phase = .awaiting
  · rw [step_awaiting progress awaiting]
    exact reports_await (progress.carrying none) context _
  · rw [step_collecting progress awaiting]
    exact reports_collect (progress.carrying none) context isLast _

theorem reports_continueWith (taken : Progress × Flow) {next : Progress → Progress × Flow}
    (reports : ∀ later, Reports later (next later).1) :
    Reports taken.1 (continueWith taken next).1 :=
  continueWith_keeps (motive := Reports) (fun _ => .of_journal_eq rfl) taken reports

/-- What a run adds to the journal is about its lines. -/
theorem reports_takeLines (context : SnippetContext) (closing : Bool) (lines : List Text) :
    Reports progress (takeLines context closing lines progress).1 := by
  refine takeLines_keeps (motive := Reports progress) ?_ closing lines (.of_journal_eq rfl)
  intro isLast line later reports
  exact reports.trans (reports_step later context isLast line)

/-- What a run from the beginning warns of is about its lines. -/
theorem ofLine_of_mem_takeLines {context : SnippetContext} {closing : Bool} {lines : List Text}
    {region : Option Text} {store : ReferenceStore} {problem : Problem}
    (warned : problem ∈
      (takeLines context closing lines (initial region store)).1.journal.warnings) :
    (Entry.warning problem).IsOfLine := by
  obtain ⟨entries, added, ofLine⟩ := reports_takeLines (initial region store) context closing lines
  rw [added] at warned
  exact Journal.ofLine_of_mem_warnings ofLine warned

/-! ## The end of a run -/

theorem concluded_warnings (context : SnippetContext) (count : Nat) :
    (progress.concluded context count).journal.warnings =
      progress.journal.warnings ++ (progress.closingProblems context).warnings := by
  simp [concluded, report, Journal.warnings]

theorem concluded_errors (context : SnippetContext) (count : Nat) :
    (progress.concluded context count).journal.errors =
      progress.journal.errors ++ (progress.closingProblems context).errors := by
  simp [concluded, report, Journal.errors]

theorem warnings_closingProblems (context : SnippetContext) :
    (progress.closingProblems context).warnings =
      if progress.stack.size = 0 then [] else [.unclosedRegions progress.stack.names] := by
  rw [closingProblems]
  split <;> split <;> rfl

theorem errors_closingProblems (context : SnippetContext) :
    (progress.closingProblems context).errors =
      if context.region.isSome ∧ progress.phase ≠ .finished then [.unclosedExtraction]
      else [] := by
  rw [closingProblems]
  split <;> split <;> rfl

/-- A run that has ended the extraction has no errors. -/
theorem concluded_errors_of_finished (context : SnippetContext) (count : Nat)
    (finished : progress.phase = .finished) :
    (progress.concluded context count).journal.errors = progress.journal.errors := by
  rw [concluded_errors, errors_closingProblems]
  simp [finished]

section Outcome

variable {context : SnippetContext} (count total : Nat) (output : List Text)
  (journal : Journal Problem) (taken : Progress × Flow)

theorem outcome_warnings_preceded :
    (outcome context total (taken.1.preceded output journal, taken.2)).1.journal.warnings =
      journal.warnings ++ (outcome context count taken).1.journal.warnings := by
  obtain ⟨progress, flow⟩ := taken
  have same : (progress.preceded output journal).closingProblems context =
    progress.closingProblems context := rfl
  unfold outcome
  dsimp only
  cases flow.failure? with
  | some failure => simp
  | none =>
    rw [concluded_warnings, concluded_warnings, same, preceded_journal, Journal.warnings_append,
      List.append_assoc]

end Outcome

theorem mem_warnings_outcome {context : SnippetContext} {count : Nat} {taken : Progress × Flow}
    {problem : Problem} (warned : problem ∈ taken.1.journal.warnings) :
    problem ∈ (outcome context count taken).1.journal.warnings := by
  unfold outcome
  split
  · exact warned
  · rw [concluded_warnings]
    exact List.mem_append_left _ warned

end Progress

end SnippetMarkup
