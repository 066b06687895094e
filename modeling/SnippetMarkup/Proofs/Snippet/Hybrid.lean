import Mathlib
import SnippetMarkup.Snippet.Converter
import SnippetMarkup.Proofs.Snippet.Comparison
import SnippetMarkup.Proofs.Snippet.Reports
import SnippetMarkup.Proofs.Source.Library

/-!
# Snippets with two bodies

The lines inside of a tag are worked through against the store that all snippets share, the lines
of the file against an empty one.  So two bodies with the same lines give the same text as long as
the shared store gives the references in them the ids that they would get in an empty store.
-/

namespace SnippetMarkup.Converter

open Progress
open ReferenceStore (Agree)

variable {converter : Converter} {source : SnippetSource} {store : ReferenceStore}

/-! ## The text of some lines -/

def taken (converter : Converter) (source : SnippetSource) (store : ReferenceStore) :
    Progress × Flow :=
  takeLines (converter.context source) true source.lines (initial source.region store)

def result (taken : Progress × Flow) : Except Failure (Text × ReferenceStore) :=
  match taken.2.failure? with
  | some failure => .error (.markup failure)
  | none => .ok (taken.1.text, taken.1.store)

theorem parseSource_eq (converter : Converter) (source : SnippetSource) (store : ReferenceStore) :
    converter.parseSource source store =
      ⟨(outcome (converter.context source) source.lines.length
        (converter.taken source store)).1.journal, result (converter.taken source store)⟩ := by
  rw [parseSource, parse_initial, ← taken]
  unfold result outcome
  cases (converter.taken source store).2.failure? <;> rfl

theorem parseSource_result :
    (converter.parseSource source store).result = result (converter.taken source store) := by
  rw [parseSource_eq]

theorem result_eq_ok_iff {taken : Progress × Flow} {value : Text × ReferenceStore} :
    result taken = .ok value ↔
      taken.2.failure? = none ∧ (taken.1.text, taken.1.store) = value := by
  unfold result
  cases taken.2.failure? <;> simp

theorem bodiesDiffer_notMem_parseSource (origin : Text) :
    .bodiesDiffer origin ∉ (converter.parseSource source store).journal.warnings := by
  have early : .bodiesDiffer origin ∉ (converter.taken source store).1.journal.warnings :=
    fun warned => ofLine_of_mem_takeLines warned
  rw [parseSource_eq]
  intro warned
  unfold outcome at warned
  split at warned
  · exact early warned
  · rw [concluded_warnings, List.mem_append] at warned
    rcases warned with lines | last
    · exact early lines
    · rw [warnings_closingProblems] at last
      split at last <;> simp at last

/-! ## Where the lines come from -/

theorem parallel_taken (converter : Converter) (comparison : StoreComparison)
    (source : SnippetSource) {first second : ReferenceStore}
    (stores : comparison.related first second) (origin : Text) :
    Parallel comparison (converter.taken source first)
      (converter.taken { source with origin := origin } second) := by
  have alike : Alike comparison (initial source.region first) (initial source.region second) :=
    ⟨rfl, rfl, rfl, rfl, rfl, stores⟩
  exact alike.takeLines (converter.context source).toMarkupContext origin source.region true
    source.lines

/-- The place where lines come from plays no part in their text. -/
theorem parseSource_moved (converter : Converter) (source : SnippetSource)
    (store : ReferenceStore) (origin : Text) :
    (converter.parseSource { source with origin := origin } store).result =
      (converter.parseSource source store).result := by
  have stores : StoreComparison.same.related store store := rfl
  rcases parallel_taken converter .same source stores origin with ⟨alike, flow⟩ | clash
  · rw [parseSource_result, parseSource_result, result, result, flow, text_congr alike.output,
      alike.stores]
  · exact clash.elim

/-- Lines give the same text against stores that agree in the end. -/
theorem text_eq_of_agree {shared fresh : Text × ReferenceStore} {other : ReferenceStore}
    (first : (converter.parseSource source store).result = .ok shared)
    (second : (converter.parseSource source other).result = .ok fresh)
    (agree : Agree shared.2 fresh.2) : shared.1 = fresh.1 := by
  rw [parseSource_result, result_eq_ok_iff] at first second
  obtain ⟨-, rfl⟩ := first
  obtain ⟨-, rfl⟩ := second
  have stores : StoreComparison.agreeing.related store other := trivial
  rcases parallel_taken converter .agreeing source stores source.origin with ⟨alike, -⟩ | clash
  · exact text_congr alike.output
  · exact (clash agree).elim

/-- Lines that are worked through again, against a store that has grown since, come to the same
text and problems, and store nothing. -/
theorem parseSource_again {text : Text} {later grown : ReferenceStore}
    (first : (converter.parseSource source store).result = .ok (text, later))
    (known : later.Extends grown) :
    (converter.parseSource source grown).result = .ok (text, grown) ∧
      (converter.parseSource source grown).journal.problems =
        (converter.parseSource source store).journal.problems := by
  have stores : (StoreComparison.repeating grown).related store grown := rfl
  rw [parseSource_result, result_eq_ok_iff, Prod.mk.injEq] at first
  obtain ⟨completes, sameText, sameStore⟩ := first
  rcases parallel_taken converter (.repeating grown) source stores source.origin with
    ⟨alike, flow⟩ | clash
  · constructor
    · rw [parseSource_result, result_eq_ok_iff]
      exact ⟨flow ▸ completes, by rw [← sameText, text_congr alike.output, alike.stores]⟩
    · rw [parseSource_eq, parseSource_eq]
      exact (alike.problems_outcome flow _ _ source.region _).symm
  · exact (clash (sameStore ▸ known)).elim

/-! ## Two bodies -/

theorem quiet_resolve (converter : Converter) (snippet : Snippet) :
    (converter.resolve snippet).Quiet := by
  unfold resolve
  split
  · next library _ =>
    split
    · exact library.quiet_resolve converter.settings snippet
    · exact .pure none
  · exact .pure none

theorem region_of_resolve {snippet : Snippet} {external : SnippetSource}
    (found : (converter.resolve snippet).result = .ok (some external)) :
    external.region = snippet.region := by
  unfold resolve at found
  split at found
  · split at found
    · exact Library.region_of_resolve found
    · simp at found
  · simp at found

theorem bodiesDiffer_mem_parseBoth_iff (body : List Text) (external : SnippetSource)
    (store : ReferenceStore) (origin : Text) :
    .bodiesDiffer origin ∈ (converter.parseBoth body external store).journal.warnings ↔
      ∃ shared fresh, (converter.parseSource { lines := body } store).result = .ok shared ∧
        (converter.parseSource external {}).result = .ok fresh ∧ shared.1 ≠ fresh.1 ∧
        origin = external.origin := by
  have inner : .bodiesDiffer origin ∉
      (converter.parseSource { lines := body } store).journal.warnings :=
    bodiesDiffer_notMem_parseSource origin
  unfold parseBoth
  generalize converter.parseSource { lines := body } store = shown at inner ⊢
  generalize converter.parseSource external {} = compared
  obtain ⟨journal, outcome⟩ := shown
  obtain ⟨others, comparedOutcome⟩ := compared
  cases outcome with
  | error failure => simpa using inner
  | ok shared =>
    cases comparedOutcome with
    | error failure => simpa [Reported.withoutProblems] using inner
    | ok fresh =>
      by_cases equal : shared.1 = fresh.1
      · simpa [Reported.withoutProblems, Reported.report, equal] using inner
      · have unwarned : .bodiesDiffer origin ∉ journal.warnings := inner
        simp [Reported.withoutProblems, Reported.report, equal, unwarned]

/-- What the comparison of two texts has to report. -/
def mismatch (text other origin : Text) : Journal Problem :=
  if text = other then [] else [.warning (.bodiesDiffer origin)]

section Both

variable {body : List Text} {external : SnippetSource} {shown compared : Text × ReferenceStore}

/-- If both bodies can be worked through, the first one is shown, and all that the second one adds
is the outcome of the comparison. -/
theorem parseBoth_of_ok
    (first : (converter.parseSource { lines := body } store).result = .ok shown)
    (second : (converter.parseSource external {}).result = .ok compared) :
    (converter.parseBoth body external store).result = .ok shown ∧
      (converter.parseBoth body external store).journal.problems =
        (converter.parseSource { lines := body } store).journal.problems ++
          mismatch shown.1 compared.1 external.origin := by
  have quiet : (converter.parseSource external {}).withoutProblems.result = .ok compared := second
  unfold parseBoth
  rw [Reported.bind_result_of_ok first, Reported.bind_journal_of_ok first,
    Reported.bind_result_of_ok quiet, Reported.bind_journal_of_ok quiet]
  refine ⟨rfl, ?_⟩
  simp only [Reported.report, Reported.withoutProblems, Reported.pure_eq, Reported.bind_ok,
    List.append_nil, Journal.problems_append, Journal.problems_notes, List.nil_append, mismatch]
  split <;> rfl

theorem exists_of_parseBoth (completes : (converter.parseBoth body external store).result =
    .ok shown) :
    (converter.parseSource { lines := body } store).result = .ok shown ∧
      ∃ compared, (converter.parseSource external {}).result = .ok compared := by
  obtain ⟨own, first, rest⟩ := Reported.of_bind_result completes
  obtain ⟨compared, second, rest⟩ := Reported.of_bind_result rest
  obtain ⟨-, -, rest⟩ := Reported.of_bind_result rest
  obtain rfl : own = shown := Except.ok.inj rest
  exact ⟨first, compared, second⟩

end Both

/-! ## Snippets -/

section Snippets

variable {snippet : Snippet} {body : List Text} {found : Option SnippetSource} {text html : Text}
  {later : ReferenceStore}

/-- The text of a snippet for which some lines have been looked up, with success or without. -/
def parseFound (converter : Converter) (snippet : Snippet) (found : Option SnippetSource)
    (store : ReferenceStore) : Reported (Text × ReferenceStore) :=
  match snippet.body, found with
  | some body, some external => converter.parseBoth body external store
  | some body, none => converter.parseSource { lines := body } store
  | none, some external => converter.parseSource external store
  | none, none =>
    ⟨[.warning .unresolvedSnippet], .ok (converter.settings.unresolvedPlaceholder, store)⟩

theorem parseFound_inside (inside : snippet.body = some body) (found : Option SnippetSource)
    (store : ReferenceStore) :
    converter.parseFound snippet found store =
      match found with
      | some external => converter.parseBoth body external store
      | none => converter.parseSource { lines := body } store := by
  unfold parseFound
  rw [inside]
  cases found <;> rfl

theorem parseSnippet_eq (converter : Converter) (snippet : Snippet) (store : ReferenceStore) :
    converter.parseSnippet snippet store =
      converter.resolve snippet >>= fun found => converter.parseFound snippet found store := rfl

theorem journal_convert (converter : Converter) (snippet : Snippet) (store : ReferenceStore) :
    (converter.convert snippet store).journal =
      (converter.parseSnippet snippet store).journal := by
  unfold convert
  rcases converter.parseSnippet snippet store with ⟨journal, failure | value⟩
  · rfl
  · simp

/-- A conversion completes if the lines of the snippet have been looked up, with success or
without, and the text is complete. -/
theorem convert_result_eq_ok_iff :
    (converter.convert snippet store).result = .ok (html, later) ↔
      ∃ found text, (converter.resolve snippet).result = .ok found ∧
        (converter.parseFound snippet found store).result = .ok (text, later) ∧
        converter.element snippet text = html := by
  constructor
  · intro completes
    obtain ⟨⟨text, after⟩, parsed, made⟩ := Reported.of_bind_result completes
    obtain ⟨sameHtml, rfl⟩ := Prod.mk.inj (Except.ok.inj made)
    obtain ⟨found, resolved, parsed⟩ := Reported.of_bind_result parsed
    exact ⟨found, text, resolved, parsed, sameHtml⟩
  · rintro ⟨found, text, resolved, parsed, rfl⟩
    have whole : (converter.parseSnippet snippet store).result = .ok (text, later) := by
      rw [parseSnippet_eq, Reported.bind_result_of_ok resolved, parsed]
    rw [convert, Reported.bind_result_of_ok whole]
    rfl

theorem problems_convert (resolved : (converter.resolve snippet).result = .ok found)
    (store : ReferenceStore) :
    (converter.convert snippet store).journal.problems =
      (converter.parseFound snippet found store).journal.problems := by
  rw [journal_convert, parseSnippet_eq, Reported.bind_journal_of_ok resolved,
    Journal.problems_append, (quiet_resolve converter snippet).problems_eq_nil, List.nil_append]

theorem warnings_convert {external : SnippetSource} (inside : snippet.body = some body)
    (found : (converter.resolve snippet).result = .ok (some external)) (store : ReferenceStore) :
    (converter.convert snippet store).journal.warnings =
      (converter.parseBoth body external store).journal.warnings := by
  rw [← Journal.warnings_problems, problems_convert found, Journal.warnings_problems,
    parseFound_inside inside]

/-- The lines that a snippet with lines of its own refers to change nothing but that they may be
reported to differ, after everything else. -/
theorem convert_eq_convert_inside (inside : snippet.body = some body)
    (completes : (converter.convert snippet store).result = .ok (html, later)) :
    let alone := converter.convert { snippet with file := none, className := none } store
    alone.result = .ok (html, later) ∧
      ∃ entries, (converter.convert snippet store).journal.problems =
          alone.journal.problems ++ entries ∧
        (entries = [] ∨ ∃ origin, entries = [.warning (.bodiesDiffer origin)]) := by
  obtain ⟨found, text, resolved, parsed, rfl⟩ := convert_result_eq_ok_iff.1 completes
  have nothing : (converter.resolve { snippet with file := none, className := none }).result =
      .ok none := by
    unfold resolve
    split <;> rfl
  have insideAlone : Snippet.body { snippet with file := none, className := none } = some body :=
    inside
  have own : converter.parseFound { snippet with file := none, className := none } none store =
      converter.parseSource { lines := body } store := parseFound_inside insideAlone none store
  intro alone
  have problems : alone.journal.problems =
      (converter.parseSource { lines := body } store).journal.problems := by
    rw [← own]
    exact problems_convert nothing store
  have result (first : (converter.parseSource { lines := body } store).result =
      .ok (text, later)) : alone.result = .ok (converter.element snippet text, later) :=
    convert_result_eq_ok_iff.2 ⟨none, text, nothing, by rwa [own], rfl⟩
  rw [parseFound_inside inside] at parsed
  rw [problems_convert resolved, problems, parseFound_inside inside]
  cases found with
  | none => exact ⟨result parsed, [], by simp⟩
  | some external =>
    obtain ⟨first, compared, second⟩ := exists_of_parseBoth parsed
    refine ⟨result first, _, (parseBoth_of_ok first second).2, ?_⟩
    unfold mismatch
    split
    · exact .inl rfl
    · exact .inr ⟨external.origin, rfl⟩

/-- The lines of the file end a region that is not open, have a pattern that cannot be read, link
something else, and leave the region that is asked for open. -/
theorem convert_eq_convert_inside_malformed :
    let file := Text.joinLines ["x // @start region=r".toList, "y // @end region=s".toList,
      "z // @link regex=( target=Foo".toList, "f // @link target=Foo".toList]
    let converter : Converter :=
      { library := some
          { tree := { files := [(["L.txt".toList], Utf8.encode file)] }, folders := [{}] }
        targets := some { entries :=
          [("Foo".toList, "pkg/Foo".toList), ("Bar".toList, "pkg/Bar".toList)] } }
    let snippet : Snippet :=
      { body := some ["Bar b; // @link substring=Bar target=Bar".toList, "c // @end".toList]
        file := some "L.txt".toList, region := some ['r'] }
    let html := "<pre><a data-dri=\"ref-0\">Bar</a> b;\nc</pre>".toList
    let later : ReferenceStore := { entries := [⟨"ref-0".toList, "pkg/Bar".toList⟩] }
    let alone := converter.convert { snippet with file := none, className := none } {}
    (converter.convert snippet {}).result = .ok (html, later) ∧
      alone.result = .ok (html, later) ∧
      ∃ entries, (converter.convert snippet {}).journal.problems =
          alone.journal.problems ++ entries ∧
        (entries = [] ∨ ∃ origin, entries = [.warning (.bodiesDiffer origin)]) := by
  intro file converter snippet html later
  have completes : (converter.convert snippet {}).result = .ok (html, later) := by decide +kernel
  exact ⟨completes, convert_eq_convert_inside rfl completes⟩

end Snippets

/-- A snippet with two bodies of the same lines is reported exactly if the lines give one text
against the shared store and another one against an empty store; and they give the same text if
their references have the same ids in both in the end. -/
theorem convert_reports_bodiesDiffer_iff {snippet : Snippet} {body : List Text}
    {external : SnippetSource} (inside : snippet.body = some body)
    (entire : snippet.region = none)
    (found : (converter.resolve snippet).result = .ok (some external))
    (same : external.lines = body) (store : ReferenceStore) :
    ((∃ origin, .bodiesDiffer origin ∈ (converter.convert snippet store).journal.warnings) ↔
      ∃ shared fresh,
        (converter.parseSource { lines := body } store).result = .ok shared ∧
        (converter.parseSource { lines := body } {}).result = .ok fresh ∧ shared.1 ≠ fresh.1) ∧
      ∀ shared fresh, (converter.parseSource { lines := body } store).result = .ok shared →
        (converter.parseSource { lines := body } {}).result = .ok fresh →
        Agree shared.2 fresh.2 → shared.1 = fresh.1 := by
  have moved : external = { lines := body, origin := external.origin } := by
    rw [← same, ← entire, ← region_of_resolve found]
  have result := parseSource_moved converter { lines := body } {} external.origin
  rw [← moved] at result
  constructor
  · simp only [warnings_convert inside found, bodiesDiffer_mem_parseBoth_iff, result]
    constructor
    · rintro ⟨origin, shared, fresh, first, second, differ, -⟩
      exact ⟨shared, fresh, first, second, differ⟩
    · rintro ⟨shared, fresh, first, second, differ⟩
      exact ⟨external.origin, shared, fresh, first, second, differ, rfl⟩
  · exact fun shared fresh first second agree => text_eq_of_agree first second agree

/-! ## A snippet that comes second -/

def barLine : Text := "Bar b; // @link substring=Bar target=Bar".toList

def barSnippet : Snippet := { body := some [barLine], file := some "L.txt".toList }

/-- What the snippet is converted against: its file, and two targets. -/
def barConverter : Converter where
  library := some
    { tree := { files := [(["L.txt".toList], Utf8.encode barLine)] }, folders := [{}] }
  targets := some { entries :=
    [("Foo".toList, "pkg/Foo".toList), ("Bar".toList, "pkg/Bar".toList)] }

/-- The store in which another reference has been stored already. -/
def fooStore : ReferenceStore := { entries := [⟨"ref-0".toList, "pkg/Foo".toList⟩] }

theorem convert_reports_bodiesDiffer_bar :
    ((∃ origin, .bodiesDiffer origin ∈
        (barConverter.convert barSnippet fooStore).journal.warnings) ↔
      ∃ shared fresh,
        (barConverter.parseSource { lines := [barLine] } fooStore).result = .ok shared ∧
        (barConverter.parseSource { lines := [barLine] } {}).result = .ok fresh ∧
          shared.1 ≠ fresh.1) ∧
      ∀ shared fresh,
        (barConverter.parseSource { lines := [barLine] } fooStore).result = .ok shared →
        (barConverter.parseSource { lines := [barLine] } {}).result = .ok fresh →
        Agree shared.2 fresh.2 → shared.1 = fresh.1 := by
  have found : (barConverter.resolve barSnippet).result =
      .ok (some ⟨[barLine], "L.txt".toList, none⟩) := by decide +kernel
  exact convert_reports_bodiesDiffer_iff rfl rfl found rfl fooStore

/-- After a snippet that links something else, the snippet is reported although its two bodies
have the same lines. -/
theorem bodiesDiffer_after_other_link :
    ((barConverter.convert { body := some ["Foo f; // @link substring=Foo target=Foo".toList] }
        {}).result.map Prod.snd = .ok fooStore) ∧
      (barConverter.resolve barSnippet).result = .ok (some ⟨[barLine], "L.txt".toList, none⟩) ∧
      barSnippet.body = some [barLine] ∧ barSnippet.region = none ∧
      .bodiesDiffer "L.txt".toList ∈
        (barConverter.convert barSnippet fooStore).journal.warnings := by
  decide +kernel

end SnippetMarkup.Converter
