import Mathlib
import SnippetMarkup.Run.Command
import SnippetMarkup.Proofs.Run.Pipeline
import SnippetMarkup.Proofs.Snippet.Hybrid

/-!
# What a whole run writes

A run through all stages converts one snippet of the files that it finds.  Either it ends with a
complaint before anything is written, or it writes one file, which holds what the converter gives
for that snippet.
-/

namespace SnippetMarkup.RunOptions

open Stage (loadTargets targetsPath? texts Objects)

/-- The path of the file for the result. -/
def resultPath (options : RunOptions) : Path :=
  options.outputFolder.extend ({ toRunOptions := options } : RunState).outputName

/-- The snippet of a run. -/
def snippet (options : RunOptions) : Snippet := ({ toRunOptions := options } : RunState).snippet

/-- The converter that looks for the snippet in the input folder. -/
def converter (options : RunOptions) (toolkit : Toolkit) (settings : Settings)
    (targets : Option Targets) (tree : FileTree) : Converter where
  settings := settings
  library := some ⟨tree, [options.inputFolder], toolkit.codecs⟩
  targets := targets
  characters := toolkit.characters

variable {toolkit : Toolkit} {settings : Settings} {options : RunOptions} {tree grown : FileTree}
  {later : RunState} {targets : Option Targets}

/-- A target file gives the same when there are more folders. -/
theorem load_withFolders {path : Path} (there : tree.isFile path = .ok true)
    (folders : List Place) (loader : Yaml.Loader) (memberFallback : Bool) :
    Targets.load loader (tree.withFolders folders) path memberFallback =
      Targets.load loader tree path memberFallback := by
  have same := (FileTree.isFile_withFolders there folders).2
  have file : Targets.readFile loader (tree.withFolders folders) path =
      Targets.readFile loader tree path := by
    unfold Targets.readFile
    rw [same]
  simp only [Targets.load, file]

theorem loadTargets_withFolders {path? : Option Path}
    (there : ∀ path, path? = some path → tree.isFile path = .ok true) (folders : List Place)
    (loader : Yaml.Loader) :
    loadTargets loader (tree.withFolders folders) path? = loadTargets loader tree path? := by
  cases path? with
  | none => rfl
  | some path => rw [loadTargets, loadTargets, load_withFolders (there path rfl)]

/-- A conversion of lines that are found by a converter without a library. -/
theorem convert_of_parseSource {source : SnippetSource} {body : Text} {store : ReferenceStore}
    (resolved : ((⟨tree, [options.inputFolder], toolkit.codecs⟩ : Library).resolve settings
      options.snippet).result = .ok (some source))
    (parsed : ((Stage.converter toolkit settings targets).parseSource source {}).result =
      .ok (body, store)) :
    let conversion := (options.converter toolkit settings targets tree).convert options.snippet {}
    conversion.result =
        .ok ((Stage.converter toolkit settings targets).element options.snippet body, store) ∧
      conversion.journal.problems =
        ((Stage.converter toolkit settings targets).parseSource source {}).journal.problems := by
  have found : ((options.converter toolkit settings targets tree).resolve options.snippet).result =
      .ok (some source) := resolved
  exact ⟨Converter.convert_result_eq_ok_iff.2 ⟨some source, body, found, parsed, rfl⟩,
    Converter.problems_convert found {}⟩

/-- A run that goes on to write has converted the snippet of the files that it found, and has made
nothing but folders. -/
theorem convert_of_passes
    (passes : Passes toolkit settings [.check, .read, .convert] { toRunOptions := options } tree
      later grown) :
    (∃ folders, grown = tree.withFolders folders) ∧
      ∃ targets html store,
        (loadTargets toolkit.loader tree (targetsPath? options)).result = .ok targets ∧
        let conversion :=
          (options.converter toolkit settings targets tree).convert options.snippet {}
        conversion.result = .ok (html, store) ∧ later.html = some html ∧
          later.warnings = texts settings conversion.journal.warnings ∧
          later.errors = texts settings conversion.journal.errors ∧
          later.outputPath = options.resultPath := by
  obtain _ | ⟨checks, passes⟩ := passes
  obtain _ | ⟨reads, passes⟩ := passes
  obtain _ | ⟨converts, passes⟩ := passes
  obtain _ | _ := passes
  obtain ⟨⟨folders, rfl⟩, there, targetsThere, rfl⟩ := Stage.check_next checks
  obtain ⟨rfl, source, resolved, rfl⟩ := Stage.read_next reads
  obtain ⟨rfl, targets, loads, source, body, store, ⟨rfl⟩, parsed, rfl⟩ :=
    Stage.convert_next converts
  -- What was found with the folders that have been made is what was there without them.
  obtain ⟨grownThere, same⟩ := FileTree.isFile_withFolders there folders
  have resolvedFirst : ((⟨tree, [options.inputFolder], toolkit.codecs⟩ : Library).resolve settings
      options.snippet).result = .ok (some source) := by
    rw [← Library.resolve_congr [] _ settings rfl there grownThere same]
    exact resolved
  have loadsFirst : (loadTargets toolkit.loader (tree.withFolders folders)
      ((targetsPath? options).or none)).result = .ok targets := loads
  rw [Option.or_none, loadTargets_withFolders targetsThere] at loadsFirst
  obtain ⟨completes, problems⟩ := convert_of_parseSource resolvedFirst parsed
  refine ⟨⟨folders, rfl⟩, targets, _, store, loadsFirst, completes, rfl, ?_, ?_, rfl⟩
  · rw [← Journal.warnings_problems, problems, Journal.warnings_problems]
    rfl
  · rw [← Journal.errors_problems, problems, Journal.errors_problems]
    rfl

/-! ## Exits -/

variable {record : RunRecord} {left : List Stage} {state : RunState}

/-- A run that does not fail has no stage left, or the first one that is left complains. -/
theorem result_of_ends (ends : Ends toolkit settings left state tree record.ending)
    (exits : ∀ failure, record.ending ≠ .failed failure) :
    left = [] ∧ (Command.ofRun record).result = .ok none ∨
      ∃ stage rest complaint, left = stage :: rest ∧
        (stage.run toolkit settings state tree).result = .ok (.quit complaint) ∧
        (Command.ofRun record).result = .ok (some 1) := by
  unfold Command.ofRun
  cases ended : record.ending with
  | complete =>
    rw [ended] at ends
    cases ends
    exact .inl ⟨rfl, rfl⟩
  | quit complaint =>
    rw [ended] at ends
    cases ends with
    | quit quits => exact .inr ⟨_, _, complaint, rfl, quits, rfl⟩
  | failed failure => exact (exits failure ended).elim

/-- All that a run can do after writing is to report, and to complain of problems. -/
theorem result_of_written {beyond : List Stage} (written : state.isWritten = true)
    (last : beyond ++ left = [.report])
    (passes : Passes toolkit settings beyond state tree later grown)
    (ends : Ends toolkit settings left later grown record.ending)
    (exits : ∀ failure, record.ending ≠ .failed failure) :
    later = state ∧ grown = tree ∧
      (Command.ofRun record).result =
        .ok (if Objects settings state then some 1 else none) := by
  rcases List.append_eq_singleton_iff.1 last with ⟨rfl, rfl⟩ | ⟨rfl, rfl⟩
  · -- The report is the stage that did not go on.
    obtain _ | _ := passes
    refine ⟨rfl, rfl, ?_⟩
    obtain ⟨nothing, -⟩ | ⟨_, _, complaint, ⟨rfl, rfl⟩, quits, result⟩ := result_of_ends ends exits
    · contradiction
    · rw [Stage.report_result written] at quits
      split at quits
      · next objects => rw [result, if_pos objects]
      · simp at quits
  · -- The report went on, which it does only if it is content.
    obtain _ | ⟨reports, passes⟩ := passes
    obtain _ | _ := passes
    obtain ⟨rfl, rfl, content⟩ := Stage.report_next reports
    obtain ⟨-, result⟩ | ⟨_, _, _, more, -⟩ := result_of_ends ends exits
    · exact ⟨rfl, rfl, by rw [result, if_neg content]⟩
    · contradiction

/-- A run either ends with a complaint and leaves all files as they are, or it writes one file,
with the element that the converter makes of the snippet as it was at first.  It ends with a
complaint after that exactly in strict mode and if there are problems. -/
theorem runStages_writes_conversion (toolkit : Toolkit) (settings : Settings) (options : RunOptions)
    (tree : FileTree) (exits : ∀ failure,
      (runStages toolkit settings Stage.all { toRunOptions := options } tree).ending ≠
        .failed failure) :
    let record := runStages toolkit settings Stage.all { toRunOptions := options } tree
    let last := record.lastState { toRunOptions := options }
    (.write ∉ record.steps.map Prod.fst →
      (Command.ofRun record).result = .ok (some 1) ∧ record.tree.files = tree.files) ∧
    (.write ∈ record.steps.map Prod.fst →
      ∃ targets html store place,
        (loadTargets toolkit.loader tree (targetsPath? options)).result = .ok targets ∧
        let conversion :=
          (options.converter toolkit settings targets tree).convert options.snippet {}
        conversion.result = .ok (html, store) ∧
        last.html = some html ∧
        last.warnings = texts settings conversion.journal.warnings ∧
        last.errors = texts settings conversion.journal.errors ∧
        record.tree.locate options.resultPath = .ok place ∧
        (∀ other, record.tree.files.lookup other =
          if other = place then some (Utf8.encode (html ++ ['\n'])) else tree.files.lookup other) ∧
        (Command.ofRun record).result =
          .ok (if settings.strictMode = true ∧ (last.warnings ≠ [] ∨ last.errors ≠ []) then some 1
            else none)) := by
  intro record last
  obtain ⟨left, all, passes, ends⟩ :=
    runStages_passes toolkit settings Stage.all { toRunOptions := options } tree
  constructor
  · intro unwritten
    refine ⟨?_, passes.files unwritten⟩
    -- A run with no stage left would have passed all of them.
    obtain ⟨rfl, -⟩ | ⟨_, _, _, -, -, result⟩ := result_of_ends ends exits
    · rw [List.append_nil] at all
      exact (unwritten (all ▸ by decide)).elim
    · exact result
  · intro written
    -- Reading and converting come before, and only the report is beyond.
    obtain ⟨beyond, passed, reported⟩ := exists_passed [.check, .read, .convert] all written
      (by decide)
    rw [passed] at passes
    obtain ⟨converted, between, converts, passes⟩ := passes.split
    obtain _ | ⟨writes, passes⟩ := passes
    obtain ⟨⟨folders, rfl⟩, targets, html, store, loads, completes, made, warnings, errors, path⟩ :=
      convert_of_passes converts
    obtain ⟨html, sameHtml, writes, rfl⟩ := Stage.write_next writes
    obtain rfl : _ = html := Option.some.inj (made.symm.trans sameHtml)
    rw [path] at writes
    obtain ⟨place, located, -, changed⟩ := FileTree.of_write_eq_ok writes
    obtain ⟨sameLast, sameTree, result⟩ := result_of_written rfl reported passes ends exits
    have sameState : last = { converted with isWritten := true } := sameLast
    rw [sameState, sameTree]
    exact ⟨targets, _, store, place, loads, completes, made, warnings, errors, located, changed,
      result⟩

/-- A highlight of an unknown type is reported, and the run complains of it after writing.  The
target file is empty. -/
theorem runStages_writes_conversion_strict :
    let tree : FileTree :=
      { files := [(["in".toList, "A.java".toList],
          Utf8.encode "int a; // @highlight substring=a type=loud".toList),
          (["in".toList, "t.yaml".toList], [])]
        folders := [["in".toList], ["out".toList]] }
    let options : RunOptions :=
      { inputFolder := ⟨['/'], ["in".toList]⟩
        outputFolder := ⟨['/'], ["out".toList]⟩
        inputFile := "A.java".toList
        targets := some "t.yaml".toList }
    let toolkit : Toolkit :=
      { loader := fun bytes =>
          if bytes = [] then .ok { root := .scalar .null } else .error (.malformed [])
        highlight := fun lex source => Token.join (lex source)
        characters := fun _ => none
        codecs := .known }
    let settings : Settings := { strictMode := true }
    let record := runStages toolkit settings Stage.all { toRunOptions := options } tree
    (∀ failure, record.ending ≠ .failed failure) ∧ .write ∈ record.steps.map Prod.fst ∧
      ∃ html store place,
        ((options.converter toolkit settings (some {}) tree).convert options.snippet {}).result =
          .ok (html, store) ∧
        (∀ other, record.tree.files.lookup other =
          if other = place then some (Utf8.encode (html ++ ['\n'])) else tree.files.lookup other) ∧
        (Command.ofRun record).result = .ok (some 1) := by
  intro tree options toolkit settings record
  have quits : record.ending = .quit "Error: diagnostics recorded in strict mode".toList := by
    decide +kernel
  have exits : ∀ failure, record.ending ≠ .failed failure := by simp [quits]
  have wrote : .write ∈ record.steps.map Prod.fst := by decide +kernel
  obtain ⟨targets, html, store, place, loads, completes, -, -, -, -, changed, -⟩ :=
    (runStages_writes_conversion toolkit settings options tree exits).2 wrote
  obtain rfl : some {} = targets := Except.ok.inj loads
  refine ⟨exits, wrote, html, store, place, completes, changed, ?_⟩
  unfold Command.ofRun
  rw [quits]

end SnippetMarkup.RunOptions
