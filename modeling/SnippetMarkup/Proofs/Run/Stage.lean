import Mathlib
import SnippetMarkup.Run.Stage
import SnippetMarkup.Proofs.Files.Tree
import SnippetMarkup.Proofs.Source.Library

/-!
# What stages leave behind

What a stage that goes on has found, and the state and the files that it leaves.  The first stage
makes folders, the last but one writes a file, and the others leave all files as they are.
-/

namespace SnippetMarkup.Stage

variable {toolkit : Toolkit} {settings : Settings} {state later : RunState} {tree grown : FileTree}

/-! ## Checking -/

theorem prepareOutput_next
    (goesOn : (prepareOutput state tree).result = .ok (.next later grown)) :
    (∃ folders, grown = tree.withFolders folders) ∧
      later = { state with
        outputPath := state.outputFolder.extend state.outputName, isChecked := true } := by
  obtain ⟨made, makes, rest⟩ := Reported.of_bind_result goesOn
  obtain ⟨-, -, rest⟩ := Reported.of_bind_result rest
  obtain ⟨rfl, rfl⟩ := StageEnd.next.inj (Except.ok.inj rest)
  exact ⟨FileTree.exists_withFolders_of_makeFolders (Reported.ofExcept_mapError_result.1 makes),
    rfl⟩

/-- The path of the target file that is meant, if one is. -/
def targetsPath? (options : RunOptions) : Option Path :=
  match options.targets.getD [] with
  | [] => none
  | name => some (options.inputFolder.extend name)

theorem of_findTargets {found : Option (Path × Bool)}
    (finds : findTargets state tree = .ok found) :
    found.map Prod.fst = targetsPath? state.toRunOptions ∧
      ∀ path there, found = some (path, there) → tree.isFile path = .ok there := by
  unfold findTargets at finds
  unfold targetsPath?
  cases named : state.targets.getD [] with
  | nil =>
    rw [named] at finds
    obtain rfl := Except.ok.inj finds
    simp
  | cons c rest =>
    rw [named] at finds
    cases looked : tree.isFile (state.inputFolder.extend (c :: rest)) with
    | error error => simp [looked, bind, Except.bind, Except.mapError] at finds
    | ok there =>
      dsimp only at finds
      rw [looked] at finds
      obtain rfl := Except.ok.inj finds
      refine ⟨rfl, ?_⟩
      rintro path _ ⟨rfl, rfl⟩
      exact looked

/-- The check goes on if the files that are needed are there, and makes nothing but folders. -/
theorem check_next
    (goesOn : (check.run toolkit settings state tree).result = .ok (.next later grown)) :
    (∃ folders, grown = tree.withFolders folders) ∧
      tree.isFile (state.inputFolder.extend state.inputFile) = .ok true ∧
      (∀ path, targetsPath? state.toRunOptions = some path → tree.isFile path = .ok true) ∧
      later = { state with
        inputPath := state.inputFolder.extend state.inputFile
        targetsPath := (targetsPath? state.toRunOptions).or state.targetsPath
        outputPath := state.outputFolder.extend state.outputName
        isChecked := true } := by
  obtain ⟨-, -, rest⟩ := Reported.of_bind_result goesOn
  obtain ⟨-, -, rest⟩ := Reported.of_bind_result rest
  obtain ⟨there, looked, rest⟩ := Reported.of_bind_result rest
  have source := Reported.ofExcept_mapError_result.1 looked
  cases there with
  | false => simp [complain] at rest
  | true =>
    obtain ⟨-, -, rest⟩ := Reported.of_bind_result rest
    obtain ⟨found, finds, rest⟩ := Reported.of_bind_result rest
    obtain ⟨meant, looks⟩ := of_findTargets finds
    rw [← meant]
    match found, looks with
    | none, _ =>
      obtain ⟨folders, rfl⟩ := prepareOutput_next rest
      exact ⟨folders, source, by simp, rfl⟩
    | some (path, false), _ => simp [complain] at rest
    | some (path, true), looks =>
      obtain ⟨-, -, rest⟩ := Reported.of_bind_result rest
      obtain ⟨folders, rfl⟩ := prepareOutput_next rest
      refine ⟨folders, source, ?_, rfl⟩
      rintro _ ⟨rfl⟩
      exact looks path true rfl

/-! ## Reading and converting -/

/-- Reading goes on with the lines that the snippet refers to. -/
theorem read_next
    (goesOn : (read.run toolkit settings state tree).result = .ok (.next later grown)) :
    grown = tree ∧
      ∃ source, ((⟨tree, [state.inputFolder], toolkit.codecs⟩ : Library).resolve settings
          { file := some state.inputFile, region := state.region }).result = .ok (some source) ∧
        later = { state with source := some source } := by
  obtain ⟨-, -, rest⟩ := Reported.of_bind_result goesOn
  obtain ⟨found, resolved, rest⟩ := Reported.of_bind_result rest
  cases found with
  | none => simp [complain] at rest
  | some source =>
    obtain ⟨-, -, rest⟩ := Reported.of_bind_result rest
    obtain ⟨-, -, rest⟩ := Reported.of_bind_result rest
    obtain ⟨rfl, rfl⟩ := StageEnd.next.inj (Except.ok.inj rest)
    exact ⟨rfl, source, resolved, rfl⟩

/-- The texts of some problems. -/
def texts (settings : Settings) (problems : List Problem) : List Text :=
  problems.map fun problem => settings.message problem.message

/-- A state with what has been made of the lines that were read. -/
def converted (toolkit : Toolkit) (settings : Settings) (targets : Option Targets)
    (state : RunState) (source : SnippetSource) (body : Text) : RunState :=
  let converter := converter toolkit settings targets
  let journal := (converter.parseSource source {}).journal
  { state with
    html := some (converter.element state.snippet body)
    warnings := texts settings journal.warnings
    errors := texts settings journal.errors }

theorem convertSource_next {targets : Option Targets}
    (goesOn : (convertSource toolkit settings targets state tree).result =
      .ok (.next later grown)) :
    grown = tree ∧
      ∃ source body store, state.source = some source ∧
        ((converter toolkit settings targets).parseSource source {}).result = .ok (body, store) ∧
        later = converted toolkit settings targets state source body := by
  unfold convertSource at goesOn
  split at goesOn
  · simp [Reported.fail] at goesOn
  · next source given =>
    obtain ⟨⟨body, store⟩, parsed, rest⟩ := Reported.of_bind_result goesOn
    obtain ⟨-, -, rest⟩ := Reported.of_bind_result rest
    obtain ⟨rfl, rfl⟩ := StageEnd.next.inj (Except.ok.inj rest)
    exact ⟨rfl, source, body, store, given, parsed, rfl⟩

/-- The targets that stand in the file at a path, if one is meant. -/
def loadTargets (loader : Yaml.Loader) (tree : FileTree) :
    Option Path → Reported (Option Targets)
  | none => return none
  | some path => do
    let targets ← Targets.load loader tree path false
    return some targets

/-- Converting goes on with the lines that were read, converted with the targets of the file. -/
theorem convert_next
    (goesOn : (convert.run toolkit settings state tree).result = .ok (.next later grown)) :
    grown = tree ∧
      ∃ targets, (loadTargets toolkit.loader tree state.targetsPath).result = .ok targets ∧
        ∃ source body store, state.source = some source ∧
          ((converter toolkit settings targets).parseSource source {}).result = .ok (body, store) ∧
          later = converted toolkit settings targets state source body := by
  obtain ⟨-, -, rest⟩ := Reported.of_bind_result goesOn
  cases named : state.targetsPath with
  | none =>
    rw [named] at rest
    obtain ⟨kept, converts⟩ := convertSource_next rest
    exact ⟨kept, none, rfl, converts⟩
  | some path =>
    rw [named] at rest
    dsimp only at rest
    split at rest
    · obtain ⟨-, -, rest⟩ := Reported.of_bind_result rest
      simp [complain] at rest
    · obtain ⟨targets, loads, rest⟩ := Reported.of_bind_result rest
      obtain ⟨kept, converts⟩ := convertSource_next rest
      exact ⟨kept, some targets, by rw [loadTargets, Reported.bind_result_of_ok loads]; rfl,
        converts⟩

/-! ## Writing and reporting -/

/-- Writing goes on once the file is written. -/
theorem write_next
    (goesOn : (write.run toolkit settings state tree).result = .ok (.next later grown)) :
    ∃ html, state.html = some html ∧
      tree.write state.outputPath (Utf8.encode (html ++ ['\n'])) = .ok grown ∧
      later = { state with isWritten := true } := by
  dsimp only [run] at goesOn
  unfold runWrite at goesOn
  split at goesOn
  · simp [complain] at goesOn
  · next html made =>
    split at goesOn
    · split at goesOn
      · simp [Reported.fail] at goesOn
      · simp [complain] at goesOn
    · next other written =>
      obtain ⟨-, -, rest⟩ := Reported.of_bind_result goesOn
      obtain ⟨rfl, rfl⟩ := StageEnd.next.inj (Except.ok.inj rest)
      exact ⟨html, made, written, rfl⟩

/-- Whether a run with these problems is taken for a failure. -/
def Objects (settings : Settings) (state : RunState) : Prop :=
  settings.strictMode = true ∧ (state.warnings ≠ [] ∨ state.errors ≠ [])

instance (settings : Settings) (state : RunState) : Decidable (Objects settings state) :=
  inferInstanceAs (Decidable (_ ∧ _))

/-- A report of what was written ends the run with a complaint only in strict mode, and only if
there are problems. -/
theorem report_result (written : state.isWritten = true) :
    (report.run toolkit settings state tree).result =
      .ok (if Objects settings state then
        complain "Error: diagnostics recorded in strict mode" [] else .next state tree) := by
  have objects : (settings.strictMode && !(state.warnings ++ state.errors).isEmpty) = true ↔
      Objects settings state := by
    simp [Objects, -not_and, not_and_or]
  -- Before the problems are looked at there are only notes.
  dsimp only [run]
  unfold runReport
  rw [written]
  simp only [Reported.note, Reported.report, Reported.bind_ok, Reported.pure_eq, Bool.not_true,
    Bool.false_eq_true, if_false]
  by_cases problems : Objects settings state
  · rw [if_pos (objects.2 problems), if_pos problems]
  · rw [if_neg (mt objects.1 problems), if_neg problems]

theorem report_next
    (goesOn : (report.run toolkit settings state tree).result = .ok (.next later grown)) :
    grown = tree ∧ later = state ∧ ¬Objects settings state := by
  cases written : state.isWritten with
  | false =>
    have complains : (report.run toolkit settings state tree).result =
        .ok (complain "Error: Conversion failed" []) := by
      dsimp only [run]
      unfold runReport
      rw [written]
      rfl
    simp [complains, complain] at goesOn
  | true =>
    rw [report_result written] at goesOn
    split at goesOn
    · simp [complain] at goesOn
    · next objects =>
      obtain ⟨rfl, rfl⟩ := StageEnd.next.inj (Except.ok.inj goesOn)
      exact ⟨rfl, rfl, objects⟩

/-! ## Files -/

/-- Only writing changes files. -/
theorem files_next {stage : Stage} (other : stage ≠ write)
    (goesOn : (stage.run toolkit settings state tree).result = .ok (.next later grown)) :
    grown.files = tree.files := by
  cases stage with
  | check =>
    obtain ⟨⟨folders, rfl⟩, -⟩ := check_next goesOn
    rfl
  | read => rw [(read_next goesOn).1]
  | convert => rw [(convert_next goesOn).1]
  | write => exact (other rfl).elim
  | report => rw [(report_next goesOn).1]

end SnippetMarkup.Stage
