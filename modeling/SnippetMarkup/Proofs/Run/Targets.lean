import Mathlib
import SnippetMarkup.Proofs.Reference.TargetsFile
import SnippetMarkup.Proofs.Run.Conversion

/-!
# Target files in runs

A run that gets as far as converting loads the target file that it is given.  A fault of the file
ends the run with a complaint; what makes loading fail makes the run fail.
-/

namespace SnippetMarkup

/-! ## Stages -/

namespace Stage

variable {toolkit : Toolkit} {tree : FileTree} {path : Path}

/-- How a stage ends that cannot load its targets. -/
def endOfFailure : Failure → Except Failure StageEnd
  | .targets path fault => .ok (complain "Targets error: " (fault.message path))
  | failure => .error failure

theorem convert_of_load_error (settings : Settings) {state : RunState} {failure : Failure}
    (named : state.targetsPath = some path)
    (fails : (Targets.load toolkit.loader tree path false).result = .error failure) :
    (convert.run toolkit settings state tree).result = endOfFailure failure := by
  rcases loaded : Targets.load toolkit.loader tree path false with ⟨journal, outcome⟩
  rw [loaded] at fails
  obtain rfl : outcome = .error failure := fails
  dsimp only [run]
  unfold runConvert
  rw [named]
  dsimp only
  rw [loaded]
  cases failure with
  | targets place fault => rfl
  | _ => rfl

/-- A run whose target file is not there complains of that at first. -/
theorem check_of_missing (toolkit : Toolkit) (settings : Settings) (state : RunState)
    (input : tree.isFile (state.inputFolder.extend state.inputFile) = .ok true)
    (named : targetsPath? state.toRunOptions = some path) (missing : tree.isFile path = .ok false) :
    (check.run toolkit settings state tree).result =
      .ok (complain "Error: Targets file not found: " path.toText) := by
  have finds (inputPath : Path) :
      findTargets { state with inputPath := inputPath } tree = .ok (some (path, false)) := by
    unfold targetsPath? at named
    unfold findTargets
    dsimp only
    cases given : state.targets.getD [] with
    | nil => simp [given] at named
    | cons c rest =>
      rw [given] at named
      cases named
      simp [missing, Except.mapError, bind, Except.bind, pure, Except.pure]
  simp [run, runCheck, Reported.note, Reported.report, Reported.ofExcept, input, finds,
    Except.mapError]

end Stage

/-! ## Runs -/

namespace RunOptions

open Stage (targetsPath?)

variable {toolkit : Toolkit} {settings : Settings} {options : RunOptions} {tree : FileTree}
  {path : Path}

/-- A run that has read its lines ends at converting if its targets cannot be loaded, and finds the
target file as it was at first. -/
theorem ends_of_load_error {failure : Failure} (named : targetsPath? options = some path)
    (fails : (Targets.load toolkit.loader tree path false).result = .error failure)
    (read : .read ∈
      (runStages toolkit settings Stage.all { toRunOptions := options } tree).steps.map Prod.fst) :
    ∃ state grown left, state.targetsPath = some path ∧
      (Targets.load toolkit.loader grown path false).result = .error failure ∧
      Ends toolkit settings (.convert :: left) state grown
        (runStages toolkit settings Stage.all { toRunOptions := options } tree).ending := by
  obtain ⟨left, all, passes, ends⟩ :=
    runStages_passes toolkit settings Stage.all { toRunOptions := options } tree
  obtain ⟨beyond, passed, later⟩ := exists_passed [.check] all read (by decide)
  rw [passed] at passes
  obtain _ | ⟨checks, passes⟩ := passes
  obtain _ | ⟨reads, passes⟩ := passes
  obtain ⟨⟨folders, rfl⟩, -, there, rfl⟩ := Stage.check_next checks
  obtain ⟨rfl, source, -, rfl⟩ := Stage.read_next reads
  have failsLater : (Targets.load toolkit.loader (tree.withFolders folders) path false).result =
      .error failure := by
    rw [load_withFolders (there path named)]
    exact fails
  have meant : (targetsPath? options).or none = some path := by rw [named, Option.some_or]
  cases beyond with
  | nil =>
    obtain rfl : left = [.convert, .write, .report] := later
    generalize RunRecord.lastState _ _ = last at passes ends
    generalize (runStages toolkit settings Stage.all { toRunOptions := options } tree).tree = grown
      at passes ends
    obtain _ | _ := passes
    exact ⟨_, _, _, meant, failsLater, ends⟩
  | cons stage beyond =>
    -- Converting would have gone on with the targets.
    obtain ⟨rfl, -⟩ := List.cons.inj later
    obtain _ | ⟨converts, -⟩ := passes
    obtain ⟨-, targets, loads, -⟩ := Stage.convert_next converts
    dsimp only at loads
    rw [meant, Stage.loadTargets] at loads
    obtain ⟨_, loaded, -⟩ := Reported.of_bind_result loads
    rw [failsLater] at loaded
    contradiction

/-- A fault of the target file ends the run with a complaint. -/
theorem command_of_faulty {fault : TargetsFault} (named : targetsPath? options = some path)
    (faulty : Targets.Faulty toolkit.loader tree path fault)
    (read : .read ∈
      (runStages toolkit settings Stage.all { toRunOptions := options } tree).steps.map Prod.fst) :
    let record :=
      Command.ofRun (runStages toolkit settings Stage.all { toRunOptions := options } tree)
    record.complaints = "Targets error: ".toList ++ fault.message path ++ ['\n'] ∧
      record.result = .ok (some 1) := by
  obtain ⟨state, grown, left, meant, fails, ends⟩ :=
    ends_of_load_error named faulty.load_eq read
  have ended := ends.eq_quit (Stage.convert_of_load_error settings meant fails)
  unfold Command.ofRun
  rw [ended]
  exact ⟨rfl, rfl⟩

/-- What makes loading fail makes the run fail. -/
theorem command_of_escapes {failure : Failure} (named : targetsPath? options = some path)
    (escapes : Targets.Escapes toolkit.loader tree path failure)
    (read : .read ∈
      (runStages toolkit settings Stage.all { toRunOptions := options } tree).steps.map Prod.fst) :
    (Command.ofRun (runStages toolkit settings Stage.all { toRunOptions := options } tree)).result =
      .error failure := by
  obtain ⟨state, grown, left, meant, fails, ends⟩ :=
    ends_of_load_error named escapes.load_eq read
  have failsToo := Stage.convert_of_load_error settings meant fails
  have same : Stage.endOfFailure failure = .error failure := by
    cases escapes <;> rfl
  have ended := ends.eq_failed (failsToo.trans same)
  unfold Command.ofRun
  rw [ended]

/-- A target file that is not there is complained of before anything is read. -/
theorem command_of_missing
    (input : tree.isFile (options.inputFolder.extend options.inputFile) = .ok true)
    (named : targetsPath? options = some path) (missing : tree.isFile path = .ok false) :
    let record :=
      Command.ofRun (runStages toolkit settings Stage.all { toRunOptions := options } tree)
    record.complaints = "Error: Targets file not found: ".toList ++ path.toText ++ ['\n'] ∧
      record.result = .ok (some 1) := by
  have quits :=
    Stage.check_of_missing toolkit settings { toRunOptions := options } input named missing
  rcases ran : Stage.check.run toolkit settings { toRunOptions := options } tree with
    ⟨journal, outcome⟩
  rw [ran] at quits
  obtain rfl : outcome = _ := quits
  rw [Stage.all, runStages, ran]
  exact ⟨rfl, rfl⟩

end RunOptions

/-! ## Target files -/

namespace Targets

open Stage (targetsPath?)

/-- What loading a target file comes to, and what a run makes of it: the targets are those that the
document declares, with keys and values as texts, or none if the document overlooks them.  Each
fault of the file is told, and ends the run with a complaint; nothing else but what escapes stops
loading, and with it the run.  If texts are only ever refused as no documents, then only a NUL in
the path, bytes that are no text and numbers that are too long escape. -/
theorem load_outcomes (toolkit : Toolkit) (decodes : toolkit.loader.Decodes) (tree : FileTree)
    (path : Path) (memberFallback : Bool) :
    let loader := toolkit.loader
    (∀ targets, (load loader tree path memberFallback).result = .ok targets ↔
      ∃ reading entries texts, Holds loader tree path reading ∧
        (Declares reading entries ∨ Overlooks reading ∧ entries = []) ∧
        ofEntries? reading entries = some texts ∧ targets = ⟨texts, memberFallback⟩) ∧
      (∀ reading entries, (ofEntries? reading entries = none ↔ Overlong reading entries) ∧
        ∀ texts, ofEntries? reading entries = some texts →
          (texts.map (·.1)).Nodup ∧ ∀ name, texts.lookup name = last? reading entries name) ∧
      (∀ failure, (load loader tree path memberFallback).result = .error failure ↔
        (∃ fault, Faulty loader tree path fault ∧ failure = .targets path fault) ∨
          Escapes loader tree path failure) ∧
      (∀ failure, Escapes loader tree path failure →
        (∀ place fault, failure ≠ .targets place fault) ∧
        (loader.RefusesText →
          (∃ error, tree.read path = .error error ∧ error.fault = .nul) ∨
            (∃ bytes, tree.read path = .ok bytes ∧ ∀ text, bytes ≠ Utf8.encode text) ∨
            failure = .longNumber)) ∧
      ∀ (settings : Settings) (options : RunOptions), targetsPath? options = some path →
        let record := runStages toolkit settings Stage.all { toRunOptions := options } tree
        let command := Command.ofRun record
        (tree.isFile (options.inputFolder.extend options.inputFile) = .ok true →
          tree.isFile path = .ok false →
          command.complaints = "Error: Targets file not found: ".toList ++ path.toText ++ ['\n'] ∧
            command.result = .ok (some 1)) ∧
        (.read ∈ record.steps.map Prod.fst →
          (∀ fault, Faulty loader tree path fault →
            command.complaints = "Targets error: ".toList ++ fault.message path ++ ['\n'] ∧
              command.result = .ok (some 1)) ∧
          ∀ failure, Escapes loader tree path failure → command.result = .error failure) := by
  refine ⟨fun targets => load_eq_ok_iff decodes, fun reading entries => ?_,
    fun failure => load_eq_error_iff decodes,
    fun failure escapes => ⟨escapes.ne_targets, escapes.of_refusesText⟩,
    fun settings options named => ⟨?_, fun read => ⟨?_, ?_⟩⟩⟩
  · exact ⟨ofEntries?_eq_none_iff, fun texts gives =>
      ⟨nodup_of_ofEntries? gives, lookup_of_ofEntries? gives⟩⟩
  · exact fun input missing => RunOptions.command_of_missing input named missing
  · exact fun fault faulty => RunOptions.command_of_faulty named faulty read
  · exact fun failure escapes => RunOptions.command_of_escapes named escapes read

/-! ## Small documents -/

/-- The values of two small documents. -/
def samples : List (Text × Yaml.Reading) := [
  ("[]".toList, ⟨.collection 0, [(0, .list [])]⟩),
  ("'targets': []\n".toList,
    ⟨.collection 0, [(0, .map [(entryName, .collection 1)]), (1, .list [])]⟩)]

/-- A loader that knows two small documents and takes every other text for none. -/
def loadSample (bytes : Bytes) : Except Yaml.Fault Yaml.Reading :=
  match Utf8.decodeStream bytes with
  | .error error => .error (.undecodable error)
  | .ok text =>
    match samples.lookup text with
    | some reading => .ok reading
    | none => .error (.malformed [])

theorem decodes_loadSample : Yaml.Loader.Decodes loadSample where
  whole {bytes reading} gives := by
    rw [loadSample] at gives
    split at gives
    · contradiction
    · next text decoded => exact ⟨text, decoded⟩
  stops {bytes error} fails := by
    rw [loadSample] at fails
    split at fails
    · next stops =>
      cases fails
      exact ⟨_, stops⟩
    · split at fails <;> cases fails

theorem refusesText_loadSample : Yaml.Loader.RefusesText loadSample := by
  intro text fault fails
  have decoded : Utf8.decodeStream (Utf8.encode text) = .ok text :=
    Utf8.decodeStream_eq_ok_iff.2 rfl
  rw [loadSample, decoded] at fails
  dsimp only at fails
  split at fails
  · contradiction
  · cases fails
    exact ⟨[], rfl⟩

def sampleToolkit : Toolkit where
  loader := loadSample
  highlight lex source := Token.join (lex source)
  characters _ := none
  codecs := .known

/-- A list is a document without targets, and a run that is given one ends with a complaint. -/
theorem load_outcomes_list :
    let tree : FileTree :=
      { files := [(["in".toList, "A.java".toList], Utf8.encode "int a;".toList),
          (["in".toList, "t.yaml".toList], Utf8.encode "[]".toList)]
        folders := [["in".toList], ["out".toList]] }
    let options : RunOptions :=
      { inputFolder := ⟨['/'], ["in".toList]⟩
        outputFolder := ⟨['/'], ["out".toList]⟩
        inputFile := "A.java".toList
        targets := some "t.yaml".toList }
    let path : Path := ⟨['/'], ["in".toList, "t.yaml".toList]⟩
    let record := runStages sampleToolkit {} Stage.all { toRunOptions := options } tree
    sampleToolkit.loader.Decodes ∧ sampleToolkit.loader.RefusesText ∧
      targetsPath? options = some path ∧ .read ∈ record.steps.map Prod.fst ∧
      Faulty loadSample tree path .notMapping ∧
      (Command.ofRun record).complaints =
        "Targets error: ".toList ++ TargetsFault.notMapping.message path ++ ['\n'] ∧
      (Command.ofRun record).result = .ok (some 1) := by
  intro tree options path record
  obtain ⟨-, -, fails, escapes, runs⟩ :=
    load_outcomes sampleToolkit decodes_loadSample tree path false
  have named : targetsPath? options = some path := by decide +kernel
  have read : .read ∈ record.steps.map Prod.fst := by decide +kernel
  have faulty : Faulty loadSample tree path .notMapping := by
    have refused : (load loadSample tree path false).result =
        .error (.targets path .notMapping) := by
      decide +kernel
    rcases (fails _).1 refused with ⟨_, faulty, ⟨⟩⟩ | escape
    · exact faulty
    · exact ((escapes _ escape).1 _ _ rfl).elim
  exact ⟨decodes_loadSample, refusesText_loadSample, named, read, faulty,
    ((runs {} options named).2 read).1 _ faulty⟩

/-- An entry for targets can be a list without items.  Bytes that are no text end a run without a
complaint. -/
theorem load_overlooked_and_undecodable :
    let tree (bytes : Bytes) : FileTree :=
      { files := [(["in".toList, "A.java".toList], Utf8.encode "int a;".toList),
          (["in".toList, "t.yaml".toList], bytes)]
        folders := [["in".toList], ["out".toList]] }
    let options : RunOptions :=
      { inputFolder := ⟨['/'], ["in".toList]⟩
        outputFolder := ⟨['/'], ["out".toList]⟩
        inputFile := "A.java".toList
        targets := some "t.yaml".toList }
    let path : Path := ⟨['/'], ["in".toList, "t.yaml".toList]⟩
    let listed := Utf8.encode "'targets': []\n".toList
    let failure := Failure.yaml
      (.undecodable ⟨"utf-8".toList, 0, [0xFF], "invalid start byte".toList⟩)
    let command :=
      Command.ofRun (runStages sampleToolkit {} Stage.all { toRunOptions := options } (tree [0xFF]))
    sampleToolkit.loader.Decodes ∧ sampleToolkit.loader.RefusesText ∧
      (load loadSample (tree listed) path false).result = .ok ⟨[], false⟩ ∧
      (∃ reading, Holds loadSample (tree listed) path reading ∧
        ∀ entries, ¬Declares reading entries) ∧
      (load loadSample (tree [0xFF]) path false).result = .error failure ∧
      command.complaints = [] ∧ command.result = .error failure := by
  intro tree options path listed failure command
  refine ⟨decodes_loadSample, refusesText_loadSample, by decide +kernel, ?_, by decide +kernel,
    by decide +kernel, by decide +kernel⟩
  refine ⟨⟨.collection 0, [(0, .map [(entryName, .collection 1)]), (1, .list [])]⟩,
    ⟨"'targets': []\n".toList, by decide +kernel, by decide +kernel⟩, Overlooks.not_declares ?_⟩
  refine ⟨_, .collection 1, .mapping ⟨0, rfl, rfl⟩, rfl, by decide, ?_, rfl⟩
  rintro entries ⟨_, ⟨⟩, found⟩
  cases found

end Targets

end SnippetMarkup
