import Mathlib
import SnippetMarkup.Run.Pipeline
import SnippetMarkup.Proofs.Run.Stage

/-!
# Runs through stages

A run passes some of its stages, each of which takes up what the one before has left, and ends at
the first one that does not go on.
-/

namespace SnippetMarkup

/-- Stages that a run passes one after the other, from one state and its files to another. -/
inductive Passes (toolkit : Toolkit) (settings : Settings) :
    List Stage → RunState → FileTree → RunState → FileTree → Prop where
  | nil {state : RunState} {tree : FileTree} : Passes toolkit settings [] state tree state tree
  | cons {stage : Stage} {stages : List Stage} {state middle later : RunState}
      {tree between grown : FileTree}
      (goesOn : (stage.run toolkit settings state tree).result = .ok (.next middle between))
      (rest : Passes toolkit settings stages middle between later grown) :
      Passes toolkit settings (stage :: stages) state tree later grown

/-- How a run ends that has these stages left. -/
inductive Ends (toolkit : Toolkit) (settings : Settings) :
    List Stage → RunState → FileTree → RunEnd → Prop where
  | complete {state : RunState} {tree : FileTree} : Ends toolkit settings [] state tree .complete
  | quit {stage : Stage} {stages : List Stage} {state : RunState} {tree : FileTree}
      {complaint : Text}
      (quits : (stage.run toolkit settings state tree).result = .ok (.quit complaint)) :
      Ends toolkit settings (stage :: stages) state tree (.quit complaint)
  | failed {stage : Stage} {stages : List Stage} {state : RunState} {tree : FileTree}
      {failure : Failure}
      (fails : (stage.run toolkit settings state tree).result = .error failure) :
      Ends toolkit settings (stage :: stages) state tree (.failed failure)

variable {toolkit : Toolkit} {settings : Settings} {stages : List Stage} {state later : RunState}
  {tree grown : FileTree}

section Ends

variable {stage : Stage} {ending : RunEnd}

/-- A run of which the next stage complains ends with that complaint. -/
theorem Ends.eq_quit {complaint : Text}
    (ends : Ends toolkit settings (stage :: stages) state tree ending)
    (quits : (stage.run toolkit settings state tree).result = .ok (.quit complaint)) :
    ending = .quit complaint := by
  cases ends with
  | quit quitsToo =>
    cases quitsToo.symm.trans quits
    rfl
  | failed fails => cases fails.symm.trans quits

/-- A run of which the next stage fails ends with that failure. -/
theorem Ends.eq_failed {failure : Failure}
    (ends : Ends toolkit settings (stage :: stages) state tree ending)
    (fails : (stage.run toolkit settings state tree).result = .error failure) :
    ending = .failed failure := by
  cases ends with
  | quit quits => cases quits.symm.trans fails
  | failed failsToo =>
    cases failsToo.symm.trans fails
    rfl

end Ends

theorem RunRecord.lastState_cons (stage : Stage) (state initial : RunState)
    (record : RunRecord) :
    { record with steps := (stage, state) :: record.steps }.lastState initial =
      record.lastState state := by
  unfold RunRecord.lastState
  rw [List.getLast?_cons]
  cases record.steps.getLast? <;> rfl

/-- The stages of a run are those that it passes, and those that are left at its end. -/
theorem runStages_passes (toolkit : Toolkit) (settings : Settings) (stages : List Stage)
    (state : RunState) (tree : FileTree) :
    let record := runStages toolkit settings stages state tree
    ∃ left, record.steps.map Prod.fst ++ left = stages ∧
      Passes toolkit settings (record.steps.map Prod.fst) state tree (record.lastState state)
        record.tree ∧
      Ends toolkit settings left (record.lastState state) record.tree record.ending := by
  induction stages generalizing state tree with
  | nil => exact ⟨[], rfl, .nil, .complete⟩
  | cons stage rest ih =>
    rw [runStages]
    rcases ran : stage.run toolkit settings state tree with
      ⟨journal, failure | ⟨middle, between⟩ | complaint⟩
    -- The run ends at this stage, or goes on from what it leaves.
    · exact ⟨stage :: rest, rfl, .nil, .failed (congrArg Reported.result ran)⟩
    · obtain ⟨left, all, passes, ends⟩ := ih middle between
      have last := RunRecord.lastState_cons stage middle state
        (runStages toolkit settings rest middle between)
      exact ⟨left, congrArg (stage :: ·) all,
        .cons (congrArg Reported.result ran) (last ▸ passes), last ▸ ends⟩
    · exact ⟨stage :: rest, rfl, .nil, .quit (congrArg Reported.result ran)⟩

theorem Passes.split {first second : List Stage}
    (passes : Passes toolkit settings (first ++ second) state tree later grown) :
    ∃ middle between, Passes toolkit settings first state tree middle between ∧
      Passes toolkit settings second middle between later grown := by
  induction first generalizing state tree with
  | nil => exact ⟨state, tree, .nil, passes⟩
  | cons stage rest ih =>
    obtain _ | ⟨goesOn, passes⟩ := passes
    obtain ⟨middle, between, early, late⟩ := ih passes
    exact ⟨middle, between, .cons goesOn early, late⟩

/-- A run that passes a stage has passed all stages in front of it. -/
theorem exists_passed {stage : Stage} {passed left after : List Stage} (before : List Stage)
    (all : passed ++ left = before ++ stage :: after) (through : stage ∈ passed)
    (once : stage ∉ before) : ∃ beyond, passed = before ++ stage :: beyond ∧
      beyond ++ left = after := by
  rcases List.append_eq_append_iff.1 all with ⟨rest, whole, -⟩ | ⟨rest, whole, others⟩
  · exact (once (whole ▸ List.mem_append_left rest through)).elim
  · cases rest with
    | nil => exact (once (by simpa [whole] using through)).elim
    | cons first beyond =>
      obtain ⟨rfl, rfl⟩ := List.cons.inj others
      exact ⟨beyond, whole, rfl⟩

/-- A run that has not written leaves all files as they are. -/
theorem Passes.files (passes : Passes toolkit settings stages state tree later grown)
    (unwritten : .write ∉ stages) : grown.files = tree.files := by
  induction passes with
  | nil => rfl
  | cons goesOn rest ih =>
    obtain ⟨other, others⟩ := not_or.1 (mt List.mem_cons.2 unwritten)
    rw [ih others, Stage.files_next (Ne.symm other) goesOn]

end SnippetMarkup
