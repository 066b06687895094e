import SnippetMarkup.Run.Stage

/-!
# Runs

A run goes through some stages, each of which takes up the state and the files that the one before
has left.
-/

namespace SnippetMarkup

inductive RunEnd where
  | complete
  /-- A stage ended the run with a complaint. -/
  | quit (complaint : Text)
  | failed (failure : Failure)
  deriving DecidableEq, Repr

structure RunRecord where
  /-- The stages that were completed, with the state after each of them. -/
  steps : List (Stage × RunState) := []
  tree : FileTree
  journal : Journal Problem := []
  ending : RunEnd

namespace RunRecord

/-- The state after the last stage that was completed. -/
def lastState (record : RunRecord) (initial : RunState) : RunState :=
  (record.steps.getLast?.map (·.2)).getD initial

end RunRecord

def runStages (toolkit : Toolkit) (settings : Settings) :
    List Stage → RunState → FileTree → RunRecord
  | [], _, tree => { tree := tree, ending := .complete }
  | stage :: rest, state, tree =>
    match stage.run toolkit settings state tree with
    | ⟨journal, .error failure⟩ => ⟨[], tree, journal, .failed failure⟩
    | ⟨journal, .ok (.quit complaint)⟩ => ⟨[], tree, journal, .quit complaint⟩
    | ⟨journal, .ok (.next state tree)⟩ =>
      let later := runStages toolkit settings rest state tree
      ⟨(stage, state) :: later.steps, later.tree, journal ++ later.journal, later.ending⟩

end SnippetMarkup
