import SnippetMarkup.Text.Basic

/-!
# Journals

A run writes down what it has to report in the order in which it happens: notes on its progress,
each for readers of a certain verbosity, and problems, which are warnings or errors.
-/

namespace SnippetMarkup

inductive Entry (α : Type) where
  /-- A note for readers who ask for at least this verbosity. -/
  | note (level : Nat) (text : Text)
  /-- A problem that leaves the result usable. -/
  | warning (problem : α)
  /-- A problem with the integrity of the result. -/
  | error (problem : α)
  deriving DecidableEq, Repr

abbrev Journal (α : Type) := List (Entry α)

namespace Journal

variable {α β : Type}

def warnings (journal : Journal α) : List α :=
  journal.filterMap fun
    | .warning problem => some problem
    | _ => none

def errors (journal : Journal α) : List α :=
  journal.filterMap fun
    | .error problem => some problem
    | _ => none

def problemCount (journal : Journal α) : Nat := journal.warnings.length + journal.errors.length

def notes (journal : Journal α) : Journal α :=
  journal.filter fun
    | .note .. => true
    | _ => false

/-- The journal with every problem put differently. -/
def map (f : α → β) (journal : Journal α) : Journal β :=
  List.map (fun
    | .note level text => .note level text
    | .warning problem => .warning (f problem)
    | .error problem => .error (f problem)) journal

end Journal

/-! ## The log -/

inductive LogLevel where
  | debug
  | warning
  | error
  deriving DecidableEq, Repr

/-- The line that an entry makes in the log of a reader of the given verbosity. -/
def Entry.logLine? {α : Type} (verbosity : Int) (message : α → Text) :
    Entry α → Option (LogLevel × Text)
  | .note level text => if (level : Int) ≤ verbosity then some (.debug, text) else none
  | .warning problem => some (.warning, message problem)
  | .error problem => some (.error, message problem)

/-- The log of a journal for a reader of the given verbosity. -/
def Journal.log {α : Type} (journal : Journal α) (verbosity : Int) (message : α → Text) :
    List (LogLevel × Text) :=
  journal.filterMap (·.logLine? verbosity message)

end SnippetMarkup
