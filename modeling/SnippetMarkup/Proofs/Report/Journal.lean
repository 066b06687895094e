import Mathlib
import SnippetMarkup.Report.Journal

/-!
# Problems of journals

The problems of a journal are those of its parts, in order, and notes are no problems.
-/

namespace SnippetMarkup.Journal

variable {α : Type} (first second : Journal α)

/-- The warnings and errors of a journal. -/
def problems (journal : Journal α) : Journal α :=
  journal.filter fun
    | .note .. => false
    | _ => true

@[simp] theorem warnings_nil : warnings ([] : Journal α) = [] := rfl

@[simp] theorem warnings_note (level : Nat) (text : Text) :
    warnings (.note level text :: first) = first.warnings := rfl

@[simp] theorem warnings_warning (problem : α) :
    warnings (.warning problem :: first) = problem :: first.warnings := rfl

@[simp] theorem warnings_append : warnings (first ++ second) = first.warnings ++ second.warnings :=
  List.filterMap_append ..

@[simp] theorem errors_nil : errors ([] : Journal α) = [] := rfl

@[simp] theorem errors_warning (problem : α) :
    errors (.warning problem :: first) = first.errors := rfl

@[simp] theorem errors_append : errors (first ++ second) = first.errors ++ second.errors :=
  List.filterMap_append ..

@[simp] theorem warnings_notes : warnings first.notes = [] := by
  refine List.filterMap_eq_nil_iff.2 fun entry member => ?_
  have kept := (List.mem_filter.1 member).2
  cases entry with
  | note level text => rfl
  | warning problem => simp at kept
  | error problem => rfl

@[simp] theorem problems_append : problems (first ++ second) = first.problems ++ second.problems :=
  List.filter_append ..

@[simp] theorem problems_notes : problems first.notes = [] := by
  refine List.filter_eq_nil_iff.2 fun entry member => ?_
  have kept := (List.mem_filter.1 member).2
  cases entry with
  | note level text => simp
  | warning problem => simp at kept
  | error problem => simp at kept

theorem warnings_problems : warnings first.problems = first.warnings := by
  rw [warnings, problems, List.filterMap_filter, warnings]
  congr 1
  funext entry
  cases entry <;> rfl

theorem errors_problems : errors first.problems = first.errors := by
  rw [errors, problems, List.filterMap_filter, errors]
  congr 1
  funext entry
  cases entry <;> rfl

end SnippetMarkup.Journal
