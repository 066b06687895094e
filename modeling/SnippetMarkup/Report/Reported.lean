import SnippetMarkup.Report.Journal
import SnippetMarkup.Source.Failure

/-!
# Results with a journal

A computation that writes into the journal and may fail.  What was reported before a failure is
kept.
-/

namespace SnippetMarkup

/-- A result, or a failure, and what was reported on the way to it. -/
structure Reported (α : Type) where
  journal : Journal Problem
  result : Except Failure α

namespace Reported

variable {α β : Type}

/-- Goes on with the result, unless there is none. -/
def andThen (first : Reported α) (next : α → Reported β) : Reported β :=
  match first.result with
  | .error failure => ⟨first.journal, .error failure⟩
  | .ok value => ⟨first.journal ++ (next value).journal, (next value).result⟩

instance : Monad Reported where
  pure value := ⟨[], .ok value⟩
  bind := andThen

def fail (failure : Failure) : Reported α := ⟨[], .error failure⟩

/-- A result about which there is nothing to report. -/
def ofExcept (result : Except Failure α) : Reported α := ⟨[], result⟩

def report (journal : Journal Problem) : Reported Unit := ⟨journal, .ok ()⟩

def note (level : Nat) (text : Text) : Reported Unit := report [.note level text]

/-- The same computation with no problem written into the journal. -/
def withoutProblems (reported : Reported α) : Reported α :=
  ⟨reported.journal.notes, reported.result⟩

@[simp] theorem pure_eq (value : α) : (pure value : Reported α) = ⟨[], .ok value⟩ := rfl

@[simp] theorem bind_ok (journal : Journal Problem) (value : α) (next : α → Reported β) :
    ((⟨journal, .ok value⟩ : Reported α) >>= next) =
      ⟨journal ++ (next value).journal, (next value).result⟩ := rfl

@[simp] theorem bind_error (journal : Journal Problem) (failure : Failure)
    (next : α → Reported β) :
    ((⟨journal, .error failure⟩ : Reported α) >>= next) = ⟨journal, .error failure⟩ := rfl

end Reported

end SnippetMarkup
