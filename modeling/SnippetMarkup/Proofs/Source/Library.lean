import Mathlib
import SnippetMarkup.Source.Library
import SnippetMarkup.Proofs.Report.Journal

/-!
# Looking up snippet files

Looking up the lines of a snippet reports notes and no problems, and the lines come with the region
that the snippet asks for.
-/

namespace SnippetMarkup

namespace Reported

variable {α β : Type}

theorem bind_journal_of_ok {first : Reported α} {next : α → Reported β} {value : α}
    (result : first.result = .ok value) :
    (first >>= next).journal = first.journal ++ (next value).journal := by
  obtain ⟨journal, outcome⟩ := first
  obtain rfl : outcome = .ok value := result
  rfl

theorem bind_result_of_ok {first : Reported α} {next : α → Reported β} {value : α}
    (result : first.result = .ok value) : (first >>= next).result = (next value).result := by
  obtain ⟨journal, outcome⟩ := first
  obtain rfl : outcome = .ok value := result
  rfl

theorem of_bind_result {first : Reported α} {next : α → Reported β} {value : β}
    (result : (first >>= next).result = .ok value) :
    ∃ middle, first.result = .ok middle ∧ (next middle).result = .ok value := by
  obtain ⟨journal, outcome⟩ := first
  cases outcome with
  | error failure => simp at result
  | ok middle => exact ⟨middle, rfl, result⟩

theorem ofExcept_mapError_result {ε : Type} {outcome : Except ε α} {failure : ε → Failure}
    {value : α} :
    (Reported.ofExcept (outcome.mapError failure)).result = .ok value ↔ outcome = .ok value := by
  cases outcome <;> simp [Reported.ofExcept, Except.mapError]

/-- Nothing but notes is reported. -/
def Quiet (reported : Reported α) : Prop :=
  ∀ entry ∈ reported.journal, ∃ level text, entry = .note level text

namespace Quiet

theorem pure (value : α) : Quiet (Pure.pure value : Reported α) := by
  simp [Quiet]

theorem ofExcept (result : Except Failure α) : Quiet (Reported.ofExcept result) := by
  simp [Quiet, Reported.ofExcept]

theorem note (level : Nat) (text : Text) : Quiet (Reported.note level text) := by
  simp [Quiet, Reported.note, Reported.report]

theorem bind {first : Reported α} {next : α → Reported β} (quiet : Quiet first)
    (quietNext : ∀ value, Quiet (next value)) : Quiet (first >>= next) := by
  obtain ⟨journal, outcome⟩ := first
  cases outcome with
  | error failure => exact quiet
  | ok value =>
    intro entry member
    rcases List.mem_append.1 member with early | late
    · exact quiet entry early
    · exact quietNext value entry late

theorem problems_eq_nil {reported : Reported α} (quiet : Quiet reported) :
    reported.journal.problems = [] := by
  refine List.filter_eq_nil_iff.2 fun entry member => ?_
  obtain ⟨level, text, rfl⟩ := quiet entry member
  simp

end Quiet

end Reported

namespace Library

open Reported (Quiet)

variable (library : Library) (settings : Settings) (snippet : Snippet)

theorem quiet_findPath (relative : Text) : Quiet (library.findPath relative) := by
  refine (Quiet.ofExcept _).bind fun path => ?_
  cases path with
  | some path => exact .pure _
  | none =>
    refine (Quiet.ofExcept _).bind fun found => ?_
    split
    · exact .pure _
    · exact .pure _
    · exact (Quiet.note _ _).bind fun _ => .pure _

theorem quiet_find : Quiet (library.find settings snippet) := by
  unfold find
  split
  · exact quiet_findPath library _
  · refine (quiet_findPath library _).bind fun path => ?_
    split
    · exact quiet_findPath library _
    · exact .pure _
  · exact .pure _

/-- Looking up the lines of a snippet reports nothing but notes. -/
theorem quiet_resolve : Quiet (library.resolve settings snippet) := by
  refine (quiet_find library settings snippet).bind fun path => ?_
  cases path with
  | none => exact .pure _
  | some path =>
    refine (Quiet.ofExcept _).bind fun text => ?_
    cases text with
    | error reason => exact (Quiet.note _ _).bind fun _ => .pure _
    | ok text => exact (Quiet.note _ _).bind fun _ => .pure _

variable {library settings snippet}

/-- The lines that are found come with the region that the snippet asks for. -/
theorem region_of_resolve {source : SnippetSource}
    (found : (library.resolve settings snippet).result = .ok (some source)) :
    source.region = snippet.region := by
  obtain ⟨path, -, found⟩ := Reported.of_bind_result found
  cases path with
  | none => simp at found
  | some path =>
    obtain ⟨text, -, found⟩ := Reported.of_bind_result found
    cases text with
    | error reason =>
      obtain ⟨_, -, found⟩ := Reported.of_bind_result found
      simp at found
    | ok text =>
      obtain ⟨_, -, found⟩ := Reported.of_bind_result found
      simp only [Reported.pure_eq, Except.ok.injEq, Option.some.injEq] at found
      rw [← found]

/-- A file that is there at its path in the first folder is the one that is found. -/
theorem find_of_isFile {file : Text} {folder : Path} {folders : List Path}
    (named : snippet.file = some file) (first : library.folders = folder :: folders)
    (there : library.tree.isFile (folder.extend file) = .ok true) :
    library.find settings snippet = pure (some (folder.extend file)) := by
  have direct : library.findDirect file = .ok (some (folder.extend file)) := by
    unfold findDirect
    rw [first, findDirect.go, there]
    rfl
  unfold find
  rw [named]
  dsimp only
  unfold findPath
  rw [direct]
  rfl

/-- Two trees that have a file at its path in the first folder give the same lines if they have the
same file there. -/
theorem resolve_congr {tree other : FileTree} {file : Text} {folder : Path} (folders : List Path)
    (codecs : Codecs) (settings : Settings) (named : snippet.file = some file)
    (there : tree.isFile (folder.extend file) = .ok true)
    (otherThere : other.isFile (folder.extend file) = .ok true)
    (same : other.read (folder.extend file) = tree.read (folder.extend file)) :
    (⟨other, folder :: folders, codecs⟩ : Library).resolve settings snippet =
      (⟨tree, folder :: folders, codecs⟩ : Library).resolve settings snippet := by
  have text :
      (⟨other, folder :: folders, codecs⟩ : Library).readText settings (folder.extend file) =
        (⟨tree, folder :: folders, codecs⟩ : Library).readText settings (folder.extend file) := by
    unfold readText
    rw [same]
  unfold resolve
  rw [find_of_isFile named rfl otherThere, find_of_isFile named rfl there]
  simp only [Reported.pure_eq, Reported.bind_ok, text]

end Library

end SnippetMarkup
