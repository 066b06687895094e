import Mathlib
import SnippetMarkup.Proofs.Operation.Build
import SnippetMarkup.Proofs.Region.Stack
import SnippetMarkup.Proofs.Report.Journal
import SnippetMarkup.Proofs.Snippet.Run

/-!
# Open regions and warnings

An end tag closes a region or leaves a warning, so it takes one off the number of open regions
less the number of warnings in either case.  Two runs over the same lines that have come to
different numbers, with whatever regions open, never come to the same regions and warnings again.
-/

namespace SnippetMarkup

namespace Progress

/-- The number of open regions less the number of warnings. -/
def balance (progress : Progress) : Int :=
  progress.stack.size - progress.journal.warnings.length

section Balance

variable (progress : Progress)

@[simp] theorem balance_report (entries : Journal Problem) :
    (progress.report entries).balance = progress.balance - entries.warnings.length := by
  simp [balance]
  omega

@[simp] theorem balance_emitVisible (line : Text) :
    (progress.emitVisible line).balance = progress.balance := by
  simp [balance]

@[simp] theorem balance_push (region : Region) :
    (progress.withStack (progress.stack.push region)).balance = progress.balance + 1 := by
  simp only [balance, withStack, RegionStack.size, RegionStack.push, List.length_cons]
  omega

/-- Closing a region takes one off the balance, and so does the warning that there is none. -/
@[simp] theorem balance_closing (name : Option Text) :
    (progress.closing name).balance = progress.balance - 1 := by
  unfold closing
  split
  · next closed =>
    have size := RegionStack.size_close? closed
    simp only [balance, withStack, size]
    omega
  · simp [warn]

end Balance

/-! ## Two runs -/

theorem continueWith_failure {taken : Progress × Flow} (failed : taken.2.failure?.isSome = true)
    (next : Progress → Progress × Flow) :
    (continueWith taken next).2.failure?.isSome = true := by
  obtain ⟨progress, flow⟩ := taken
  cases flow with
  | next => simp [Flow.failure?] at failed
  | stop => simp [Flow.failure?] at failed
  | fail failure => rfl

theorem settle_failure {taken : Progress × Flow} (failed : taken.2.failure?.isSome = true) :
    (settle taken).2.failure?.isSome = true :=
  continueWith_failure failed _

/-- States that go on to take the same lines against the same store, the balance of the first being
higher by some number. -/
structure Level (gap : Int) (first second : Progress) : Prop where
  collecting : first.phase = .collecting
  collectingToo : second.phase = .collecting
  carried : first.carried = second.carried
  store : first.store = second.store
  balance : first.balance = second.balance + gap

/-- Steps after which the same lines are taken, unless one of them fails. -/
def Together (gap : Int) (first second : Progress × Flow) : Prop :=
  Level gap first.1 second.1 ∧ first.2 = second.2 ∨
    first.2.failure?.isSome ∨ second.2.failure?.isSome

namespace Level

variable {gap : Int} {first second : Progress} (level : Level gap first second)
include level

theorem report (entries : Journal Problem) :
    Level gap (first.report entries) (second.report entries) := by
  refine ⟨level.collecting, level.collectingToo, level.carried, level.store, ?_⟩
  rw [balance_report, balance_report, level.balance]
  omega

theorem emit_left (line : Text) : Level gap (first.emit line) second :=
  ⟨level.collecting, level.collectingToo, level.carried, level.store, level.balance⟩

theorem emit_right (line : Text) : Level gap first (second.emit line) :=
  ⟨level.collecting, level.collectingToo, level.carried, level.store, level.balance⟩

theorem emitVisible_left (line : Text) : Level gap (first.emitVisible line) second := by
  unfold Progress.emitVisible
  split
  · exact level
  · exact level.emit_left line

theorem emitVisible_right (line : Text) : Level gap first (second.emitVisible line) := by
  unfold Progress.emitVisible
  split
  · exact level
  · exact level.emit_right line

theorem carrying (carried : Option CarriedComment) :
    Level gap (first.carrying carried) (second.carrying carried) :=
  ⟨level.collecting, level.collectingToo, rfl, level.store, level.balance⟩

theorem withStore (store : ReferenceStore) :
    Level gap (first.withStore store) (second.withStore store) :=
  ⟨level.collecting, level.collectingToo, level.carried, rfl, level.balance⟩

theorem push (region : Region) :
    Level gap (first.withStack (first.stack.push region))
      (second.withStack (second.stack.push region)) := by
  refine ⟨level.collecting, level.collectingToo, level.carried, level.store, ?_⟩
  rw [balance_push, balance_push, level.balance]
  omega

theorem closing (name : Option Text) : Level gap (first.closing name) (second.closing name) := by
  refine ⟨?_, ?_, ?_, ?_, ?_⟩
  · rw [closing_phase, level.collecting]
  · rw [closing_phase, level.collectingToo]
  · rw [closing_carried, closing_carried, level.carried]
  · rw [closing_store, closing_store, level.store]
  · rw [balance_closing, balance_closing, level.balance]
    omega

theorem handleStart (attributes : Attributes) :
    Level gap (first.handleStart attributes) (second.handleStart attributes) := by
  rw [handleStart_eq, handleStart_eq]
  split
  · exact level.report _
  · exact level.push _

theorem handleEnd (context : MarkupContext) (attributes : Attributes) (code codeToo : Text) :
    Level gap (first.handleEnd ⟨context, none⟩ attributes code)
      (second.handleEnd ⟨context, none⟩ attributes codeToo) := by
  rw [handleEnd_eq, handleEnd_eq, if_neg (by simp), if_neg (by simp)]
  exact ((level.closing _).emitVisible_left code).emitVisible_right codeToo

theorem perform (attributes : Attributes) (code codeToo : Text) (made : Option Operation) :
    Together gap (first.perform attributes code made)
      (second.perform attributes codeToo made) := by
  cases made with
  | none => exact .inl ⟨(level.emitVisible_left code).emitVisible_right codeToo, rfl⟩
  | some operation =>
    have kept : Level gap (first.keeping attributes operation)
        (second.keeping attributes operation) := by
      unfold keeping
      split
      · exact level.push _
      · exact level
    cases applied : operation.apply code with
    | error failure => exact .inr (.inl (by simp [Progress.perform, applied, Flow.failure?]))
    | ok line =>
      cases appliedToo : operation.apply codeToo with
      | error failure => exact .inr (.inr (by simp [Progress.perform, appliedToo, Flow.failure?]))
      | ok lineToo =>
        simp only [Progress.perform, applied, appliedToo]
        exact .inl ⟨(kept.emitVisible_left _).emitVisible_right _, rfl⟩

theorem handleOperation (context : SnippetContext) (tag : Tag) (attributes : Attributes)
    (code codeToo : Text) :
    Together gap (first.handleOperation context tag attributes code)
      (second.handleOperation context tag attributes codeToo) := by
  rw [handleOperation_eq, handleOperation_eq, level.store]
  split
  · exact .inl ⟨level, rfl⟩
  · exact ((level.report _).withStore _).perform attributes code codeToo _

theorem handleTag (context : MarkupContext) (tag : Tag) (body code codeToo : Text) :
    Together gap (first.handleTag ⟨context, none⟩ tag body code)
      (second.handleTag ⟨context, none⟩ tag body codeToo) := by
  rw [handleTag_eq, handleTag_eq]
  have reported := level.report (refusals tag (Attributes.parse tag body).2)
  cases tag with
  | start => exact .inl ⟨reported.handleStart _, rfl⟩
  | finish => exact .inl ⟨reported.handleEnd context _ code codeToo, rfl⟩
  | highlight => exact reported.handleOperation _ _ _ code codeToo
  | replace => exact reported.handleOperation _ _ _ code codeToo
  | link => exact reported.handleOperation _ _ _ code codeToo

theorem collect (context : MarkupContext) (isLast : Bool) (line : Text) :
    Together gap (first.collect ⟨context, none⟩ isLast line)
      (second.collect ⟨context, none⟩ isLast line) := by
  cases scanned : MarkupComment.scan line with
  | none =>
    rw [collect_plain first scanned, collect_plain second scanned]
    cases first.render line with
    | error failure => exact .inr (.inl rfl)
    | ok shown =>
      cases second.render line with
      | error failure => exact .inr (.inr rfl)
      | ok shownToo => exact .inl ⟨(level.emit_left _).emit_right _, rfl⟩
  | some comment =>
    cases continues : comment.continues with
    | true =>
      rw [collect_carrying first scanned continues, collect_carrying second scanned continues]
      cases first.render comment.code with
      | error failure => exact .inr (.inl rfl)
      | ok code =>
        cases second.render comment.code with
        | error failure => exact .inr (.inr rfl)
        | ok codeToo =>
          cases isLast with
          | true => exact .inl ⟨level.report _, rfl⟩
          | false => exact .inl ⟨((level.emitVisible_left _).emitVisible_right _).carrying _, rfl⟩
    | false =>
      cases tagged : Tag.ofBody? comment.body with
      | none =>
        rw [collect_idle first scanned continues tagged,
          collect_idle second scanned continues tagged]
        cases first.render comment.code with
        | error failure => exact .inr (.inl rfl)
        | ok code =>
          cases second.render comment.code with
          | error failure => exact .inr (.inr rfl)
          | ok codeToo => exact .inl ⟨level, rfl⟩
      | some tag =>
        rw [collect_acting first scanned continues tagged,
          collect_acting second scanned continues tagged]
        cases first.render comment.code with
        | error failure => exact .inr (.inl rfl)
        | ok code =>
          cases second.render comment.code with
          | error failure => exact .inr (.inr rfl)
          | ok codeToo =>
            rcases level.handleTag context tag comment.body code codeToo with
              ⟨handled, flow⟩ | failed | failed
            · refine .inl ⟨by simpa using handled, settle_snd_congr ?_ flow⟩
              rw [handled.collecting, handled.collectingToo]
            · exact .inr (.inl (settle_failure failed))
            · exact .inr (.inr (settle_failure failed))

theorem step (context : MarkupContext) (isLast : Bool) (line : Text) :
    Together gap (first.step ⟨context, none⟩ isLast line)
      (second.step ⟨context, none⟩ isLast line) := by
  have whole : first.withCarried line = second.withCarried line := by
    rw [withCarried, withCarried, level.carried]
  rw [step_collecting first (by simp [level.collecting]),
    step_collecting second (by simp [level.collectingToo]), whole]
  exact (level.carrying none).collect context isLast (second.withCarried line)

/-- Runs that are at different balances stay so, unless one of them fails. -/
theorem takeLines (context : MarkupContext) (closing : Bool) (lines : List Text) :
    Together gap (first.takeLines ⟨context, none⟩ closing lines)
      (second.takeLines ⟨context, none⟩ closing lines) := by
  refine takeLines_keeps_both (motive := Level gap)
    (fun taken takenToo => taken.2.failure?.isSome ∨ takenToo.2.failure?.isSome) ?steps ?stays
    closing lines level
  case steps =>
    intro isLast line first second level
    exact level.step context isLast line
  case stays =>
    rintro closing rest taken takenToo (failed | failed)
    · exact .inl (continueWith_failure failed _)
    · exact .inr (continueWith_failure failed _)

end Level

end Progress

end SnippetMarkup
