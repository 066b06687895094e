import Mathlib
import SnippetMarkup.Proofs.Operation.Build
import SnippetMarkup.Proofs.Snippet.Linking

/-!
# Runs against different stores

Two runs over the same lines go the same way as long as their stores give the same ids to the
references that are linked.  Where the lines come from plays no part in it.
-/

namespace SnippetMarkup

open ReferenceStore (Extends Agree idOf?_put put_of_idOf? extends_putAll)

/-! ## Stores -/

/-- How the stores of two runs are compared: from stores in the relation, a link gets the same id
in both and the relation holds on, or else the stores clash for good. -/
structure StoreComparison where
  /-- The relation while the runs go the same way. -/
  related : ReferenceStore → ReferenceStore → Prop
  /-- The relation once they need not. -/
  clash : ReferenceStore → ReferenceStore → Prop
  link {first second : ReferenceStore} (reference : Text) (stores : related first second) :
    (first.put reference).1 = (second.put reference).1 ∧
        related (first.put reference).2 (second.put reference).2 ∨
      clash (first.put reference).2 (second.put reference).2
  stays {first second grown grownToo : ReferenceStore} (clashing : clash first second)
    (grows : Extends first grown) (growsToo : Extends second grownToo) : clash grown grownToo

namespace StoreComparison

def same : StoreComparison where
  related := Eq
  clash _ _ := False
  link _ stores := .inl (by rw [stores]; exact ⟨rfl, rfl⟩)
  stays clashing _ _ := clashing

/-- Stores go the same way until they disagree about an id. -/
def agreeing : StoreComparison where
  related _ _ := True
  clash first second := ¬Agree first second
  link {first second} reference _ := by
    by_cases agree : Agree (first.put reference).2 (second.put reference).2
    · exact .inl ⟨agree.put_eq, trivial⟩
    · exact .inr agree
  stays clashing grows growsToo agree := clashing (agree.of_extends grows growsToo)

/-- The second run starts from a store that holds what the first one links, until the first one
links something else or with another id. -/
def repeating (known : ReferenceStore) : StoreComparison where
  related _ second := second = known
  clash first _ := ¬Extends first known
  link {first second} reference stores := by
    by_cases holds : Extends (first.put reference).2 known
    · have stored := put_of_idOf? (holds reference _ (idOf?_put first reference))
      rw [stores, stored]
      exact .inl ⟨rfl, rfl⟩
    · exact .inr holds
  stays clashing grows _ holds := clashing (grows.trans holds)

end StoreComparison

namespace Progress

/-! ## Growing stores -/

variable (progress : Progress)

theorem continueWith_extends (taken : Progress × Flow) {next : Progress → Progress × Flow}
    (grows : ∀ later, Extends later.store (next later).1.store) :
    Extends taken.1.store (continueWith taken next).1.store :=
  continueWith_keeps (motive := fun progress later => Extends progress.store later.store)
    (fun _ => .refl _) taken grows

/-- A run takes nothing out of the store. -/
theorem takeLines_extends (context : SnippetContext) (closing : Bool) (lines : List Text) :
    Extends progress.store (takeLines context closing lines progress).1.store := by
  rw [store_takeLines]
  exact extends_putAll progress.store _

/-! ## Two runs -/

/-- States that differ in their notes and stores only, their stores being related. -/
structure Alike (comparison : StoreComparison) (first second : Progress) : Prop where
  phase : first.phase = second.phase
  stack : first.stack = second.stack
  output : first.output = second.output
  carried : first.carried = second.carried
  problems : first.journal.problems = second.journal.problems
  stores : comparison.related first.store second.store

/-- Steps that go the same way, unless the stores after them clash. -/
def Parallel (comparison : StoreComparison) (first second : Progress × Flow) : Prop :=
  Alike comparison first.1 second.1 ∧ first.2 = second.2 ∨
    comparison.clash first.1.store second.1.store

namespace Alike

variable {comparison : StoreComparison} {first second : Progress}
  (alike : Alike comparison first second)
include alike

theorem report {entries others : Journal Problem} (same : entries.problems = others.problems) :
    Alike comparison (first.report entries) (second.report others) :=
  ⟨alike.phase, alike.stack, alike.output, alike.carried, by simp [alike.problems, same],
    alike.stores⟩

theorem warn (problem : Problem) :
    Alike comparison (first.warn problem) (second.warn problem) :=
  alike.report rfl

theorem emit (line : Text) : Alike comparison (first.emit line) (second.emit line) :=
  ⟨alike.phase, alike.stack, congrArg (· ++ [line]) alike.output, alike.carried, alike.problems,
    alike.stores⟩

theorem emitVisible (line : Text) :
    Alike comparison (first.emitVisible line) (second.emitVisible line) := by
  unfold Progress.emitVisible
  split
  · exact alike
  · exact alike.emit line

theorem withStack (stack : RegionStack) :
    Alike comparison (first.withStack stack) (second.withStack stack) :=
  ⟨alike.phase, rfl, alike.output, alike.carried, alike.problems, alike.stores⟩

theorem withPhase (phase : Phase) :
    Alike comparison (first.withPhase phase) (second.withPhase phase) :=
  ⟨rfl, alike.stack, alike.output, alike.carried, alike.problems, alike.stores⟩

theorem carrying (carried : Option CarriedComment) :
    Alike comparison (first.carrying carried) (second.carrying carried) :=
  ⟨alike.phase, alike.stack, alike.output, rfl, alike.problems, alike.stores⟩

theorem withStore {store other : ReferenceStore} (stores : comparison.related store other) :
    Alike comparison (first.withStore store) (second.withStore other) :=
  ⟨alike.phase, alike.stack, alike.output, alike.carried, alike.problems, stores⟩

theorem render (line : Text) : first.render line = second.render line := by
  rw [Progress.render, Progress.render, alike.stack]

theorem handleStart (attributes : Attributes) :
    Alike comparison (first.handleStart attributes) (second.handleStart attributes) := by
  rw [handleStart_eq, handleStart_eq, alike.stack]
  split
  · exact alike.warn _
  · exact alike.withStack _

theorem closing (name : Option Text) :
    Alike comparison (first.closing name) (second.closing name) := by
  unfold Progress.closing
  rw [alike.stack]
  split
  · exact alike.withStack _
  · exact alike.warn _

theorem handleEnd (context movedContext : MarkupContext) (region : Option Text)
    (attributes : Attributes) (code : Text) :
    Alike comparison (first.handleEnd ⟨context, region⟩ attributes code)
      (second.handleEnd ⟨movedContext, region⟩ attributes code) := by
  rw [handleEnd_eq, handleEnd_eq, alike.stack]
  split
  · exact (alike.emitVisible code).withPhase _
  · exact (alike.closing _).emitVisible code

theorem keeping (attributes : Attributes) (operation : Operation) :
    Alike comparison (first.keeping attributes operation)
      (second.keeping attributes operation) := by
  unfold Progress.keeping
  rw [alike.stack]
  split
  · exact alike.withStack _
  · exact alike

theorem perform (attributes : Attributes) (code : Text) (operation : Option Operation) :
    Alike comparison (first.perform attributes code operation).1
        (second.perform attributes code operation).1 ∧
      (first.perform attributes code operation).2 =
        (second.perform attributes code operation).2 := by
  cases operation with
  | none => exact ⟨alike.emitVisible code, rfl⟩
  | some operation =>
    simp only [Progress.perform]
    split
    · exact ⟨alike.keeping attributes operation, rfl⟩
    · exact ⟨(alike.keeping attributes operation).emitVisible _, rfl⟩

theorem handleOperation (context : MarkupContext) (origin : Text) (region : Option Text)
    (tag : Tag) (attributes : Attributes) (code : Text) :
    Parallel comparison (first.handleOperation ⟨context, region⟩ tag attributes code)
      (second.handleOperation ⟨context.movedTo origin, region⟩ tag attributes code) := by
  have here : context.movedTo context.origin = context := rfl
  rw [handleOperation_eq, handleOperation_eq]
  cases Operation.makes context attributes tag with
  | fails failure fails =>
    have failed := fails context.origin
    rw [here] at failed
    simp only [failed, fails]
    exact .inl ⟨alike, rfl⟩
  | plain operation journal ofLine sameProblems unlinked plain =>
    have made := plain context.origin
    rw [here] at made
    simp only [made, plain]
    have reported := alike.report (sameProblems context.origin origin)
    exact .inl ((reported.withStore reported.stores).perform attributes code operation)
  | linked scope target reference own limits resolved linked =>
    have made := linked context.origin
    rw [here] at made
    simp only [made, linked]
    -- Only here the stores play a part.
    rcases comparison.link reference alike.stores with ⟨sameId, related⟩ | clash
    · rw [sameId]
      exact .inl (((alike.report rfl).withStore related).perform attributes code _)
    · right
      rw [perform_store, perform_store]
      exact clash

theorem handleTag (context : MarkupContext) (origin : Text) (region : Option Text) (tag : Tag)
    (body code : Text) :
    Parallel comparison (first.handleTag ⟨context, region⟩ tag body code)
      (second.handleTag ⟨context.movedTo origin, region⟩ tag body code) := by
  rw [handleTag_eq, handleTag_eq]
  have reported : Alike comparison (first.report (refusals tag (Attributes.parse tag body).2))
      (second.report (refusals tag (Attributes.parse tag body).2)) := alike.report rfl
  cases tag with
  | start => exact .inl ⟨reported.handleStart _, rfl⟩
  | finish => exact .inl ⟨reported.handleEnd _ _ _ _ _, rfl⟩
  | highlight => exact reported.handleOperation _ _ _ _ _ _
  | replace => exact reported.handleOperation _ _ _ _ _ _
  | link => exact reported.handleOperation _ _ _ _ _ _

theorem collect (context : MarkupContext) (origin : Text) (region : Option Text) (isLast : Bool)
    (line : Text) :
    Parallel comparison (first.collect ⟨context, region⟩ isLast line)
      (second.collect ⟨context.movedTo origin, region⟩ isLast line) := by
  cases scanned : MarkupComment.scan line with
  | none =>
    rw [collect_plain first scanned, collect_plain second scanned, alike.render]
    split
    · exact .inl ⟨alike, rfl⟩
    · exact .inl ⟨alike.emit _, rfl⟩
  | some comment =>
    cases continues : comment.continues with
    | true =>
      rw [collect_carrying first scanned continues, collect_carrying second scanned continues,
        alike.render]
      split
      · exact .inl ⟨alike, rfl⟩
      · cases isLast with
        | true => exact .inl ⟨alike.warn _, rfl⟩
        | false => exact .inl ⟨(alike.emitVisible _).carrying _, rfl⟩
    | false =>
      cases tagged : Tag.ofBody? comment.body with
      | none =>
        rw [collect_idle first scanned continues tagged,
          collect_idle second scanned continues tagged, alike.render]
        split
        · exact .inl ⟨alike, rfl⟩
        · exact .inl ⟨alike, rfl⟩
      | some tag =>
        rw [collect_acting first scanned continues tagged,
          collect_acting second scanned continues tagged, alike.render]
        split
        · exact .inl ⟨alike, rfl⟩
        · next code _ =>
          rcases alike.handleTag context origin region tag comment.body code with
            ⟨handled, flow⟩ | clash
          · exact .inl ⟨by simpa using handled, settle_snd_congr handled.phase flow⟩
          · exact .inr (by simpa using clash)

theorem await (context movedContext : MarkupContext) (region : Option Text) (line : Text) :
    Alike comparison (first.await ⟨context, region⟩ line)
      (second.await ⟨movedContext, region⟩ line) := by
  rw [await_eq, await_eq]
  split
  · exact alike
  · split
    · split
      · exact (alike.report rfl).warn _
      · split
        · exact ((alike.report rfl).report rfl).withPhase _
        · exact alike.report rfl
    · exact alike

theorem step (context : MarkupContext) (origin : Text) (region : Option Text) (isLast : Bool)
    (line : Text) :
    Parallel comparison (first.step ⟨context, region⟩ isLast line)
      (second.step ⟨context.movedTo origin, region⟩ isLast line) := by
  have whole : first.withCarried line = second.withCarried line := by
    rw [withCarried, withCarried, alike.carried]
  by_cases awaiting : first.phase = .awaiting
  · rw [step_awaiting first awaiting, step_awaiting second (alike.phase ▸ awaiting), whole]
    exact .inl ⟨(alike.carrying none).await _ _ _ _, rfl⟩
  · rw [step_collecting first awaiting, step_collecting second (alike.phase ▸ awaiting), whole]
    exact (alike.carrying none).collect _ _ _ _ _

/-- Two runs go the same way, unless they give different ids to a link. -/
theorem takeLines (context : MarkupContext) (origin : Text) (region : Option Text)
    (closing : Bool) (lines : List Text) :
    Parallel comparison (first.takeLines ⟨context, region⟩ closing lines)
      (second.takeLines ⟨context.movedTo origin, region⟩ closing lines) := by
  refine takeLines_keeps_both (motive := Alike comparison)
    (fun taken takenToo => comparison.clash taken.1.store takenToo.1.store) ?steps ?stays closing
    lines alike
  case steps =>
    intro isLast line first second alike
    exact alike.step context origin region isLast line
  case stays =>
    intro closing rest taken takenToo clash
    exact comparison.stays clash
      (continueWith_extends taken fun later => takeLines_extends later _ closing rest)
      (continueWith_extends takenToo fun later => takeLines_extends later _ closing rest)

omit alike in
/-- States that are alike come to the same problems in the end. -/
theorem problems_outcome {taken takenToo : Progress × Flow}
    (alike : Alike comparison taken.1 takenToo.1) (flow : taken.2 = takenToo.2)
    (context movedContext : MarkupContext) (region : Option Text) (count : Nat) :
    (outcome ⟨context, region⟩ count taken).1.journal.problems =
      (outcome ⟨movedContext, region⟩ count takenToo).1.journal.problems := by
  unfold outcome
  rw [flow]
  split
  · exact alike.problems
  · refine (alike.report ?_).problems
    simp only [closingProblems, alike.stack, alike.phase, Journal.problems_append]
    rfl

end Alike

end Progress

end SnippetMarkup
