import Mathlib
import SnippetMarkup.Proofs.Operation.Build
import SnippetMarkup.Proofs.Snippet.Visit

/-!
# What a run stores

Only a link stores anything, and it stores the reference that its target stands for.  So the store
after a run is the one before it with the references of the links in it, as they are built, and the
id in a link leads to the reference that its target stands for, from the moment it is built.
-/

namespace SnippetMarkup

open Progress

namespace Visit

variable {context : SnippetContext} {visit : Visit}

/-! ## Links -/

/-- The operation that is built for the tag of a line, which is after the code in front of it has
been rendered. -/
def built? (context : SnippetContext) (visit : Visit) : Option Operation :=
  match visit.before.render visit.code with
  | .ok _ => visit.made? context
  | .error _ => none

/-- The reference that a line links: what the target of its tag stands for, if a link is built. -/
def linked? (context : SnippetContext) (visit : Visit) : Option Text :=
  match visit.built? context, acting? visit.line with
  | some (.link ..), some (_, attributes) => context.reference? attributes
  | _, _ => none

/-- What a line can do to the store. -/
inductive Links (context : SnippetContext) (visit : Visit) : Prop
  | unlinked (kept : (visit.after context).1.store = visit.before.store)
    (links : visit.linked? context = none)
    (built : ∀ operation ∈ visit.built? context, ¬operation.IsLink)
  | linked (attributes : Attributes) (scope : Scope) (reference : Text)
    (acts : acting? visit.line = some (.link, attributes))
    (limits : Scope.ofAttributes context.characters attributes = .ok (.ok scope))
    (resolved : context.reference? attributes = some reference)
    (stored : (visit.after context).1.store = (visit.before.store.put reference).2)
    (links : visit.linked? context = some reference)
    (built : visit.built? context =
      some (.link scope context.linkAttribute (visit.before.store.put reference).1))

theorem linked?_eq_none (built : ∀ operation ∈ visit.built? context, ¬operation.IsLink) :
    visit.linked? context = none := by
  unfold linked?
  split
  · next made _ => exact (built _ made trivial).elim
  · rfl

theorem links (context : SnippetContext) (visit : Visit) : Links context visit := by
  cases rendered : visit.before.render visit.code with
  | error failure =>
    have built : visit.built? context = none := by rw [built?, rendered]
    exact .unlinked (by rw [visit.after_unrendered context rendered])
      (linked?_eq_none (by simp [built])) (by simp [built])
  | ok code =>
    have built : visit.built? context = visit.made? context := by rw [built?, rendered]
    cases acts : acting? visit.line with
    | none =>
      have made : visit.made? context = none := by rw [made?, acts]; rfl
      exact .unlinked (visit.after_unacting context rendered acts).1
        (linked?_eq_none (by simp [built, made])) (by simp [built, made])
    | some acting =>
      obtain ⟨tag, attributes⟩ := acting
      obtain ⟨refused, after⟩ := visit.after_acting context rendered acts
      have store := act_store (visit.before.report refused) context attributes code tag
      rw [report_store, ← settle_fst, ← after] at store
      have made : visit.built? context =
          Operation.made? context.toMarkupContext visit.before.store tag attributes := by
        rw [built, made?, acts, Option.bind_some]
      rw [Operation.made?] at made
      have here : context.toMarkupContext.movedTo context.origin = context.toMarkupContext := rfl
      cases Operation.makes context.toMarkupContext attributes tag with
      | fails failure fails =>
        rw [← here, fails] at store made
        exact .unlinked store (linked?_eq_none (by simp [made])) (by simp [made])
      | plain operation journal ofLine alike unlinked plain =>
        rw [← here, plain] at store made
        exact .unlinked store (linked?_eq_none (by rwa [made])) (by rwa [made])
      | linked scope target reference own limits resolved linked =>
        subst own
        rw [← here, linked] at store made
        refine .linked attributes scope reference acts limits resolved store ?_ made
        rw [linked?, made, acts]
        exact resolved

theorem store_after (context : SnippetContext) (visit : Visit) :
    (visit.after context).1.store =
      match visit.linked? context with
      | some reference => (visit.before.store.put reference).2
      | none => visit.before.store := by
  cases visit.links context with
  | unlinked kept links built => rw [links, kept]
  | linked attributes scope reference acts limits resolved stored links built => rw [links, stored]

end Visit

/-! ## Runs -/

namespace Progress

variable {context : SnippetContext} {closing : Bool} {lines : List Text} {progress : Progress}

/-- A run stores the references of the links that are built in it, and nothing else. -/
theorem store_takeLines (context : SnippetContext) (closing : Bool) (lines : List Text)
    (progress : Progress) :
    (takeLines context closing lines progress).1.store =
      progress.store.putAll ((visits context closing lines (progress, .next)).filterMap
        (·.linked? context)) := by
  rw [ReferenceStore.putAll, List.foldl_filterMap]
  refine view_takeLines (·.store) _ (fun _ => rfl)
    (fun progress line => await_store progress context line) (fun visit => ?_) lines progress
  rw [visit.store_after context]
  cases visit.linked? context <;> rfl

/-- At a line that a run visits, some references have been stored in it already. -/
theorem exists_putAll_of_mem_visits {visit : Visit}
    (visited : visit ∈ visits context closing lines (progress, .next)) :
    ∃ references, visit.before.store = progress.store.putAll references := by
  obtain ⟨first, rest, later, reached, -, before, -⟩ := exists_run_of_mem_visits visited
  have store := store_takeLines context false first progress
  rw [reached] at store
  exact ⟨_, by rw [before, carrying_store, store]⟩

end Progress

end SnippetMarkup
