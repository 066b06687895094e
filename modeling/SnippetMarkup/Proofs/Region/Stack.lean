import Mathlib
import SnippetMarkup.Region.Stack

/-!
# Opening and closing regions

Closing takes one region off a stack: the first one, from the latest on, that the closing asks for.
The others stay as they are, and so do those of a stack below, which nothing is asked of as long as
there is a region to close on top of it.
-/

namespace SnippetMarkup.RegionStack

/-! ## Closing -/

theorem takeFirst?_eq {α : Type} (p : α → Bool) (list : List α) :
    takeFirst? p list = (list.find? p).map fun found => (found, list.eraseP p) := by
  induction list with
  | nil => rfl
  | cons x rest ih =>
    by_cases here : p x = true
    · rw [takeFirst?, if_pos here, List.find?_cons_of_pos here, List.eraseP_cons_of_pos here,
        Option.map_some]
    · rw [takeFirst?, if_neg here, List.find?_cons_of_neg here, List.eraseP_cons_of_neg here, ih,
        Option.map_map]
      rfl

/-- Whether a closing with this name, or without one, is for a region. -/
def fits (name : Option Text) (region : Region) : Bool := name.isNone || region.name == name

variable {stack later base : RegionStack} {name : Option Text} {region : Region}
  {operation : Operation}

theorem close?_eq_some_iff :
    stack.close? name = some (region, later) ↔
      stack.latestFirst.find? (fits name) = some region ∧
        later.latestFirst = stack.latestFirst.eraseP (fits name) := by
  obtain ⟨left⟩ := later
  rw [close?, takeFirst?_eq, Option.map_map, Option.map_eq_some_iff]
  constructor
  · rintro ⟨found, here, same⟩
    obtain ⟨rfl, rest⟩ := Prod.mk.inj same
    exact ⟨here, (RegionStack.mk.inj rest).symm⟩
  · rintro ⟨here, rest⟩
    replace rest : left = stack.latestFirst.eraseP (fits name) := rest
    exact ⟨region, here, by rw [rest]; rfl⟩

theorem size_close? (closed : stack.close? name = some (region, later)) :
    stack.size = later.size + 1 := by
  obtain ⟨found, rest⟩ := close?_eq_some_iff.1 closed
  have member := List.mem_of_find?_eq_some found
  have length := List.length_eraseP_of_mem member (List.find?_some found)
  have positive := List.length_pos_of_mem member
  rw [size, size, rest, length]
  omega

/-! ## Stacks on top of others -/

def onTop (stack base : RegionStack) : RegionStack := ⟨stack.latestFirst ++ base.latestFirst⟩

theorem empty_onTop (base : RegionStack) : onTop {} base = base := rfl

/-- What can be closed on top is closed there. -/
theorem close?_onTop (closed : stack.close? name = some (region, later)) (base : RegionStack) :
    (stack.onTop base).close? name = some (region, later.onTop base) := by
  obtain ⟨found, rest⟩ := close?_eq_some_iff.1 closed
  refine close?_eq_some_iff.2 ⟨?_, ?_⟩
  · rw [onTop, List.find?_append, found, Option.some_or]
  · rw [onTop, onTop, rest]
    exact (List.eraseP_append_left (List.find?_some found) _
      (List.mem_of_find?_eq_some found)).symm

/-! ## Operations of open regions -/

theorem mem_operations_iff :
    operation ∈ stack.operations ↔
      ∃ region ∈ stack.latestFirst, region.operation = some operation := by
  simp [operations, regions]

theorem operations_push (stack : RegionStack) (region : Region) :
    (stack.push region).operations = stack.operations ++ region.operation.toList := by
  cases made : region.operation <;> simp [operations, regions, push, made]

theorem mem_operations_close? (closed : stack.close? name = some (region, later))
    (member : operation ∈ later.operations) : operation ∈ stack.operations := by
  obtain ⟨-, rest⟩ := close?_eq_some_iff.1 closed
  obtain ⟨other, stays, made⟩ := mem_operations_iff.1 member
  rw [rest] at stays
  exact mem_operations_iff.2 ⟨other, List.eraseP_subset stays, made⟩

theorem mem_operations_push (member : operation ∈ (stack.push region).operations) :
    operation ∈ stack.operations ∨ region.operation = some operation := by
  obtain ⟨other, isOpen, made⟩ := mem_operations_iff.1 member
  rcases List.mem_cons.1 isOpen with rfl | before
  · exact .inr made
  · exact .inl (mem_operations_iff.2 ⟨other, before, made⟩)

end SnippetMarkup.RegionStack
