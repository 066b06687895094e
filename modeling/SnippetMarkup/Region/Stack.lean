import SnippetMarkup.Operation.Basic

/-!
# Open regions

Regions that have been opened and not closed yet.  A region is closed by its name, and then it is
the one opened last of all with that name, or as the one opened last of all.
-/

namespace SnippetMarkup

/-- A region that is open.  It may have no name, and it may have no operation. -/
structure Region where
  name : Option Text
  operation : Option Operation := none

structure RegionStack where
  latestFirst : List Region := []

namespace RegionStack

def regions (stack : RegionStack) : List Region := stack.latestFirst.reverse

def size (stack : RegionStack) : Nat := stack.latestFirst.length

def push (stack : RegionStack) (region : Region) : RegionStack := ⟨region :: stack.latestFirst⟩

/-- The first element with a property, and the list without it. -/
def takeFirst? {α : Type} (p : α → Bool) : List α → Option (α × List α)
  | [] => none
  | x :: rest =>
    -- The regions above the one that is closed stay open.
    if p x then some (x, rest)
    else (takeFirst? p rest).map fun (found, others) => (found, x :: others)

/-- Closes the latest region with the given name, or the latest of all if none is given. -/
def close? (stack : RegionStack) (name : Option Text) : Option (Region × RegionStack) :=
  (takeFirst? (fun region => name.isNone || region.name == name) stack.latestFirst).map
    fun (region, rest) => (region, ⟨rest⟩)

/-- The operations of the open regions, those of the oldest first. -/
def operations (stack : RegionStack) : List Operation := stack.regions.filterMap (·.operation)

/-- The names of the open regions, the oldest first. -/
def names (stack : RegionStack) : List Text :=
  stack.regions.map fun region => region.name.getD "anonymous".toList

end RegionStack

end SnippetMarkup
