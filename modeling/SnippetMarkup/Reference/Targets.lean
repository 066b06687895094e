import SnippetMarkup.Text.Table

/-!
# Link targets

The names that link tags may point to and the references that they stand for.  If it is so
agreed, a member of a class that has no reference of its own stands for its class.
-/

namespace SnippetMarkup

/-- Target names with their references, each name once. -/
structure Targets where
  entries : TextTable := []
  memberFallback : Bool := false
  deriving DecidableEq, Repr

namespace Targets

/-- The reference that a target stands for. -/
def resolve? (targets : Targets) (target : Text) : Option Text :=
  match targets.entries.lookup target with
  | some reference => some reference
  | none =>
    if targets.memberFallback then
      (Text.splitFirst? '#' target).bind fun (owner, _) => targets.entries.lookup owner
    else none

/-- The note on a target without a reference. -/
def notFoundNote (target context : Text) : Text :=
  "Target ".toList ++ target ++ " not found (in ".toList ++ context ++ [')']

end Targets

end SnippetMarkup
