/-!
# Ranges of code points

A character property is a list of closed ranges of code points in ascending order.  Membership
walks the list and stops at the first range that lies beyond the code point.
-/

namespace SnippetMarkup.Unicode

/-- Whether a code point lies in one of the given ascending closed ranges. -/
def covers : List (Nat × Nat) → Nat → Bool
  | [], _ => false
  | (low, high) :: rest, n => if n < low then false else if n ≤ high then true else covers rest n

end SnippetMarkup.Unicode
