/-!
# Sets of code points

A set is given by its boundaries: the ascending code points at which membership changes, starting
outside the set. A code point is a member when an odd number of boundaries lies at or below it.
-/

namespace SqlBackend.Text

/-- The set whose membership changes at each of the ascending `boundaries`. -/
structure CodePoints where
  boundaries : List Nat

namespace CodePoints

def contains (s : CodePoints) (c : Char) : Bool :=
  (s.boundaries.takeWhile (· ≤ c.toNat)).length % 2 == 1

end CodePoints

end SqlBackend.Text
