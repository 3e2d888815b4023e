/-
# Sets of characters

A set of characters given by ranges of code points, as the standard's property tables give
them.  Membership is a search through the ranges.
-/

namespace SupportDesk

/-- A set of characters: the ranges of its code points, first and last of each, in
increasing order. -/
structure CharSet where
  ranges : Array (Nat × Nat)
deriving Repr

namespace CharSet

/-- Whether a character belongs to a set. -/
def contains (s : CharSet) (c : Char) : Bool :=
  s.ranges.any fun r => r.1 ≤ c.toNat && c.toNat ≤ r.2

end CharSet

end SupportDesk
