/-!
# Powers of two and of ten

Results:
* `twoTo_pos`: a power of two is never zero.
-/

namespace SubsetMatch.Decimal

/-- A power of two. -/
def twoTo (n : Nat) : Nat :=
  Nat.pow 2 n

/-- A power of ten. -/
def tenTo (n : Nat) : Nat :=
  Nat.pow 10 n

theorem twoTo_pos (n : Nat) : 0 < twoTo n :=
  Nat.pow_pos (by decide)

end SubsetMatch.Decimal
