/-! Sets of characters given by where they begin and end. A table lists, in increasing order,
the code points at which membership changes, starting outside. -/
namespace FileTransfer.Text

/-- A set of characters as the increasing code points at which membership flips. -/
structure RangeTable where
  flips : List Nat

namespace RangeTable

/-- Membership flips at each listed point up to the one asked for. -/
def flipsTo (n : Nat) : Bool → List Nat → Bool
  | inside, [] => inside
  | inside, p :: rest => if p ≤ n then flipsTo n (!inside) rest else inside

/-- A character belongs to the set if it lies after an odd number of flips. -/
def contains (t : RangeTable) (c : Char) : Bool :=
  flipsTo c.toNat false t.flips

theorem flipsTo_of_lt {n p : Nat} (rest : List Nat) (inside : Bool) (h : n < p) :
    flipsTo n inside (p :: rest) = inside := by
  simp [flipsTo, Nat.not_le.mpr h]

theorem flipsTo_of_le {n p : Nat} (rest : List Nat) (inside : Bool) (h : p ≤ n) :
    flipsTo n inside (p :: rest) = flipsTo n (!inside) rest :=
  if_pos h

end RangeTable

end FileTransfer.Text
