/-! # Range tables — sets of scalars given by ranges

A property of scalars is stored as a sorted array of disjoint closed ranges of code points and
asked by binary search.
-/

namespace GraphemeRegex.Unicode

/-- A set of code points: disjoint closed ranges in ascending order. -/
structure RangeTable where
  ranges : Array (Nat × Nat)

namespace RangeTable

/-- Halves the window `[low, high)` of ranges until the one that may hold `n` is found; each round
costs one unit of `rounds`. -/
def search (table : RangeTable) (n : Nat) : (rounds low high : Nat) → Bool
  | 0, _, _ => false
  | rounds + 1, low, high =>
    if low < high then
      let middle := (low + high) / 2
      match table.ranges[middle]? with
      | none => false
      | some (first, last) =>
        if n < first then table.search n rounds low middle
        else if last < n then table.search n rounds (middle + 1) high
        else true
    else false

/-- Whether the scalar lies in one of the ranges. -/
def contains (table : RangeTable) (c : Char) : Bool :=
  table.search c.toNat (table.ranges.size + 1) 0 table.ranges.size

end RangeTable

end GraphemeRegex.Unicode
