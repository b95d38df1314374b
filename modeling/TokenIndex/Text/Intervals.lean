import TokenIndex.Text.Basic

namespace TokenIndex

/-- Closed intervals of code points, in increasing order. -/
abbrev Intervals := List (Nat × Nat)

def Intervals.has (table : Intervals) (c : CodePoint) : Bool :=
  table.any fun i => i.1 ≤ c.val && c.val ≤ i.2

end TokenIndex
