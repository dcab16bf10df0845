namespace CodeGraph.Text

/-- Ranges of code points, both ends included. -/
abbrev RangeTable := List (Nat × Nat)

/-- Whether a character lies in one of the ranges. -/
def RangeTable.has (table : RangeTable) (c : Char) : Bool :=
  table.any fun range => range.1 ≤ c.toNat && c.toNat ≤ range.2

end CodeGraph.Text
