/-!
# Ranges of code points

A character class is a list of ranges. A step of two describes the runs in which capital and small
letters alternate, so that such a run is one entry.
-/

namespace SocketDocs.Text

/-- The code points `first, first + step, …` up to `last`. -/
structure CodeRange where
  first : Nat
  last : Nat
  step : Nat := 1

namespace CodeRange

def contains (range : CodeRange) (code : Nat) : Bool :=
  range.first ≤ code && code ≤ range.last && (code - range.first) % range.step == 0

end CodeRange

def inRanges (ranges : List CodeRange) (c : Char) : Bool :=
  ranges.any (·.contains c.toNat)

end SocketDocs.Text
