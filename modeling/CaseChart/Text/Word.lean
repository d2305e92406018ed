import CaseChart.Text.WordTable
import CaseChart.Text.Basic

namespace CaseChart.Text

def inRanges (ranges : List (Nat × Nat)) (n : Nat) : Bool :=
  ranges.any fun r => r.1 ≤ n && n ≤ r.2

def isAsciiWord (c : Char) : Bool := c.isAlphanum || c == '_'

/-- A letter, digit or number sign of any script, or an underscore. -/
def isWord (c : Char) : Bool :=
  if c.toNat < 128 then isAsciiWord c else inRanges wordRanges c.toNat

end CaseChart.Text
