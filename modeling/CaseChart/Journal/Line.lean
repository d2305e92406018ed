import CaseChart.Chart.Category
import CaseChart.Value.Basic

namespace CaseChart

inductive Item where
  | data (v : Value)
  | category (c : Category)

namespace Item

def escapeBreak (c : Char) : Text :=
  if c = '\r' then ['\\', 'r'] else if c = '\n' then ['\\', 'n'] else [c]

def text : Item → Except Decimal.IntegerFlaw Text
  | category c => .ok c.name.toList
  | data (.text s) => .ok (s.toList.flatMap escapeBreak)
  | data (.record fs) => .ok s!"{fs.length} keys".toList
  | data (.list vs) => .ok s!"{vs.length} items".toList
  | data v => v.written.map String.toList

/-- The first `bound` characters, or all but the last ones if the bound is negative. -/
def cut (bound : Int) (t : Text) : Text :=
  if 0 ≤ bound then t.take bound.toNat else t.take (t.length - (-bound).toNat)

/-- A text within a bound, cut off with a note of its length if it is longer. -/
def bounded (bound : Int) (t : Text) : Text :=
  if bound < t.length then cut bound t ++ s!"... ({t.length} chars)".toList else t

/-- An item on a line. The missing value is always written in full. -/
def line (bound : Int) : Item → Except Decimal.IntegerFlaw Text
  | data .null => .ok "None".toList
  | item => item.text.map (bounded bound)

def usualBound : Int := 200

end Item
end CaseChart
