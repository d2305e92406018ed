import CaseChart.Text.CaseTable
import CaseChart.Text.Word

namespace CaseChart.Text

def shifted (shifts : List Shift) (n : Nat) : Nat :=
  match shifts.find? fun s => s.first ≤ n && n ≤ s.last && (n - s.first) % s.step == 0 with
  | some s => (n + s.delta).toNat
  | none => n

def upperOf (c : Char) : Text :=
  if c.toNat < 128 then [c.toUpper]
  else match upperExpansions.find? (·.1 == c.toNat) with
    | some (_, ns) => ns.map Char.ofNat
    | none => [Char.ofNat (shifted upperShifts c.toNat)]

def upper (t : Text) : Text := t.flatMap upperOf

/-- Lower case of one character apart from its neighbours: a capital dotted I keeps its dot. -/
def lowerOf (c : Char) : Text :=
  if c.toNat < 128 then [c.toLower]
  else if c.toNat = 0x130 then ['i', Char.ofNat 0x307]
  else [Char.ofNat (shifted lowerShifts c.toNat)]

/-- Whether the nearest character that does not stand aside is a letter with case. -/
def casedNext (t : Text) : Bool :=
  match t.find? fun c => !inRanges asideRanges c.toNat with
  | some c => inRanges casedRanges c.toNat
  | none => false

/-- Lower case of the text after `before`, which is given backwards. -/
def lowerAfter (before : Text) : Text → Text
  | [] => []
  | c :: t =>
    (if c.toNat = 0x3A3 then
        [Char.ofNat (if casedNext before && !casedNext t then 0x3C2 else 0x3C3)]
      else lowerOf c) ++ lowerAfter (c :: before) t

def lower (t : Text) : Text := lowerAfter [] t

end CaseChart.Text
