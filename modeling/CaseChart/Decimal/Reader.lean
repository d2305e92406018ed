namespace CaseChart.Decimal

def toFloat (negative : Bool) (digits : Nat) (exponent : Int) : Float :=
  let size : Int := (Nat.toDigits 10 digits).length
  let x :=
    if digits = 0 ∨ exponent + size < -400 then 0.0
    else if 400 < exponent + size then 1.0 / 0.0
    else Float.ofScientific digits (exponent < 0) exponent.natAbs
  if negative then -x else x

/-- The double nearest to an integer, unless the integer is beyond the range of doubles. -/
def ofInt? (n : Int) : Option Float :=
  let x := toFloat (n < 0) n.natAbs 0
  if x.isInf then none else some x

def natOfDigits (ds : List Char) : Nat := ds.foldl (fun n c => 10 * n + (c.toNat - 48)) 0

end CaseChart.Decimal
