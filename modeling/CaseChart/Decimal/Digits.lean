import CaseChart.Decimal.Binary

namespace CaseChart.Decimal

/-- The decimal number `digits · 10^exponent`. -/
structure Scientific where
  digits : Nat
  exponent : Int
  deriving DecidableEq, Repr

/-- The quotient rounded to the nearest integer, a tie to the even one. -/
def roundHalfEven (num den : Nat) : Nat :=
  let c := num / den
  let r := num % den
  if 2 * r < den then c else if den < 2 * r then c + 1 else c + c % 2

/-- How many times `num / den` has to be taken tenfold to reach one, `fuel` times at most. -/
def leadingZeros (num den : Nat) : Nat → Nat
  | 0 => 0
  | fuel + 1 => if den ≤ num then 0 else leadingZeros (num * 10) den fuel + 1

def leadingExponent (num den : Nat) : Int :=
  if den ≤ num then (Nat.toDigits 10 (num / den)).length - 1 else -(leadingZeros num den 400)

def inUnits (num den : Nat) (k : Int) : Nat × Nat :=
  (num * Nat.pow 10 (-k).toNat, den * Nat.pow 10 k.toNat)

/-- The numbers that round to a double, as a closed or open interval of quarters of its last
place: the lower side is half as wide under a power of two. -/
structure Rounding where
  lo : Nat
  hi : Nat
  closed : Bool

def Rounding.of (x : Binary) : Rounding :=
  let narrow := x.m == 1 <<< 52 && x.q != -1074
  ⟨4 * x.m - (if narrow then 1 else 2), 4 * x.m + 2, x.m % 2 == 0⟩

def readsBack (x : Binary) (c : Nat) (k : Int) : Bool :=
  let r := Rounding.of x
  let (n, d) := inUnits (1 <<< x.q.toNat) (4 * x.den) k
  if r.closed then r.lo * n ≤ c * d && c * d ≤ r.hi * n else r.lo * n < c * d && c * d < r.hi * n

/-- The number with `size` digits nearest to `x` among those that round to it. -/
def withDigits? (x : Binary) (size : Nat) : Option Scientific :=
  let k := leadingExponent x.num x.den + 1 - size
  let (n, d) := inUnits x.num x.den k
  let near := roundHalfEven n d
  let far := if near = n / d then n / d + 1 else n / d
  if readsBack x near k then some ⟨near, k⟩
  else if readsBack x far k then some ⟨far, k⟩
  else none

def fewestFrom (x : Binary) : (size fuel : Nat) → Scientific
  | size, 0 => ⟨(inUnits x.num x.den (leadingExponent x.num x.den + 1 - size)).1, 0⟩
  | size, fuel + 1 => (withDigits? x size).getD (fewestFrom x (size + 1) fuel)

/-- The shortest decimal that reads back as `x`, and of those the nearest. -/
def shortest (x : Binary) : Scientific := if x.m = 0 then ⟨0, 0⟩ else fewestFrom x 1 17

def significant (size : Nat) (x : Binary) : Scientific :=
  if x.m = 0 then ⟨0, 0⟩ else
    let k := leadingExponent x.num x.den + 1 - size
    let (n, d) := inUnits x.num x.den k
    ⟨roundHalfEven n d, k⟩

end CaseChart.Decimal
