namespace CaseChart.Decimal

/-- Why a double has no integer next to it. -/
inductive NonFinite where
  | infinite
  | undefined
  deriving DecidableEq, Repr

def NonFinite.message : NonFinite → String
  | infinite => "cannot convert float infinity to integer"
  | undefined => "cannot convert float NaN to integer"

/-- The finite value `±m · 2^q`. -/
structure Binary where
  negative : Bool
  m : Nat
  q : Int
  deriving DecidableEq, Repr

namespace Binary

/-- The exact value of a finite double; the special ones come out as if they were finite. -/
def ofFloat (x : Float) : Binary :=
  let bits := x.toBits.toNat
  let e : Nat := (bits >>> 52) % (1 <<< 11)
  let f : Nat := bits % (1 <<< 52)
  let negative := decide (1 <<< 63 ≤ bits)
  if e = 0 then ⟨negative, f, -1074⟩ else ⟨negative, (1 <<< 52) + f, Int.ofNat e - 1075⟩

def ofFloat? (x : Float) : Except NonFinite Binary :=
  if x.isNaN then .error .undefined
  else if x.isInf then .error .infinite
  else .ok (ofFloat x)

def num (x : Binary) : Nat := x.m <<< x.q.toNat

def den (x : Binary) : Nat := 1 <<< (-x.q).toNat

def signedNum (x : Binary) : Int := if x.negative then -(x.num : Int) else x.num

/-- The integer part: rounding toward zero. -/
def truncate (x : Binary) : Int := Int.tdiv x.signedNum x.den

def ceil (x : Binary) : Int := -(Int.fdiv (-x.signedNum) x.den)

end Binary
end CaseChart.Decimal
