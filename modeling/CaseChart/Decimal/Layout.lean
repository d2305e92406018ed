import CaseChart.Decimal.Digits

namespace CaseChart.Decimal

/-- The places of the decimal point, counted from the first digit, that are written
positionally, and whether a whole number ends in `.0`. -/
structure Layout where
  firstPoint : Int
  lastPoint : Int
  wholeMark : Bool

/-- Numbers as data: positional from 1e-4 on and below 1e16, a whole number marked as inexact. -/
def Layout.data : Layout := ⟨-3, 16, true⟩

/-- Numbers in messages: positional from 1e-4 on and below 1e6, whole numbers bare. -/
def Layout.message : Layout := ⟨-3, 6, false⟩

def dropZeros (ds : List Char) : List Char :=
  match (ds.reverse.dropWhile (· == '0')).reverse with
  | [] => ['0']
  | ds => ds

def exponentText (e : Int) : List Char :=
  let ds := Nat.toDigits 10 e.natAbs
  'e' :: (if e < 0 then '-' else '+') :: (List.replicate (2 - ds.length) '0' ++ ds)

/-- The digits `ds` with the decimal point after `point` of them. -/
def Layout.place (l : Layout) (ds : List Char) (point : Int) : List Char :=
  let size := ds.length
  if l.firstPoint ≤ point ∧ point ≤ l.lastPoint then
    if point ≤ 0 then '0' :: '.' :: (List.replicate (-point).toNat '0' ++ ds)
    else if size ≤ point.toNat then
      ds ++ List.replicate (point.toNat - size) '0' ++ (if l.wholeMark then ['.', '0'] else [])
    else ds.take point.toNat ++ '.' :: ds.drop point.toNat
  else
    ds.take 1 ++ (if size ≤ 1 then [] else '.' :: ds.drop 1) ++ exponentText (point - 1)

def Layout.render (l : Layout) (negative : Bool) (s : Scientific) : String :=
  let ds := Nat.toDigits 10 s.digits
  let number := l.place (dropZeros ds) (ds.length + s.exponent)
  String.ofList (if negative then '-' :: number else number)

def special? (x : Float) : Option String :=
  if x.isNaN then some "nan"
  else if x.isInf then some (if x < 0 then "-inf" else "inf")
  else none

/-- The most digits of an integer that is written, or read. -/
def integerDigits : Nat := 4300

inductive IntegerFlaw where
  | tooLong
  deriving DecidableEq, Repr

def IntegerFlaw.message : IntegerFlaw → String
  | tooLong =>
    s!"Exceeds the limit ({integerDigits} digits) for integer string conversion; " ++
      "use sys.set_int_max_str_digits() to increase the limit"

/-- An integer as data. Its sign is not counted among the digits. -/
def integerText (n : Int) : Except IntegerFlaw String :=
  if integerDigits < (Nat.toDigits 10 n.natAbs).length then .error .tooLong else .ok (toString n)

def text (x : Float) : String :=
  (special? x).getD
    (let b := Binary.ofFloat x; Layout.data.render b.negative (shortest b))

def sixDigits (x : Float) : String :=
  (special? x).getD
    (let b := Binary.ofFloat x; Layout.message.render b.negative (significant 6 b))

end CaseChart.Decimal
