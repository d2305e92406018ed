import CaseChart.Decimal.Binary
import CaseChart.Json.Reader

namespace CaseChart.Settings

inductive Flaw where
  | greaterThan
  | intParsing
  | intSize
  | intFromFloat
  | finiteNumber
  | intType
  | floatParsing
  | floatType
  | stringType
  | valueError
  | modelType
  deriving DecidableEq, Repr

def Flaw.name : Flaw → String
  | greaterThan => "greater_than"
  | intParsing => "int_parsing"
  | intSize => "int_parsing_size"
  | intFromFloat => "int_from_float"
  | finiteNumber => "finite_number"
  | intType => "int_type"
  | floatParsing => "float_parsing"
  | floatType => "float_type"
  | stringType => "string_type"
  | valueError => "value_error"
  | modelType => "model_type"

/-- White space around a number: all but the separators among the controls. -/
def isOuterBlank (c : Char) : Bool := Text.isBlank c && !(28 ≤ c.toNat && c.toNat ≤ 31)

def trimNumber (t : Text) : Text :=
  ((t.dropWhile isOuterBlank).reverse.dropWhile isOuterBlank).reverse

def startsInteger (c : Char) : Bool := ('1' ≤ c && c ≤ '9') || c == '-'

/-- Drops zeros and underscores in front of a number; `last` is the character before `t`. The zero
before a point stays, and so does the last character. -/
def dropZerosAfter (last : Char) : Text → Option Text
  | [] => some [last]
  | c :: t =>
    if c == '0' || c == '_' then dropZerosAfter c t
    else if c == '.' then some (last :: c :: t)
    else if startsInteger c then some (c :: t)
    else none

def dropZeros : Text → Option Text
  | [] => none
  | c :: t =>
    if c == '0' then dropZerosAfter c t else if startsInteger c then some (c :: t) else none

def dropPlus : Text → Option Text
  | '+' :: '-' :: _ => none
  | '+' :: t => some t
  | t => some t

/-- Drops a fraction of zeros, one of them at least. -/
def dropFraction (t : Text) : Text :=
  match t.dropWhile (· ≠ '.') with
  | _ :: z :: zs => if (z :: zs).all (· == '0') then t.takeWhile (· ≠ '.') else t
  | _ => t

/-- Drops underscores, if each stands alone between other characters. -/
def ungroup? (t : Text) : Option Text :=
  if !t.contains '_' || ((Text.split '_' t).any List.isEmpty) then none
  else some (t.filter (· ≠ '_'))

/-- A whole number without anything around it: perhaps a minus, and digits of which the first is no
zero unless it is alone. -/
def plainInteger (t : Text) : Except Flaw Int :=
  let (negative, r) := match t with
    | '-' :: r => (true, r)
    | r => (false, r)
  let ds := r.takeWhile Char.isDigit
  let size := t.length - r.length + ds.length
  match ds, r.dropWhile Char.isDigit with
  | ['0'], [] => .ok 0
  | '0' :: _, _ => .error .intParsing
  | [], _ => .error .intParsing
  | ds, rest =>
    if Decimal.integerDigits < size then .error .intSize
    else if rest.isEmpty then
      let n : Int := Decimal.natOfDigits ds
      .ok (if negative then -n else n)
    else .error .intParsing

def bareInteger (t : Text) : Option Text := do
  let t ← (dropPlus (trimNumber t)) >>= dropZeros
  let t := dropFraction t
  return (ungroup? t).getD t

/-- The whole number that a text writes. One that is bare as it stands is judged for its length. -/
def wholeNumber (t : Text) : Except Flaw Int :=
  match plainInteger t with
  | .error .intParsing =>
    match (bareInteger t).map plainInteger with
    | some (.ok n) => .ok n
    | _ => .error .intParsing
  | outcome => outcome

def splitSign : Text → Bool × Text
  | '-' :: t => (true, t)
  | '+' :: t => (false, t)
  | t => (false, t)

def exponent? (t : Text) : Option Int :=
  let (negative, ds) := splitSign t
  if ds.isEmpty || !ds.all Char.isDigit then none
  else
    let n : Int := Decimal.natOfDigits ds
    some (if negative then -n else n)

def named? (t : Text) : Option Float :=
  match String.ofList (t.map Char.toLower) with
  | "inf" | "infinity" => some (1.0 / 0.0)
  | "nan" => some (0.0 / 0.0)
  | _ => none

def magnitude? (negative : Bool) (t : Text) : Option Float := do
  let isMark (c : Char) : Bool := c == 'e' || c == 'E'
  let mantissa := t.takeWhile fun c => !isMark c
  let exponent ←
    match t.dropWhile fun c => !isMark c with
    | [] => some 0
    | _ :: r => exponent? r
  let whole := mantissa.takeWhile (· ≠ '.')
  let fraction := (mantissa.dropWhile (· ≠ '.')).drop 1
  let digits := whole ++ fraction
  if digits.isEmpty ∨ !digits.all Char.isDigit then none
  return Decimal.toFloat negative (Decimal.natOfDigits digits) (exponent - fraction.length)

def plainNumber? (t : Text) : Option Float :=
  let (negative, t) := splitSign t
  match named? t with
  | some x => some (if negative then -x else x)
  | none => magnitude? negative t

def number? (t : Text) : Option Float :=
  (plainNumber? (trimNumber t)).or (ungroup? t >>= plainNumber?)

/-- A double as a whole number, if it is one of 64 bits. -/
def wholeFloat (x : Float) : Except Flaw Int :=
  match Decimal.Binary.ofFloat? x with
  | .error _ => .error .finiteNumber
  | .ok b =>
    if b.signedNum % b.den ≠ 0 then .error .intFromFloat
    else if b.truncate.natAbs < 1 <<< 63 then .ok b.truncate
    else .error .intSize

def readCount (v : Value) : Except Flaw Int := do
  let n ← match v with
    | .int n => .ok n
    | .bool b => .ok (if b then 1 else 0)
    | .real x => wholeFloat x
    | .text s => wholeNumber s.toList
    | _ => .error .intType
  if 0 < n then return n else throw .greaterThan

def readMeasure (v : Value) : Except Flaw Float := do
  let x ← match v with
    | .int n => (Decimal.ofInt? n).elim (.error .floatType) .ok
    | .bool b => .ok (if b then 1.0 else 0.0)
    | .real x => .ok x
    | .text s => (number? s.toList).elim (.error .floatParsing) .ok
    | _ => .error .floatType
  if 0.0 < x then return x else throw .greaterThan

end CaseChart.Settings
