import CaseChart.Decimal.Reader
import CaseChart.Text.Utf16
import CaseChart.Value.Basic

namespace CaseChart.Json

inductive Container where
  | list
  | record
  deriving DecidableEq, Repr

def Container.depthMessage (c : Container) : String :=
  let kind := match c with
    | list => "array"
    | record => "object"
  s!"maximum recursion depth exceeded while decoding a JSON {kind} from a unicode string"

/-- Why a text is not read: it is no JSON, an integer in it is too long, or containers stand in one
another too deeply, the last of them of this kind. -/
inductive Error
  | malformed
  | longInteger
  | tooDeep (c : Container)
  deriving DecidableEq, Repr

def skip (t : Text) : Text := t.dropWhile fun c => c == ' ' || c == '\n' || c == '\t' || c == '\r'

def hex4? (a b c d : Char) : Option Nat :=
  [a, b, c, d].foldlM (fun n c => (Text.hexDigit? c).map (16 * n + ·)) 0

def escaped? : Char → Option Char
  | '"' => some '"'
  | '\\' => some '\\'
  | '/' => some '/'
  | 'b' => some '\x08'
  | 'f' => some '\x0c'
  | 'n' => some '\n'
  | 'r' => some '\r'
  | 't' => some '\t'
  | _ => none

/-- Reads a string after its opening quote; `acc` holds what was read, backwards. -/
def readString (halves : Text.Halves) (acc : Text) : Text → Except Error (String × Text)
  | [] => .error .malformed
  | '"' :: t => .ok (String.ofList acc.reverse, t)
  | '\\' :: 'u' :: a :: b :: c :: d :: '\\' :: 'u' :: e :: f :: g :: h :: t =>
    match hex4? a b c d, hex4? e f g h with
    | some hi, some lo =>
      match Text.joinSurrogates? hi lo with
      | some code => readString halves (halves.char code :: acc) t
      | none => readString halves (halves.char hi :: acc) ('\\' :: 'u' :: e :: f :: g :: h :: t)
    | _, _ => .error .malformed
  | '\\' :: 'u' :: a :: b :: c :: d :: t =>
    match hex4? a b c d with
    | some n => readString halves (halves.char n :: acc) t
    | none => .error .malformed
  | '\\' :: c :: t =>
    match escaped? c with
    | some c => readString halves (c :: acc) t
    | none => .error .malformed
  | c :: t => if c.toNat < 32 then .error .malformed else readString halves (c :: acc) t
  termination_by t => t.length

def spanDigits (t : Text) : Text × Text := (t.takeWhile Char.isDigit, t.dropWhile Char.isDigit)

def readFraction (t : Text) : Option Text × Text :=
  match t with
  | '.' :: r =>
    let (ds, r) := spanDigits r
    if ds.isEmpty then (none, t) else (some ds, r)
  | _ => (none, t)

def readExponent (t : Text) : Option Int × Text :=
  let signed (negative : Bool) (r : Text) : Option Int × Text :=
    let (ds, r) := spanDigits r
    let n : Int := Decimal.natOfDigits ds
    if ds.isEmpty then (none, t) else (some (if negative then -n else n), r)
  match t with
  | e :: r =>
    if e == 'e' || e == 'E' then
      match r with
      | '-' :: r => signed true r
      | '+' :: r => signed false r
      | r => signed false r
    else (none, t)
  | [] => (none, t)

/-- The part of a number before its fraction: zero alone, or digits that start with another. -/
def spanInteger (t : Text) : Text × Text :=
  match t with
  | '0' :: r => (['0'], r)
  | _ => spanDigits t

def readNumber (negative : Bool) (t : Text) : Except Error (Value × Text) :=
  let (ds, r) := spanInteger t
  if ds.isEmpty then .error .malformed else
    match readFraction r with
    | (fraction, r) =>
      match readExponent r with
      | (exponent, r) =>
        if fraction.isNone && exponent.isNone then
          let n : Int := Decimal.natOfDigits ds
          if Decimal.integerDigits < ds.length then .error .longInteger
          else .ok (.int (if negative then -n else n), r)
        else
          let fraction := fraction.getD []
          .ok (.real (Decimal.toFloat negative (Decimal.natOfDigits (ds ++ fraction))
            (exponent.getD 0 - fraction.length)), r)

def readScalar (t : Text) : Except Error (Value × Text) :=
  let named : List (String × Value) := [("null", .null), ("true", .bool true),
    ("false", .bool false), ("NaN", .real (0.0 / 0.0)), ("Infinity", .real (1.0 / 0.0)),
    ("-Infinity", .real (-1.0 / 0.0))]
  match named.findSome? fun p => (Text.dropWord? (· == ·) p.1.toList t).map (p.2, ·) with
  | some r => .ok r
  | none =>
    match t with
    | '-' :: r => readNumber true r
    | _ => readNumber false t

mutual

/-- Reads one value from the front of a text, at most `depth` containers in one another. -/
def readValue (halves : Text.Halves) : (fuel depth : Nat) → Text → Except Error (Value × Text)
  | 0, _, _ => .error .malformed
  | _ + 1, 0, '\x7b' :: _ => .error (.tooDeep .record)
  | _ + 1, 0, '[' :: _ => .error (.tooDeep .list)
  | fuel + 1, depth + 1, '\x7b' :: t =>
    match skip t with
    | '\x7d' :: t => .ok (.record [], t)
    | t => (readFields halves fuel depth [] t).map fun (fs, t) => (.record fs, t)
  | fuel + 1, depth + 1, '[' :: t =>
    match skip t with
    | ']' :: t => .ok (.list [], t)
    | t => (readItems halves fuel depth t).map fun (vs, t) => (.list vs, t)
  | _ + 1, _, '"' :: t => (readString halves [] t).map fun (s, t) => (.text s, t)
  | _ + 1, _, t => readScalar t

def readFields (halves : Text.Halves) : (fuel depth : Nat) → (fs : Value.Fields) → Text →
    Except Error (Value.Fields × Text)
  | fuel + 1, depth, fs, '"' :: t => do
    let (key, t) ← readString halves [] t
    match skip t with
    | ':' :: t =>
      let (v, t) ← readValue halves fuel depth (skip t)
      match skip t with
      | ',' :: t => readFields halves fuel depth (Entries.set key v fs) (skip t)
      | '\x7d' :: t => .ok (Entries.set key v fs, t)
      | _ => .error .malformed
    | _ => .error .malformed
  | _, _, _, _ => .error .malformed

def readItems (halves : Text.Halves) : (fuel depth : Nat) → Text → Except Error (List Value × Text)
  | 0, _, _ => .error .malformed
  | fuel + 1, depth, t => do
    let (v, t) ← readValue halves fuel depth t
    match skip t with
    | ',' :: t => (readItems halves fuel depth (skip t)).map fun (vs, t) => (v :: vs, t)
    | ']' :: t => .ok ([v], t)
    | _ => .error .malformed

end

/-- The value that a whole text writes, at most `depth` containers in one another. Every step of
reading takes a character, so its length is fuel enough. -/
def read (halves : Text.Halves) (depth : Nat) (t : Text) : Except Error Value :=
  match readValue halves (t.length + 1) depth (skip t) with
  | .ok (v, r) => if (skip r).isEmpty then .ok v else .error .malformed
  | .error e => .error e

end CaseChart.Json
