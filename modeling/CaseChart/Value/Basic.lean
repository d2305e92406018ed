import CaseChart.Decimal.Layout
import CaseChart.Entries
import CaseChart.Text.Quoted
import CaseChart.Text.Utf16

namespace CaseChart

inductive Value where
  | null
  | bool (b : Bool)
  | int (n : Int)
  | real (x : Float)
  | text (s : String)
  | list (vs : List Value)
  | record (fields : List (String × Value))
  deriving Inhabited

namespace Value

abbrev Fields := List (String × Value)

/-- A field of a record; no other value has one. -/
def field? (key : String) : Value → Option Value
  | record fs => Entries.get? key fs
  | _ => none

def texts (ss : List String) : Value := list (ss.map text)

def optional : Option String → Value
  | some s => text s
  | none => null

inductive Kind
  | null | bool | int | real | text | bytes | list | record
  deriving DecidableEq, Repr

def kind : Value → Kind
  | null => .null
  | bool _ => .bool
  | int _ => .int
  | real _ => .real
  | text _ => .text
  | list _ => .list
  | record _ => .record

def Kind.name : Kind → String
  | .null => "NoneType"
  | .bool => "bool"
  | .int => "int"
  | .real => "float"
  | .text => "str"
  | .bytes => "bytes"
  | .list => "list"
  | .record => "dict"

mutual

/-- A value as it stands within a message: texts quoted, lists and records in brackets. There is no
message if an integer in it is too long. -/
def written : Value → Except Decimal.IntegerFlaw String
  | null => .ok "None"
  | bool b => .ok (if b then "True" else "False")
  | int n => Decimal.integerText n
  | real x => .ok (Decimal.text x)
  | text s => .ok (String.ofList (Text.quoted s.toList))
  | list vs => (writtenItems vs).map fun ws => "[" ++ ", ".intercalate ws ++ "]"
  | record fs => (writtenFields fs).map fun ws => "\x7b" ++ ", ".intercalate ws ++ "\x7d"

def writtenItems : List Value → Except Decimal.IntegerFlaw (List String)
  | [] => .ok []
  | v :: vs => do return (← written v) :: (← writtenItems vs)

def writtenFields : List (String × Value) → Except Decimal.IntegerFlaw (List String)
  | [] => .ok []
  | (k, v) :: fs => do
    let field := String.ofList (Text.quoted k.toList) ++ ": " ++ (← written v)
    return field :: (← writtenFields fs)

end

mutual

/-- Whether `p` holds of every value in a value that holds no other, keys included. -/
def every (p : Value → Bool) : Value → Bool
  | list vs => everyItem p vs
  | record fs => everyField p fs
  | v => p v

def everyItem (p : Value → Bool) : List Value → Bool
  | [] => true
  | v :: vs => every p v && everyItem p vs

def everyField (p : Value → Bool) : List (String × Value) → Bool
  | [] => true
  | (k, v) :: fs => p (text k) && every p v && everyField p fs

end

def isFinite (v : Value) : Bool :=
  v.every fun
    | real x => x.isFinite
    | _ => true

def isShort (v : Value) : Bool :=
  v.every fun
    | int n => (Decimal.integerText n).isOk
    | _ => true

def isWhole (h : Text.Halves) (v : Value) : Bool :=
  v.every fun
    | text s => !s.toList.any h.holds
    | _ => true

/-- A value as a message of its own: a text stands for itself. -/
def shown : Value → Except Decimal.IntegerFlaw String
  | text s => .ok s
  | v => written v

end Value
end CaseChart
