import CaseChart.Http.Content

namespace CaseChart.Http.Schema

inductive Flaw where
  | missing
  | stringType
  | stringUnicode
  | listType
  | tooShort
  | notAnObject
  | malformed
  deriving DecidableEq, Repr

def Flaw.name : Flaw → String
  | missing => "missing"
  | stringType => "string_type"
  | stringUnicode => "string_unicode"
  | listType => "list_type"
  | tooShort => "string_too_short"
  | notAnObject => "model_attributes_type"
  | malformed => "json_invalid"

/-- A flaw, its place below the body, and the value at fault: for a missing field, the record that
lacks it. -/
structure Problem where
  flaw : Flaw
  place : List Value
  value : Value

def Problem.toValue (p : Problem) : Value :=
  .record [("type", .text p.flaw.name), ("loc", .list (.text "body" :: p.place))]

/-- The reply to a body with problems. There is none if a value at fault cannot be written. -/
def reply (h : Text.Halves) (ps : List Problem) : Except Fault Reply := do
  checkWritable h (.list (ps.map (·.value)))
  return ⟨422, .json (.list (ps.map Problem.toValue)), none, none, none⟩

def unread : Content.Flaw → Except Fault Reply
  | .malformed => reply {} [⟨.malformed, [], .null⟩]
  | .unreadable => .ok (.detail 400 (.text "There was an error parsing the body"))

/-- A field, or the problem with it. -/
abbrev Field (α : Type) := Except (List Problem) α

def Field.both {α β : Type} (a : Field α) (b : Field β) : Field (α × β) :=
  match a, b with
  | .ok a, .ok b => .ok (a, b)
  | .ok _, .error ps => .error ps
  | .error ps, .ok _ => .error ps
  | .error ps, .error qs => .error (ps ++ qs)

/-- A required text of at least `least` characters. Characters are counted only if there must be
any, and then halves of surrogate pairs are refused. -/
def text (h : Text.Halves) (fs : Value.Fields) (name : String) (least : Nat) : Field Text :=
  match Entries.get? name fs with
  | none => .error [⟨.missing, [.text name], .record fs⟩]
  | some (.text s) =>
    if 0 < least ∧ s.toList.any h.holds then .error [⟨.stringUnicode, [.text name], .text s⟩]
    else if s.length < least then .error [⟨.tooShort, [.text name], .text s⟩]
    else .ok s.toList
  | some v => .error [⟨.stringType, [.text name], v⟩]

def items (name : String) (n : Nat) : List Value → Field (List Text)
  | [] => .ok []
  | .text s :: vs => (items name (n + 1) vs).map (s.toList :: ·)
  | v :: vs =>
    match items name (n + 1) vs with
    | .ok _ => .error [⟨.stringType, [.text name, .int n], v⟩]
    | .error ps => .error (⟨.stringType, [.text name, .int n], v⟩ :: ps)

def texts (fs : Value.Fields) (name : String) : Field (List Text) :=
  match Entries.get? name fs with
  | none => .error [⟨.missing, [.text name], .record fs⟩]
  | some (.list vs) => items name 0 vs
  | some v => .error [⟨.listType, [.text name], v⟩]

def object : Content → Field Value.Fields
  | .absent => .error [⟨.missing, [], .null⟩]
  | .value (.record fs) _ => .ok fs
  | .value v _ => .error [⟨.notAnObject, [], v⟩]
  | .raw => .error [⟨.notAnObject, [], .null⟩]

end CaseChart.Http.Schema
