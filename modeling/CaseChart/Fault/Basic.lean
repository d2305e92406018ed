import CaseChart.Decimal.Binary
import CaseChart.Fault.Cause

namespace CaseChart

inductive Fault where
  | refusal (r : Refusal)
  | momentOutOfRange
  | integerOutOfRange
  | nonFinite (n : Decimal.NonFinite)
  | unwritableNumber
  | unwritableInteger (flaw : Decimal.IntegerFlaw)
  | unwritableText
  | unknownLevel (name : String)
  | unknownCategory (name : String)
  | status (code : Int) (detail : Value)
  | foreign (origin text : String)

def Cause.fault (c : Cause) : Fault := .refusal c.refusal

def Refusal.Kind.name : Refusal.Kind → String
  | general => "LegalDiagramException"
  | argument => "InvalidArgumentError"
  | chart => "DiagramRejectedError"
  | extraction => "ExtractionFailedError"

def Fault.name : Fault → String
  | refusal r => r.kind.name
  | momentOutOfRange | integerOutOfRange | nonFinite .infinite => "OverflowError"
  | nonFinite .undefined | unwritableNumber | unwritableInteger _ => "ValueError"
  | unknownLevel _ | unknownCategory _ => "ValueError"
  | unwritableText => "UnicodeEncodeError"
  | status _ _ => "HTTPException"
  | foreign origin _ => origin

/-- A fault in words, if all the integers that belong in them can be written. -/
def Fault.text : Fault → Except Decimal.IntegerFlaw String
  | refusal r => r.text
  | momentOutOfRange => .ok "date value out of range"
  | integerOutOfRange => .ok "int too large to convert to float"
  | nonFinite n => .ok n.message
  | unwritableNumber => .ok "Out of range float values are not JSON compliant"
  | unwritableInteger flaw => .ok flaw.message
  | unwritableText => .ok "surrogates not allowed"
  | unknownLevel name => .ok ("Unknown level: " ++ quoted name)
  | unknownCategory name => .ok (quoted name ++ " is not a valid EntityCategory")
  | status code detail => do return (← Decimal.integerText code) ++ ": " ++ (← detail.shown)
  | foreign _ text => .ok text
where
  quoted (name : String) : String := String.ofList (Text.quoted name.toList)

/-- The answer to a caller over the network: status and detail. What was not foreseen is an
internal error. A fault that has to be put in words and cannot be ends in another one. -/
def Fault.answer (f : Fault) : Except Fault (Int × Value) :=
  match f with
  | refusal r =>
    match r.kind with
    | .chart => .ok (400, .record [("error", .text r.message), ("errors", .texts r.errors)])
    | .argument => told fun _ => (400, .text r.message)
    | .extraction => told fun _ => (502, .text r.message)
    | .general => internal
  | status code detail => .ok (code, detail)
  | _ => internal
where
  told (answer : String → Int × Value) : Except Fault (Int × Value) :=
    (f.text.mapError .unwritableInteger).map answer
  internal : Except Fault (Int × Value) :=
    told fun text =>
      (500, .text ("An internal error occurred during diagram operation: " ++ text))

end CaseChart
