import CaseChart.Fault.Basic
import CaseChart.Journal.Correlation

namespace CaseChart.Http

structure Request where
  method : String
  path : Text
  body : Text := []
  headers : List (String × String) := []
  host : Option String := none

namespace Request

/-- The value of a header, whose name matches in any case; the first counts. -/
def header? (r : Request) (name : String) : Option String :=
  (r.headers.find? fun h => h.1.toLower == name.toLower).map (·.2)

/-- The path as it is noted: without tabs and line breaks, up to a question mark or a hash. -/
def notedPath (r : Request) : String :=
  let kept := r.path.filter fun c => c ≠ '\t' ∧ c ≠ '\n' ∧ c ≠ '\r'
  String.ofList (kept.takeWhile fun c => c ≠ '?' ∧ c ≠ '#')

end Request

inductive Body where
  | json (v : Value)
  | text (s : String)
  | empty

def checkWritable (h : Text.Halves) (v : Value) : Except Fault Unit :=
  if !v.isFinite then .error .unwritableNumber
  else if !v.isShort then .error (.unwritableInteger .tooLong)
  else if !v.isWhole h then .error .unwritableText
  else .ok ()

structure Reply where
  status : Int
  body : Body
  retryAfter : Option Int := none
  allow : Option String := none
  correlation : Option CorrelationId := none

namespace Reply

def hasBody (status : Int) : Bool :=
  !(status < 200 || status == 204 || status == 205 || status == 304)

def detail (status : Int) (v : Value) : Reply :=
  ⟨status, if hasBody status then .json (.record [("detail", v)]) else .empty, none, none, none⟩

def ok (v : Value) : Reply := ⟨200, .json v, none, none, none⟩

def tooMany (seconds : Int) : Reply :=
  { detail 429 (.record [("error", .text "Rate limit exceeded"), ("retry_after", .int seconds)])
    with retryAfter := some seconds }

/-- The reply to a fault of an operation. There is none if it cannot be written. -/
def ofFault (h : Text.Halves) (f : Fault) : Except Fault Reply := do
  let (status, v) ← f.answer
  if hasBody status then checkWritable h v
  return detail status v

/-- What is sent of a reply: to a HEAD request, all but the body. -/
def sentTo (method : String) (r : Reply) : Reply :=
  if method = "HEAD" then { r with body := .empty } else r

def failure : Reply := ⟨500, .text "Internal Server Error", none, none, none⟩

end Reply
end CaseChart.Http
