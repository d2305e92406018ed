import CaseChart.Http.Message

namespace CaseChart.Http

/-- What is asked: whether a method may be used, and whether it may reach into a private network. -/
structure Preflight where
  method : String
  privateNetwork : Bool
  deriving DecidableEq, Repr

namespace Preflight

def methods : List String :=
  ["DELETE", "GET", "HEAD", "OPTIONS", "PATCH", "POST", "PUT", "QUERY"]

/-- What a request asks; none if it is no such question. -/
def ofRequest? (r : Request) : Option Preflight :=
  if r.method = "OPTIONS" ∧ (r.header? "Origin").isSome then
    (r.header? "Access-Control-Request-Method").map fun method =>
      ⟨method, (r.header? "Access-Control-Request-Private-Network").isSome⟩
  else none

/-- What is not allowed of what is asked; a private network never is. -/
def failures (p : Preflight) : List String :=
  (if p.method ∈ methods then [] else ["method"]) ++
    (if p.privateNetwork then ["private-network"] else [])

def reply (p : Preflight) : Reply :=
  if p.failures.isEmpty then ⟨200, .text "OK", none, none, none⟩
  else ⟨400, .text ("Disallowed CORS " ++ ", ".intercalate p.failures), none, none, none⟩

end Preflight
end CaseChart.Http
