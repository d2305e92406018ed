import CaseChart.Http.Address
import CaseChart.Http.Message

namespace CaseChart.Http

/-- A request before it is sent: its method is in any case, and it goes to an address. -/
structure Draft where
  method : String
  address : Text
  body : Text := []
  headers : List (String × String) := []
  host : Option String := none

/-- Why a request is not sent: its address, or the characters of a header from `first` to `last`,
which are not ASCII. -/
inductive Unsent where
  | address (flaw : AddressFlaw)
  | header (text : Text) (first last : Nat)
  deriving DecidableEq, Repr

def Unsent.message : Unsent → String
  | address flaw => flaw.message
  | header text first last =>
    let code := String.ofList (Text.escapedByCode (text.getD first ' '))
    let place := if first = last then s!"character '{code}' in position {first}"
      else s!"characters in position {first}-{last}"
    s!"'ascii' codec can't encode {place}: ordinal not in range(128)"

namespace Draft

def isAscii (c : Char) : Bool := c.toNat < 128

def checkHeader (text : Text) : Except Unsent Unit :=
  let first := (text.takeWhile isAscii).length
  let size := ((text.drop first).takeWhile fun c => !isAscii c).length
  if size = 0 then .ok () else .error (.header text first (first + size - 1))

def send (d : Draft) : Except Unsent Request := do
  let path ← (pathOf d.address).mapError .address
  d.headers.forM fun (name, value) => do
    checkHeader name.toList
    checkHeader value.toList
  return { method := String.ofList (Text.upper d.method.toList), path, body := d.body,
           headers := d.headers, host := d.host }

end Draft
end CaseChart.Http
