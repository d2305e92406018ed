import CaseChart.Http.Message
import CaseChart.Json.Reader
import CaseChart.Text.Utf16
import CaseChart.Text.Utf8

namespace CaseChart.Http

/-- What a body holds: nothing, bytes of some other type, or a value. -/
inductive Content where
  | absent
  | raw
  | value (v : Value) (halves : Text.Halves)

namespace Content

def halves : Content → Text.Halves
  | value _ h => h
  | _ => {}

def isJson (mediaType : Text) : Bool :=
  match Text.split '/' (Text.lower (Text.trim (mediaType.takeWhile (· ≠ ';')))) with
  | [main, sub] =>
    main == "application".toList && (sub == "json".toList || "+json".toList.isSuffixOf sub)
  | _ => false

inductive Coding where
  | utf8
  | utf16 (o : Text.ByteOrder)
  | utf32 (o : Text.ByteOrder)
  deriving DecidableEq, Repr

/-- The coding of bytes, told from the first four of them, or from both where there are two. -/
def Coding.ofBytes : List UInt8 → Coding
  | [0, _] => .utf16 .bigEndian
  | [_, 0] => .utf16 .littleEndian
  | 0 :: b :: _ :: _ :: _ => if b = 0 then .utf32 .bigEndian else .utf16 .bigEndian
  | _ :: 0 :: c :: d :: _ =>
    if c = 0 ∧ d = 0 then .utf32 .littleEndian else .utf16 .littleEndian
  | _ => .utf8

/-- The text of a body that was sent as UTF-8, in the coding in which it is read; none if it is
not well formed there. A mark of the byte order in front of it is dropped. -/
def readable? (h : Text.Halves) (body : Text) : Option Text :=
  match Coding.ofBytes (Text.Utf8.encode (body.take 4)) with
  | .utf8 => some (if body.head? = some '\ufeff' then body.drop 1 else body)
  | .utf16 o => Text.Utf16.decode? h o (Text.Utf8.encode body)
  | .utf32 o => Text.Utf32.decode? h o (Text.Utf8.encode body)

/-- Why the body of a request is not read: it is no JSON, or it is not understood at all. -/
inductive Flaw where
  | malformed
  | unreadable
  deriving DecidableEq, Repr

def depth : Nat := 971

/-- The value that a JSON body writes, with halves of surrogate pairs held in `h`. -/
def readJson (h : Text.Halves) (body : Text) : Except Flaw Value :=
  match readable? h body with
  | none => .error .unreadable
  | some t =>
    match Json.read h depth t with
    | .ok v => .ok v
    | .error .malformed => .error .malformed
    | .error _ => .error .unreadable

/-- What a JSON body holds. It is read a second time if its texts use the characters in which halves
were held at first. -/
def ofJson (body : Text) : Except Flaw Content := do
  let h := (Text.Halves.choices.find? (← readJson {} body).isWhole).getD {}
  return .value (← readJson h body) h

def ofRequest (r : Request) : Except Flaw Content :=
  if r.body.isEmpty then .ok .absent
  else if isJson ((r.header? "Content-Type").getD "").toList then ofJson r.body
  else .ok .raw

end Content
end CaseChart.Http
