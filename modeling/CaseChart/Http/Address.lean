import CaseChart.Text.Case
import CaseChart.Text.Utf8

namespace CaseChart.Http

inductive AddressFlaw where
  | tooLong
  | pathTooLong
  | queryTooLong
  | control (c : Char) (position : Nat)
  | hostNumber (text : Text)
  | twoSlashes
  | colon
  | scheme (name : Text)
  deriving DecidableEq, Repr

def AddressFlaw.message : AddressFlaw → String
  | tooLong => "URL too long"
  | pathTooLong => "URL component 'path' too long"
  | queryTooLong => "URL component 'query' too long"
  | control c position =>
    let shown := String.ofList (Text.quoted [c])
    s!"Invalid non-printable ASCII character in URL, {shown} at position {position}."
  | hostNumber text => s!"Invalid port: {String.ofList (Text.quoted text)}"
  | twoSlashes => "Relative URLs cannot have a path starting with '//'"
  | colon => "Relative URLs cannot have a path starting with ':'"
  | scheme name => String.ofList (Text.quoted name)

structure Address where
  scheme : Text
  host : Text
  path : Text
  query : Text
  deriving DecidableEq, Repr

/-- Drops the parts of a path that stand for the same or the upper directory, together with what
they lead back from. -/
def removeDots (path : Text) : Text :=
  Text.join ['/'] ((Text.split '/' path).foldl step []).reverse
where
  /-- One part after those in `out`, the last of which is first. -/
  step (out : List Text) (part : Text) : List Text :=
    if part = ['.'] then out
    else if part = ['.', '.'] then (if out = [[]] then out else out.drop 1)
    else part :: out

def unescapeBytes : Text → List UInt8
  | [] => []
  | '%' :: a :: b :: t =>
    match Text.hexDigit? a, Text.hexDigit? b with
    | some hi, some lo => UInt8.ofNat (16 * hi + lo) :: unescapeBytes t
    | _, _ => Text.Utf8.encode ['%'] ++ unescapeBytes (a :: b :: t)
  | c :: t => Text.Utf8.encode [c] ++ unescapeBytes t
  termination_by t => t.length

def unescape (t : Text) : Text := Text.Utf8.decodeLenient (unescapeBytes t)

namespace Address

/-- The most characters that an address may have, or one of its parts with all escapes. -/
def maxLength : Nat := 65536

/-- The characters that `t` takes if all are escaped but the visible ones of ASCII outside
`reserved`: three for every byte. -/
def escapedSize (reserved t : Text) : Nat :=
  t.foldr (fun c n => n +
    if 32 < c.toNat && c.toNat < 127 && !reserved.contains c then 1 else 3 * c.utf8Size) 0

def isControl (c : Char) : Bool := c.toNat < 32 || c.toNat == 127

def isSchemeChar (c : Char) : Bool := c.isAlphanum || c == '+' || c == '.' || c == '-'

/-- A scheme in lower case, and what follows its colon. Nothing may stand in front of the colon. -/
def splitScheme (t : Text) : Text × Text :=
  let name := if (t.head?.map Char.isAlpha).getD false then t.takeWhile isSchemeChar else []
  match t.drop name.length with
  | ':' :: r => (name.map Char.toLower, r)
  | _ => ([], t)

def splitAuthority : Text → Text × Text
  | '/' :: '/' :: t =>
    let isEnd (c : Char) : Bool := c == '/' || c == '?' || c == '#'
    (t.takeWhile fun c => !isEnd c, t.dropWhile fun c => !isEnd c)
  | t => ([], t)

/-- What stands in front of the last at-sign of an authority, the host after it, and the number
after its colon. -/
def splitHost (authority : Text) : Text × Text × Text :=
  let place := (authority.reverse.takeWhile (· ≠ '@')).reverse
  let user := (authority.take (authority.length - place.length)).dropLast
  (user, place.takeWhile (· ≠ ':'), (place.dropWhile (· ≠ ':')).drop 1)

def ofPlainText (t : Text) : Except AddressFlaw Address :=
  let (scheme, t) := splitScheme t
  let (authority, t) := splitAuthority t
  let (user, host, number) := splitHost authority
  let path := t.takeWhile fun c => c ≠ '?' ∧ c ≠ '#'
  let query := ((t.drop path.length).takeWhile (· ≠ '#')).drop 1
  if !number.all Char.isDigit then .error (.hostNumber number)
  else if scheme.isEmpty ∧ user.isEmpty ∧ host.isEmpty ∧ number.isEmpty then
    match path with
    | '/' :: '/' :: _ => .error .twoSlashes
    | ':' :: _ => .error .colon
    | _ => .ok ⟨scheme, host, path, query⟩
  else .ok ⟨scheme, host, removeDots path, query⟩

def ofText (t : Text) : Except AddressFlaw Address :=
  if maxLength < t.length then .error .tooLong
  else match t.findIdx? isControl with
    | some i => .error (.control (t.getD i ' ') i)
    | none => ofPlainText t

def target (a : Address) : Except AddressFlaw Text :=
  if a.scheme.isEmpty ∨ a.host.isEmpty then
    let path := '/' :: a.path.dropWhile (· == '/')
    if maxLength < escapedSize "\"#<>?`\x7b\x7d".toList path then .error .pathTooLong
    else if maxLength < escapedSize "\"#<>".toList a.query then .error .queryTooLong
    else .ok (removeDots path)
  else if a.scheme = "http".toList ∨ a.scheme = "https".toList then
    .ok (if a.path.isEmpty then ['/'] else a.path)
  else .error (.scheme a.scheme)

end Address

/-- The path at which the server looks for the target of an address. Its escapes are resolved
twice, when it is sent and when it is received. -/
def pathOf (address : Text) : Except AddressFlaw Text := do
  let a ← Address.ofText address
  return unescape (unescape (← a.target))

end CaseChart.Http
