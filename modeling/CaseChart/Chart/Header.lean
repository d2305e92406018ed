import CaseChart.Text.Word

namespace CaseChart

structure Header where
  keyword : Text
  orientation : Text
  deriving DecidableEq, Repr

namespace Header

def keywords : List Text := ["graph".toList, "flowchart".toList]

def orientations : List Text := ["td".toList, "lr".toList, "bt".toList, "rl".toList]

/-- The declaration of a chart that has none. -/
def top : Header := ⟨"graph".toList, "TD".toList⟩

def line (h : Header) : Text := h.keyword ++ ' ' :: h.orientation

/-- The first of some words that a text starts with in any case, as written, and the rest. -/
def readWord? (words : List Text) (t : Text) : Option (Text × Text) :=
  words.findSome? fun w => (Text.dropWord? Text.sameLetter w t).map (t.take w.length, ·)

/-- A declaration that was read: the blanks inside it, and the text after it. -/
structure Reading where
  header : Header
  gap : Text
  rest : Text
  deriving DecidableEq, Repr

def Reading.length (r : Reading) : Nat :=
  r.header.keyword.length + r.gap.length + r.header.orientation.length

/-- Letters beyond ASCII that a letter of ASCII becomes in another case: the dotted capital and
the dotless small i, the long s, the sign of the kelvin. -/
def isCaseVariant (c : Char) : Bool :=
  c.toNat == 0x130 || c.toNat == 0x131 || c.toNat == 0x17F || c.toNat == 0x212A

/-- Whether a text goes on with a letter, digit or underscore of ASCII, or a case of one. -/
def continuesWord : Text → Bool
  | [] => false
  | c :: _ => Text.isAsciiWord c || isCaseVariant c

def read? (t : Text) : Option Reading := do
  let (keyword, t) ← readWord? keywords t
  let gap := t.takeWhile Text.isTabOrSpace
  if gap.isEmpty then none
  let (orientation, rest) ← readWord? orientations (t.dropWhile Text.isTabOrSpace)
  if continuesWord rest then none
  return ⟨⟨keyword, orientation⟩, gap, rest⟩

def ofChart? (t : Text) : Option Reading := read? (Text.trimLeft t)

def ofChart (t : Text) : Header := ((ofChart? t).map (·.header)).getD top

/-- Drops a declaration that shares its line with a statement, and blanks and semicolons
after it. -/
def strip (t : Text) : Text :=
  match read? t with
  | some r => r.rest.dropWhile fun c => Text.isTabOrSpace c || c == ';'
  | none => t

end Header
end CaseChart
