import CaseChart.Chart.Header
import CaseChart.Chart.Lexeme

namespace CaseChart

inductive Statement where
  | openGroup (name : Text)
  | closeGroup
  | style
  | relationship
  | other
  deriving DecidableEq, Repr

namespace Statement

/-- Whether `c` is the letter `k` in either case, where a long s counts as an s. -/
def matchesLetter (k c : Char) : Bool := Text.sameLetter k c || (k == 's' && c == 'ſ')

def nameAfter? (keyword : Text) (s : Text) : Option Text := do
  let t ← Text.dropWord? matchesLetter keyword s
  if (t.takeWhile Text.isBlank).isEmpty then none
  let name := (t.dropWhile Text.isBlank).takeWhile Text.isWord
  if name.isEmpty then none else some name

/-- Whether a statement is the end of a group: the keyword, and at most one semicolon. -/
def isEnd (s : Text) : Bool :=
  match Text.dropWord? matchesLetter "end".toList s with
  | some t =>
    match t.dropWhile Text.isBlank with
    | [] => true
    | c :: r => c == ';' && r.isEmpty
  | none => false

def hasMarker : Text → Bool
  | '-' :: '-' :: c :: t => Lexeme.isTip c || hasMarker ('-' :: c :: t)
  | _ :: t => hasMarker t
  | [] => false

def ofText (s : Text) : Statement :=
  match nameAfter? "subgraph".toList s with
  | some name => openGroup name
  | none =>
    if isEnd s then closeGroup
    else if (nameAfter? "classdef".toList s).isSome then style
    else if hasMarker s then relationship
    else other

end Statement

/-- A line as written, the text of the statement on it, and what that statement does. -/
structure Line where
  source : Text
  content : Text
  statement : Statement
  deriving DecidableEq, Repr

/-- A line read as a statement, trimmed and without a declaration in front. -/
def Line.ofText (l : Text) : Line :=
  let content := Header.strip (Text.trim l)
  ⟨l, content, Statement.ofText content⟩

end CaseChart
