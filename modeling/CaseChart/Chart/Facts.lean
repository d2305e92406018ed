import CaseChart.Chart.Lexeme

namespace CaseChart

/-- Tags in order of appearance, and how often each other mark occurs. -/
structure Facts where
  tags : List Text
  markers : Nat
  opens : Nat
  closes : Nat
  labels : Nat
  groups : Nat
  styles : Nat
  deriving DecidableEq, Repr

namespace Facts

def ofLexemes (ls : List Lexeme) : Facts where
  tags := ls.filterMap Lexeme.tagName?
  markers := ls.countP Lexeme.isMarker
  opens := ls.count (.mark '[')
  closes := ls.count (.mark ']')
  labels := Lexeme.countLabels none ls
  groups := Lexeme.countNamed "subgraph".toList ls
  styles := Lexeme.countNamed "classdef".toList ls

def ofText (t : Text) : Facts := ofLexemes (Lexeme.ofText t)

def balanced (f : Facts) : Bool := f.opens == f.closes

end Facts
end CaseChart
