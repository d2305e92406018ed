import CaseChart.Chart.Sections
import CaseChart.Firsts

namespace CaseChart

structure Merged where
  header : Header
  groups : List Group
  relationships : List Text
  styles : List Text
  deriving DecidableEq, Repr

namespace Merged

def lead : Text := [' ', ' ', ' ', ' ']

/-- The merge of charts, of which the first gives the declaration. -/
def ofCharts (ds : List Text) : Merged :=
  let parts := ds.map Sections.ofChart
  { header := Header.ofChart (ds.headD [])
    groups := firstsOn Group.name (parts.flatMap Sections.groups)
    relationships := firsts (parts.flatMap Sections.relationships)
    styles := firsts (parts.flatMap Sections.styles) }

def groupText (g : Group) : Text :=
  Text.join ['\n'] (Text.indent lead g.block) ++ ['\n', '\n']

def lineText (l : Text) : Text := lead ++ l ++ ['\n']

def text (m : Merged) : Text :=
  m.header.line ++ '\n' :: m.groups.flatMap groupText ++ m.relationships.flatMap lineText ++
    '\n' :: m.styles.flatMap lineText

end Merged

def Chart.merge : List Text → Text
  | [] => []
  | [d] => d
  | ds => (Merged.ofCharts ds).text

end CaseChart
