import CaseChart.Text.Basic

namespace CaseChart.Text

def commonStart : Text → Text → Text
  | a :: s, b :: t => if a = b then a :: commonStart s t else []
  | _, _ => []

def margin (line : Text) : Text := line.takeWhile isTabOrSpace

/-- The longest run of blanks and tabs with which all lines start that are not empty. -/
def commonMargin (lines : List Text) : Text :=
  match (lines.filter (!·.isEmpty)).map margin with
  | [] => []
  | m :: ms => ms.foldl commonStart m

/-- Empties the lines of blanks and tabs only and takes the common margin off the others. -/
def dedent (lines : List Text) : List Text :=
  let lines := lines.map fun l => if l.all isTabOrSpace then [] else l
  let width := (commonMargin lines).length
  lines.map (List.drop width)

/-- Puts `lead` in front of every line that is more than white space. -/
def indent (lead : Text) (lines : List Text) : List Text :=
  lines.map fun l => if isBlankText l then l else lead ++ l

end CaseChart.Text
