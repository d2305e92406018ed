import CaseChart.Text.Case

namespace CaseChart.FileType

/-- The last part of a path that names something. -/
def baseName (path : Text) : Text :=
  (((Text.split '/' path).filter fun p => p ≠ [] ∧ p ≠ ['.']).getLast?).getD []

/-- What follows the last dot of a name, unless the dot is its first or last character. -/
def suffix (name : Text) : Text :=
  let after := (name.reverse.takeWhile (· ≠ '.')).reverse
  if after.length + 1 < name.length then after else []

def extension (path : Text) : Text := suffix (baseName (Text.lower path))

def supported : List Text := ["txt".toList, "pdf".toList, "docx".toList]

def isSupported (path : Text) : Bool := supported.contains (extension path)

end CaseChart.FileType
