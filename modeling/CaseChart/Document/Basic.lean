import CaseChart.Document.FileType
import CaseChart.Text.Utf8

namespace CaseChart

structure Upload where
  name : String
  bytes : List UInt8

structure Document where
  name : String
  text : Text
  deriving DecidableEq, Repr

inductive Unreadable where
  | fileType (extension : Text)
  | encoding (flaw : Text.Utf8.Flaw)

def Unreadable.message : Unreadable → String
  | fileType extension => s!"Unsupported file type: .{String.ofList extension}"
  | encoding flaw => s!"Failed to read TXT file: {flaw.message}"

def Upload.text (u : Upload) : Except Unreadable Text :=
  let extension := FileType.extension u.name.toList
  if extension = "txt".toList then (Text.Utf8.decode u.bytes).mapError .encoding
  else .error (.fileType extension)

end CaseChart
