import CaseChart.Fault.Refusal
import CaseChart.Guard

namespace CaseChart

structure FileFailure where
  file : String
  reason : String
  deriving DecidableEq, Repr

def FileFailure.toValue (f : FileFailure) : Value :=
  .record [("file", .text f.file), ("error", .text f.reason)]

inductive Cause where
  | notASequence (kind : Value.Kind)
  | notAText (position : Nat) (kind : Value.Kind)
  | invalidChart (errors : List String)
  | blankFileName
  | uploadCount (breach : Breach)
  | nothingExtracted (failures : List FileFailure)
  | noDocuments
  | longText (breach : Breach)
  | requestFailed (file : String) (error : Option String)

/-- The report of a failed request: its own error, unless that is missing or empty. -/
def Cause.requestMessage (error : Option String) : String :=
  match error with
  | some e => if e = "" then "Entity extraction failed" else e
  | none => "Entity extraction failed"

def Cause.refusal : Cause → Refusal
  | notASequence kind =>
    .ofArgument "diagrams must be a sequence of diagram strings" (some "diagrams")
      [("received_type", .text kind.name)]
  | notAText position kind =>
    .ofArgument s!"diagram at position {position} is not a string" (some "diagrams")
      [("position", .int position), ("received_type", .text kind.name)]
  | invalidChart errors =>
    .ofChart "Diagram failed validation and cannot be published" errors []
  | blankFileName => .ofArgument "file_name must not be empty" (some "file_name") []
  | uploadCount breach => .ofArgument breach.message (some "uploads") []
  | nothingExtracted failures =>
    .ofArgument "Failed to extract text from any files" (some "uploads")
      [("failures", .list (failures.map FileFailure.toValue))]
  | noDocuments => .ofArgument "No documents provided" (some "documents") []
  | longText breach => .ofArgument breach.message (some "documents") []
  | requestFailed file error =>
    .ofExtraction (requestMessage error) [("file_name", .text file)]

end CaseChart
