import CaseChart.Document.Basic
import CaseChart.Fault.Basic

namespace CaseChart

/-- The document that an upload gives, or why it gives none; neither, if there is no limit to
compare its size with. -/
def Upload.document (l : Limits) (u : Upload) :
    Except Decimal.NonFinite (Except FileFailure Document) :=
  if !FileType.isSupported u.name.toList then
    .ok (.error ⟨u.name, s!"Invalid file type: {u.name}"⟩)
  else (Guard.fileSize l u.bytes.length).map fun
    | some breach => .error ⟨u.name, breach.message⟩
    | none =>
      match u.text with
      | .error e => .error ⟨u.name, e.message⟩
      | .ok text => .ok ⟨u.name, text⟩

structure Intake where
  documents : List Document
  failures : List FileFailure
  deriving DecidableEq, Repr

namespace Intake

def sort (l : Limits) : List Upload → Except Decimal.NonFinite Intake
  | [] => .ok ⟨[], []⟩
  | u :: us => do
    let first ← u.document l
    let rest ← sort l us
    match first with
    | .ok d => return ⟨d :: rest.documents, rest.failures⟩
    | .error f => return ⟨rest.documents, f :: rest.failures⟩

/-- Takes in uploads, refused if there are too many or too few, or if none gives a document. -/
def ofUploads (l : Limits) (us : List Upload) : Except Fault Intake :=
  match Guard.fileCount l us.length with
  | some breach => .error (Cause.uploadCount breach).fault
  | none =>
    match sort l us with
    | .error n => .error (.nonFinite n)
    | .ok intake =>
      if intake.documents.isEmpty then .error (Cause.nothingExtracted intake.failures).fault
      else .ok intake

end Intake
end CaseChart
