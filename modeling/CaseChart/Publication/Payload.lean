import CaseChart.Fault.Basic
import CaseChart.Publication.Moment

namespace CaseChart

structure Payload where
  path : Text
  content : Text
  message : Text
  deriving DecidableEq, Repr

namespace Payload

/-- A name with an underscore for every run of white space. -/
def joinWords : Text → Text
  | [] => []
  | c :: t =>
    if Text.isBlank c then
      if (t.head?.map Text.isBlank).getD false then joinWords t else '_' :: joinWords t
    else c :: joinWords t

def pathFor (name : Text) (instant : Nat) : Text :=
  "diagrams/".toList ++ joinWords name ++ '_' :: Moment.slug instant ++ ".md".toList

def fenced (chart : Text) : Text := "```mermaid\n".toList ++ chart ++ "\n```".toList

/-- The file for a chart. The name is judged before the moment. -/
def build (chart : Text) (name : Option Text) (now : Moment) : Except Fault Payload :=
  match name with
  | none => .error Cause.blankFileName.fault
  | some name =>
    if Text.isBlankText name then .error Cause.blankFileName.fault
    else match now.instant? with
      | none => .error .momentOutOfRange
      | some instant =>
        let name := Text.trim name
        .ok ⟨pathFor name instant, fenced chart,
          "Add legal entity extraction diagram: ".toList ++ name⟩

end Payload
end CaseChart
