import CaseChart.Chart.Report
import CaseChart.Journal.Notes

namespace CaseChart

structure Performed (α : Type) where
  result : Except Fault α
  notes : List Record := []

structure Service where
  validate : Text → Performed Verdict
  tally : Text → Performed Tally
  merge : List Text → Performed Text
  analyze : List Text → Performed Report
  prepare : (chart name : Text) → Moment → Performed Payload

namespace Service

def charts : Service where
  validate t := ⟨.ok (Chart.validate t), Notes.validate t⟩
  tally t := ⟨.ok (Chart.tally t), []⟩
  merge ds := ⟨.ok (Chart.merge ds), Notes.merge ds⟩
  analyze ds := ⟨.ok (Chart.analyze ds), Notes.analyze ds⟩
  prepare chart name now := ⟨Publication.prepare chart name now, Notes.prepare chart name⟩

def failing (f : Fault) : Service where
  validate _ := ⟨.error f, []⟩
  tally _ := ⟨.error f, []⟩
  merge _ := ⟨.error f, []⟩
  analyze _ := ⟨.error f, []⟩
  prepare _ _ _ := ⟨.error f, []⟩

end Service
end CaseChart
