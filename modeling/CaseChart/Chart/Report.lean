import CaseChart.Chart.Merge
import CaseChart.Chart.Tally
import CaseChart.Chart.Verdict

namespace CaseChart

structure Report where
  chart : Text
  verdict : Verdict
  tally : Tally
  sources : Nat

def Chart.analyze (ds : List Text) : Report :=
  let chart := merge ds
  ⟨chart, validate chart, tally chart, ds.length⟩

end CaseChart
