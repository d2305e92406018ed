import CaseChart.Chart.Category
import CaseChart.Chart.Facts

namespace CaseChart

structure Tally where
  relationships : Int
  entities : Category → Int

namespace Tally

def total (s : Tally) : Int := Category.all.foldr (fun c n => s.entities c + n) 0

/-- Counts that are given by name; the first name that is no category's is refused. -/
def countsOf : List (String × Int) → Except String (Category → Int)
  | [] => .ok fun _ => 0
  | (name, n) :: rest =>
    match Category.ofName? name with
    | none => .error name
    | some c => (countsOf rest).map fun counts d => if d = c then n else counts d

def ofFacts (f : Facts) : Tally where
  relationships := f.markers
  entities c := f.tags.countP fun t => Category.ofName? (String.ofList t) == some c

end Tally

/-- The statistics of a chart, valid or not. -/
def Chart.tally (t : Text) : Tally := Tally.ofFacts (Facts.ofText t)

end CaseChart
