import CaseChart.Decimal.Binary

namespace CaseChart

/-- Distances of time that can be rounded up to whole seconds, unless they are beyond numbers. -/
class WholeSeconds (T : Type) where
  /-- The least whole number of seconds that is not below a distance. -/
  ceil : T → Except Decimal.NonFinite Int

instance : WholeSeconds Float where
  ceil x := (Decimal.Binary.ofFloat? x).map Decimal.Binary.ceil

instance : WholeSeconds Rat where
  ceil x := .ok x.ceil

end CaseChart
