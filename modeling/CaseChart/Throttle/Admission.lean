import CaseChart.Throttle.Limiter
import CaseChart.Throttle.WholeSeconds

namespace CaseChart

variable {T : Type} [Add T] [Sub T] [LT T] [DecidableLT T] [WholeSeconds T]

namespace Admission

/-- The key of a host; all clients without one share a window. -/
def keyOf (host : Option String) : String := host.getD "anonymous"

/-- The whole seconds until a reset time, zero if it has passed. -/
def wait (now reset : T) : Except Decimal.NonFinite Int :=
  (WholeSeconds.ceil (reset - now)).map (max 0)

/-- A request that is not admitted: the seconds to wait, if they have an end, and the decision on
its call. -/
structure Refused (T : Type) where
  seconds : Except Decimal.NonFinite Int
  decision : Decision T

/-- Consumes one call of a host, or refuses it with the seconds to wait. The clock is read again
for the wait, and may have moved on. -/
def enforce (m : Limiter T) (now : T) (host : Option String) (calls : Int) (span : T)
    (later : T := now) : Except (Refused T) (Decision T) × Limiter T :=
  let (d, m) := m.check now (keyOf host) calls span
  (if d.allowed then .ok d else .error ⟨wait later d.reset, d⟩, m)

end Admission
end CaseChart
