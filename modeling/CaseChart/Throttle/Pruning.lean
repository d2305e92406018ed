import CaseChart.Throttle.Limiter

namespace CaseChart

variable {T : Type} [Add T] [LT T] [DecidableLT T]

namespace Pruning

/-- What is seen of some passes: the size of the table before each wait and at the end, the number
of windows that each pass dropped, the time at the end, and what is left. -/
structure Passes (T : Type) where
  sizes : List Nat
  dropped : List Nat
  now : T
  limiter : Limiter T

def run (m : Limiter T) (now interval : T) : (passes : Nat) → Passes T
  | 0 => ⟨[m.length], [], now, m⟩
  | passes + 1 =>
    let (removed, left) := m.prune (now + interval)
    let later := run left (now + interval) interval passes
    { later with sizes := m.length :: later.sizes, dropped := removed :: later.dropped }

end Pruning
end CaseChart
