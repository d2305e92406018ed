namespace CaseChart

inductive Shared where
  | service
  | limiter
  | registry
  | settings
  deriving DecidableEq, Repr

/-- Which objects exist, by the order in which they were made. -/
structure Registry where
  made : Nat := 0
  numbers : List (Shared × Nat) := []

namespace Registry

def get (r : Registry) (s : Shared) : Nat × Registry :=
  match r.numbers.find? (·.1 == s) with
  | some e => (e.2, r)
  | none => (r.made, ⟨r.made + 1, (s, r.made) :: r.numbers⟩)

def clear (r : Registry) : Registry :=
  { r with numbers := r.numbers.filter fun e => e.1 = .registry ∨ e.1 = .settings }

end Registry
end CaseChart
