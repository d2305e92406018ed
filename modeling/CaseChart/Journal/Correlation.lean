import CaseChart.Journal.Record

namespace CaseChart

/-- An id that a caller chose, or the `n`-th one made. -/
inductive CorrelationId where
  | given (id : String)
  | made (n : Nat)
  deriving DecidableEq, Repr

/-- A record with the id that was bound when it was written. -/
structure Stamped where
  id : Option CorrelationId
  record : Record

/-- The id bound now, the number of ids made, and what was written, the latest last. -/
structure Journal where
  bound : Option CorrelationId := none
  made : Nat := 0
  written : List Stamped := []

namespace Journal

/-- Binds the id that a caller gives, or a new one if that is missing or empty. -/
def bind (j : Journal) (id : Option String) : CorrelationId × Journal :=
  match id with
  | some s =>
    if s = "" then (.made j.made, { j with bound := some (.made j.made), made := j.made + 1 })
    else (.given s, { j with bound := some (.given s) })
  | none => (.made j.made, { j with bound := some (.made j.made), made := j.made + 1 })

def clear (j : Journal) : Journal := { j with bound := none }

def write (j : Journal) (rs : List Record) : Journal :=
  { j with written := j.written ++ rs.map fun r => ⟨j.bound, r⟩ }

end Journal
end CaseChart
