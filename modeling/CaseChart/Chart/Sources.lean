import CaseChart.Chart.Merge
import CaseChart.Fault.Cause

namespace CaseChart.Sources

/-- What is offered: data of some shape, or bytes. -/
inductive Offer where
  | data (v : Value)
  | bytes

def textsFrom (position : Nat) : List Value → Except Cause (List Text)
  | [] => .ok []
  | .text s :: vs => (textsFrom (position + 1) vs).map (s.toList :: ·)
  | v :: _ => .error (.notAText position v.kind)

def ofOffer : Offer → Except Cause (List Text)
  | .bytes => .error (.notASequence .bytes)
  | .data (.list vs) => textsFrom 0 vs
  | .data v => .error (.notASequence v.kind)

end CaseChart.Sources
