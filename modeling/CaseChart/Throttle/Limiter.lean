import CaseChart.Entries

namespace CaseChart

variable {T : Type} [LT T] [DecidableLT T]

/-- The calls allowed in a window so far, and its reset time. -/
structure Window (T : Type) where
  count : Nat
  reset : T
  deriving DecidableEq, Repr

abbrev Limiter (T : Type) := List (String × Window T)

structure Decision (T : Type) where
  allowed : Bool
  remaining : Int
  reset : T
  deriving DecidableEq, Repr

namespace Limiter

def isOver (now : T) (w : Window T) : Bool := decide (w.reset < now)

/-- Drops the windows that are over, and tells how many they were. -/
def prune (m : Limiter T) (now : T) : Nat × Limiter T :=
  (m.countP fun e => isOver now e.2, m.filter fun e => !isOver now e.2)

theorem length_prune (m : Limiter T) (now : T) :
    (m.prune now).1 + (m.prune now).2.length = m.length := by
  induction m with
  | nil => rfl
  | cons e m ih =>
    simp only [prune] at ih
    by_cases h : isOver now e.2 = true
    · simp only [prune, List.countP_cons, List.filter_cons, List.length_cons, h]
      simp only [Bool.not_true, Bool.false_eq_true, if_true, if_false]
      omega
    · simp only [prune, List.countP_cons, List.filter_cons, List.length_cons, h]
      simp only [Bool.not_false, Bool.false_eq_true, if_true, if_false, List.length_cons]
      omega

variable [Add T]

def openWindow (m : Limiter T) (now : T) (key : String) (limit : Int) (span : T) :
    Decision T × Limiter T :=
  (⟨true, limit - 1, now + span⟩, Entries.set key ⟨1, now + span⟩ m)

def check (m : Limiter T) (now : T) (key : String) (limit : Int) (span : T) :
    Decision T × Limiter T :=
  match Entries.get? key m with
  | none => openWindow m now key limit span
  | some w =>
    if isOver now w then openWindow m now key limit span
    else if limit ≤ w.count then (⟨false, 0, w.reset⟩, m)
    else (⟨true, limit - (w.count + 1 : Nat), w.reset⟩,
      Entries.set key ⟨w.count + 1, w.reset⟩ m)

end Limiter
end CaseChart
