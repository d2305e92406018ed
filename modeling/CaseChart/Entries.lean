namespace CaseChart.Entries

variable {κ α : Type} [DecidableEq κ]

def get? (key : κ) (es : List (κ × α)) : Option α := (es.find? fun e => e.1 = key).map (·.2)

/-- Gives a key a value: in its place if it is there, else at the end. -/
def set (key : κ) (a : α) : List (κ × α) → List (κ × α)
  | [] => [(key, a)]
  | e :: es => if e.1 = key then (key, a) :: es else e :: set key a es

theorem get?_set_self (key : κ) (a : α) (es : List (κ × α)) : get? key (set key a es) = some a := by
  induction es with
  | nil => simp [set, get?]
  | cons e es ih =>
    by_cases h : e.1 = key
    · simp [set, get?, h]
    · simpa [set, get?, h] using ih

theorem get?_set_of_ne {key k : κ} (h : k ≠ key) (a : α) (es : List (κ × α)) :
    get? k (set key a es) = get? k es := by
  induction es with
  | nil => simp [set, get?, h.symm]
  | cons e es ih =>
    by_cases he : e.1 = key
    · simp [set, get?, he, h.symm]
    · by_cases hk : e.1 = k
      · simp [set, get?, hk, h]
      · simpa [set, get?, he, hk] using ih

end CaseChart.Entries
