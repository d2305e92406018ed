namespace CaseChart

variable {α κ : Type} [DecidableEq κ]

/-- The first element of every key, in order. -/
def firstsOn (key : α → κ) : List α → List α
  | [] => []
  | a :: as => a :: (firstsOn key as).filter fun b => key b ≠ key a

def firsts [DecidableEq α] (as : List α) : List α := firstsOn id as

theorem mem_of_mem_firstsOn {key : α → κ} {a : α} {as : List α} (h : a ∈ firstsOn key as) :
    a ∈ as := by
  induction as with
  | nil => exact h
  | cons b as ih =>
    rcases List.mem_cons.1 h with rfl | h
    · exact List.mem_cons_self
    · exact List.mem_cons_of_mem _ (ih (List.mem_filter.1 h).1)

theorem key_mem_firstsOn {key : α → κ} {a : α} {as : List α} (h : a ∈ as) :
    ∃ b ∈ firstsOn key as, key b = key a := by
  induction as with
  | nil => simp at h
  | cons c as ih =>
    by_cases hc : key c = key a
    · exact ⟨c, List.mem_cons_self, hc⟩
    · rcases List.mem_cons.1 h with rfl | h
      · exact absurd rfl hc
      · obtain ⟨b, hb, he⟩ := ih h
        refine ⟨b, List.mem_cons_of_mem _ (List.mem_filter.2 ⟨hb, ?_⟩), he⟩
        rw [he]
        exact decide_eq_true (Ne.symm hc)

end CaseChart
