import CaseChart.Text.Basic

namespace CaseChart.Text

def isBreak (c : Char) : Bool :=
  let n := c.toNat
  (10 ≤ n && n ≤ 13) || (28 ≤ n && n ≤ 30) || n == 0x85 || n == 0x2028 || n == 0x2029

def consLine (c : Char) : List Text → List Text
  | [] => [[c]]
  | l :: ls => (c :: l) :: ls

/-- The lines of a text, without their separators. -/
def lines : Text → List Text
  | [] => []
  | '\r' :: '\n' :: t => [] :: lines t
  | c :: t => if isBreak c then [] :: lines t else consLine c (lines t)

theorem isBlank_of_isBreak {c : Char} (h : isBreak c = true) : isBlank c = true := by
  simp only [isBreak, Bool.or_eq_true, Bool.and_eq_true, decide_eq_true_eq, beq_iff_eq] at h
  simp only [isBlank, Bool.or_eq_true, Bool.and_eq_true, decide_eq_true_eq, beq_iff_eq]
  omega

theorem isBreak_eq_false_of_mem_lines {t l : Text} {c : Char} (hl : l ∈ lines t) (hc : c ∈ l) :
    isBreak c = false := by
  fun_induction lines t generalizing l with
  | case1 => simp at hl
  | case2 t ih =>
    rcases List.mem_cons.1 hl with rfl | hl
    · simp at hc
    · exact ih hl hc
  | case3 d t _ hd ih =>
    rcases List.mem_cons.1 hl with rfl | hl
    · simp at hc
    · exact ih hl hc
  | case4 d t _ hd ih =>
    cases hls : lines t with
    | nil =>
      simp only [hls, consLine, List.mem_singleton] at hl
      subst hl
      simp only [List.mem_singleton] at hc
      exact hc ▸ Bool.eq_false_iff.2 hd
    | cons l' ls =>
      rw [hls] at ih
      simp only [hls, consLine, List.mem_cons] at hl
      rcases hl with rfl | hl
      · rcases List.mem_cons.1 hc with rfl | hc
        · exact Bool.eq_false_iff.2 hd
        · exact ih (by simp) hc
      · exact ih (by simp [hl]) hc

end CaseChart.Text
