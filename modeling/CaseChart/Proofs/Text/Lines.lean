import CaseChart.Text.Lines
import CaseChart.Proofs.Text.Trim

namespace CaseChart.Text

def Unbroken (t : Text) : Prop := ∀ c ∈ t, isBreak c = false

instance (t : Text) : Decidable (Unbroken t) :=
  inferInstanceAs (Decidable (∀ c ∈ t, isBreak c = false))

def unlines (ls : List Text) : Text := ls.flatMap (· ++ ['\n'])

theorem unlines_append (ls ms : List Text) : unlines (ls ++ ms) = unlines ls ++ unlines ms :=
  List.flatMap_append

theorem unlines_map {α : Type} (f : α → Text) (as : List α) :
    unlines (as.map f) = as.flatMap fun a => f a ++ ['\n'] := List.flatMap_map ..

/-- Lines with a line feed between neighbours lack only the last line feed. -/
theorem join_newline_append {ls : List Text} (h : ls ≠ []) :
    join ['\n'] ls ++ ['\n'] = unlines ls := by
  induction ls with
  | nil => exact absurd rfl h
  | cons l ls ih =>
    cases ls with
    | nil => exact (List.append_nil _).symm
    | cons m ms =>
      rw [join_cons_cons, List.append_assoc, List.append_assoc, ih (List.cons_ne_nil m ms)]
      simp [unlines]

theorem unbroken_append {s t : Text} : Unbroken (s ++ t) ↔ Unbroken s ∧ Unbroken t := by
  simp only [Unbroken, List.mem_append, or_imp, forall_and]

theorem unbroken_cons {c : Char} {t : Text} :
    Unbroken (c :: t) ↔ isBreak c = false ∧ Unbroken t := by
  simp only [Unbroken, List.mem_cons, or_imp, forall_and, forall_eq]

theorem unbroken_nil : Unbroken [] := List.forall_mem_nil _

theorem Unbroken.not_mem {t : Text} (h : Unbroken t) {c : Char} (hc : isBreak c = true) : c ∉ t :=
  fun hmem => Bool.false_ne_true ((h c hmem).symm.trans hc)

theorem unbroken_replicate {c : Char} (h : isBreak c = false) (n : Nat) :
    Unbroken (List.replicate n c) := fun _ hd => List.eq_of_mem_replicate hd ▸ h

theorem Unbroken.of_sublist {s t : Text} (h : s.Sublist t) (ht : Unbroken t) : Unbroken s :=
  fun c hc => ht c (h.mem hc)

theorem Unbroken.of_suffix {s t : Text} (h : s <:+ t) (ht : Unbroken t) : Unbroken s :=
  ht.of_sublist h.sublist

theorem Unbroken.of_start {s t : Text} (h : s <+: t) (ht : Unbroken t) : Unbroken s :=
  ht.of_sublist h.sublist

theorem Unbroken.of_visible {t : Text} (h : ∀ c ∈ t, isBlank c = false) : Unbroken t := by
  intro c hc
  cases hb : isBreak c with
  | false => rfl
  | true => exact absurd (isBlank_of_isBreak hb) (by simp [h c hc])

theorem unbroken_of_mem_lines {t l : Text} (h : l ∈ lines t) : Unbroken l :=
  fun _ hc => isBreak_eq_false_of_mem_lines h hc

theorem lines_cons_of_not_isBreak {c : Char} (h : isBreak c = false) (t : Text) :
    lines (c :: t) = consLine c (lines t) := by
  rw [lines]
  · rw [if_neg (by simp [h])]
  · rintro _ rfl _
    exact absurd h (by decide)

theorem lines_newline (t : Text) : lines ('\n' :: t) = [] :: lines t := by
  rw [lines]
  · rfl
  · simp

theorem lines_append_newline {l : Text} (h : Unbroken l) (t : Text) :
    lines (l ++ '\n' :: t) = l :: lines t := by
  induction l with
  | nil => exact lines_newline t
  | cons c l ih =>
    rw [List.cons_append, lines_cons_of_not_isBreak (h c List.mem_cons_self),
      ih fun d hd => h d (List.mem_cons_of_mem c hd)]
    rfl

theorem lines_of_unbroken {l : Text} (h : Unbroken l) (hl : l ≠ []) : lines l = [l] := by
  induction l with
  | nil => exact absurd rfl hl
  | cons c l ih =>
    rw [lines_cons_of_not_isBreak (h c List.mem_cons_self)]
    cases l with
    | nil => rfl
    | cons d l =>
      rw [ih (fun e he => h e (List.mem_cons_of_mem c he)) (List.cons_ne_nil d l)]
      rfl

/-- A text without separators is one line, or none if it is empty. -/
theorem length_lines_le_one {l : Text} (h : Unbroken l) : (lines l).length ≤ 1 := by
  by_cases hl : l = []
  · rw [hl]
    exact Nat.zero_le 1
  · rw [lines_of_unbroken h hl]
    exact Nat.le_refl 1

theorem lines_unlines_append {ls : List Text} (h : ∀ l ∈ ls, Unbroken l) (t : Text) :
    lines (unlines ls ++ t) = ls ++ lines t := by
  induction ls with
  | nil => rfl
  | cons l ls ih =>
    have hl : unlines (l :: ls) ++ t = l ++ '\n' :: (unlines ls ++ t) := by simp [unlines]
    rw [hl, lines_append_newline (h l List.mem_cons_self),
      ih fun m hm => h m (List.mem_cons_of_mem l hm), List.cons_append]

theorem lines_join_newline {ls : List Text} (h : ∀ l ∈ ls, Unbroken l) (hne : ∀ l ∈ ls, l ≠ []) :
    lines (join ['\n'] ls) = ls := by
  induction ls with
  | nil => rfl
  | cons l ls ih =>
    have hl : Unbroken l := h l List.mem_cons_self
    cases ls with
    | nil => exact lines_of_unbroken hl (hne l List.mem_cons_self)
    | cons m ms =>
      rw [join_cons_cons, List.singleton_append, lines_append_newline hl,
        ih (fun k hk => h k (List.mem_cons_of_mem l hk))
          fun k hk => hne k (List.mem_cons_of_mem l hk)]

theorem join_newline_cons (l : Text) (ls : List Text) :
    join ['\n'] (l :: ls) = l ∨ ∃ t, join ['\n'] (l :: ls) = l ++ '\n' :: t := by
  cases ls with
  | nil => exact .inl rfl
  | cons m ms => exact .inr ⟨join ['\n'] (m :: ms), join_cons_cons ..⟩

/-- Lines that hold no separator are read back as they were written. -/
theorem lines_unlines {ls : List Text} (h : ∀ l ∈ ls, Unbroken l) : lines (unlines ls) = ls := by
  simpa [lines] using lines_unlines_append h []

theorem eq_nil_of_lines {t : Text} (h : lines t = []) : t = [] := by
  fun_induction lines t with
  | case1 => rfl
  | case2 t ih => cases h
  | case3 c t hx hc ih => cases h
  | case4 c t hx hc ih => cases hl : lines t <;> simp [hl, consLine] at h

theorem isBlankText_of_isBreak {t : Text} (h : ∀ c ∈ t, isBreak c = true) :
    isBlankText t = true := List.all_eq_true.2 fun c hc => isBlank_of_isBreak (h c hc)

/-- What comes after the first line. -/
theorem exists_append_of_lines {t l : Text} {ls : List Text} (h : lines t = l :: ls) :
    ∃ sep r, t = l ++ (sep ++ r) ∧ (∀ c ∈ sep, isBreak c = true) ∧ lines r = ls ∧
      (sep = [] → r = []) := by
  fun_induction lines t generalizing l with
  | case1 => cases h
  | case2 t ih =>
    obtain ⟨rfl, rfl⟩ := List.cons.inj h
    exact ⟨['\r', '\n'], t, rfl, by decide, rfl, by simp⟩
  | case3 c t hx hc ih =>
    obtain ⟨rfl, rfl⟩ := List.cons.inj h
    exact ⟨[c], t, rfl, by simpa using hc, rfl, by simp⟩
  | case4 c t hx hc ih =>
    cases hl : lines t with
    | nil =>
      rw [hl, consLine] at h
      obtain ⟨rfl, rfl⟩ := List.cons.inj h
      exact ⟨[], t, rfl, by simp, hl, fun _ => eq_nil_of_lines hl⟩
    | cons m ms =>
      rw [hl, consLine] at h
      obtain ⟨rfl, rfl⟩ := List.cons.inj h
      obtain ⟨sep, r, ht, hsep, hr, hend⟩ := ih hl
      exact ⟨sep, r, by rw [ht, List.cons_append], hsep, hr, hend⟩

end CaseChart.Text
