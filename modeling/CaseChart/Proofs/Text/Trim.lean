import CaseChart.Text.Basic
import Mathlib.Data.List.DropRight

namespace CaseChart.Text

/-- A text is looked through character by character, not all characters there are. -/
instance (priority := high) decidableForallMem {p : Char → Prop} [DecidablePred p] (t : Text) :
    Decidable (∀ c ∈ t, p c) := List.decidableBAll p t

theorem trimRight_eq_rdropWhile (t : Text) : trimRight t = t.rdropWhile isBlank := rfl

theorem trimRight_trimRight (t : Text) : trimRight (trimRight t) = trimRight t :=
  List.rdropWhile_idempotent isBlank t

theorem trimRight_trim (t : Text) : trimRight (trim t) = trim t := trimRight_trimRight (trimLeft t)

theorem trimRight_eq_self_iff {t : Text} :
    trimRight t = t ↔ ∀ h : t ≠ [], isBlank (t.getLast h) = false := by
  rw [trimRight_eq_rdropWhile, List.rdropWhile_eq_self_iff]
  simp only [Bool.not_eq_true]

theorem trimRight_eq_nil_iff {t : Text} : trimRight t = [] ↔ isBlankText t = true := by
  rw [trimRight_eq_rdropWhile, List.rdropWhile_eq_nil_iff, isBlankText, List.all_eq_true]

theorem isBlankText_trimRight (t : Text) : isBlankText (trimRight t) = isBlankText t := by
  rw [Bool.eq_iff_iff, ← trimRight_eq_nil_iff, trimRight_trimRight, trimRight_eq_nil_iff]

theorem isBlank_of_mem_head? {b : Text} (hb : isBlankText b = true) :
    ∀ c ∈ b.head?, isBlank c = true :=
  fun c hc => List.all_eq_true.1 hb c (List.mem_of_mem_head? hc)

/-- What was cut at the end is white space. -/
theorem exists_eq_trimRight_append (t : Text) :
    ∃ b, isBlankText b = true ∧ t = trimRight t ++ b := by
  refine ⟨t.rtakeWhile isBlank, ?_, List.rdropWhile_append_rtakeWhile.symm⟩
  rw [isBlankText, List.all_eq_true]
  intro c hc
  exact List.mem_rtakeWhile_imp hc

theorem exists_eq_append_trim_append (t : Text) :
    ∃ p b, t = p ++ (trim t ++ b) ∧ isBlankText p = true ∧ isBlankText b = true := by
  obtain ⟨b, hb, ht⟩ := exists_eq_trimRight_append (trimLeft t)
  refine ⟨t.takeWhile isBlank, b, ?_, ?_, hb⟩
  · rw [trim, ← ht, trimLeft, List.takeWhile_append_dropWhile]
  · exact List.all_eq_true.2 fun c hc => List.mem_takeWhile_imp hc

theorem isBlankText_append {s t : Text} :
    isBlankText (s ++ t) = true ↔ isBlankText s = true ∧ isBlankText t = true := by
  rw [isBlankText, List.all_append, Bool.and_eq_true]
  rfl

theorem isBlankText_eq_false_iff {n : Text} :
    isBlankText n = false ↔ ∃ c ∈ n, isBlank c = false := by
  rw [isBlankText, List.all_eq_false]
  simp only [Bool.not_eq_true]

/-- What does not change with white space put in front or behind does not change by trimming. -/
theorem apply_trim {α : Type} {f : Text → α}
    (hleft : ∀ b t, isBlankText b = true → f (b ++ t) = f t)
    (hright : ∀ b t, isBlankText b = true → f (t ++ b) = f t) (t : Text) : f (trim t) = f t := by
  obtain ⟨p, b, ht, hp, hb⟩ := exists_eq_append_trim_append t
  calc f (trim t) = f (trim t ++ b) := (hright b _ hb).symm
    _ = f (p ++ (trim t ++ b)) := (hleft p _ hp).symm
    _ = f t := by rw [← ht]

theorem trimLeft_append_of_isBlankText {b : Text} (hb : isBlankText b = true) (t : Text) :
    trimLeft (b ++ t) = trimLeft t := List.dropWhile_append_of_pos (List.all_eq_true.1 hb)

/-- Cutting at the front stops before what follows a text that is not blank. -/
theorem trimLeft_append {t : Text} (h : isBlankText t = false) (u : Text) :
    trimLeft (t ++ u) = trimLeft t ++ u := by
  rw [trimLeft, List.dropWhile_append, if_neg, trimLeft]
  rw [List.isEmpty_iff, List.dropWhile_eq_nil_iff]
  intro hall
  exact absurd (List.all_eq_true.2 hall) (Bool.eq_false_iff.1 h)

theorem trim_append_of_isBlankText {b : Text} (hb : isBlankText b = true) (t : Text) :
    trim (b ++ t) = trim t := by
  rw [trim, trimLeft_append_of_isBlankText hb, trim]

theorem trimRight_append_isBlankText {b : Text} (hb : isBlankText b = true) (t : Text) :
    trimRight (t ++ b) = trimRight t := by
  rw [trimRight, List.reverse_append, List.dropWhile_append_of_pos, trimRight]
  intro c hc
  exact List.all_eq_true.1 hb c (List.mem_reverse.1 hc)

theorem trim_eq_nil_of_isBlankText {t : Text} (h : isBlankText t = true) : trim t = [] := by
  have ht : trimLeft t = [] := List.dropWhile_eq_nil_iff.2 (List.all_eq_true.1 h)
  rw [trim, ht]
  rfl

theorem trim_append_isBlankText {b : Text} (hb : isBlankText b = true) (t : Text) :
    trim (t ++ b) = trim t := by
  cases ht : isBlankText t with
  | true =>
    rw [trim_eq_nil_of_isBlankText ht]
    exact trim_eq_nil_of_isBlankText (isBlankText_append.2 ⟨ht, hb⟩)
  | false => rw [trim, trimLeft_append ht, trimRight_append_isBlankText hb, trim]

theorem trim_sublist (t : Text) : (trim t).Sublist t :=
  (List.rdropWhile_prefix isBlank (trimLeft t)).sublist.trans (List.dropWhile_sublist isBlank)

theorem trim_trimRight (t : Text) : trim (trimRight t) = trim t := by
  obtain ⟨b, hb, ht⟩ := exists_eq_trimRight_append t
  conv_rhs => rw [ht, trim_append_isBlankText hb]

theorem trim_trim (t : Text) : trim (trim t) = trim t := by
  have hl : trimLeft (trimLeft t) = trimLeft t := List.dropWhile_idempotent isBlank t
  have h : trim (trim t) = trim (trimLeft t) := trim_trimRight (trimLeft t)
  rw [h, trim, hl, trim]

theorem trimLeft_eq_self_iff {s : Text} (hs : trimRight s = s) : trimLeft s = s ↔ trim s = s := by
  constructor
  · intro h
    rw [trim, h, hs]
  · intro h
    -- nothing was cut on the left where nothing was cut at all
    have hsub : (trim s).Sublist (trimLeft s) :=
      (List.rdropWhile_prefix isBlank (trimLeft s)).sublist
    rw [h] at hsub
    exact (List.dropWhile_sublist isBlank).antisymm hsub

theorem trimRight_eq_self_of_suffix {s t : Text} (h : s <:+ t) (ht : trimRight t = t) :
    trimRight s = s := by
  rw [trimRight_eq_self_iff] at ht ⊢
  intro hs
  obtain ⟨r, rfl⟩ := h
  simpa only [List.getLast_append_of_ne_nil _ hs] using ht (List.append_ne_nil_of_right_ne_nil r hs)

theorem trimRight_append_eq_self {s t : Text} (hs : s ≠ []) (ht : trimRight s = s) :
    trimRight (t ++ s) = t ++ s := by
  rw [trimRight_eq_self_iff] at ht ⊢
  intro h
  simpa only [List.getLast_append_of_ne_nil h hs] using ht hs

/-- Cutting at the end stops at a text that ends visibly. -/
theorem trimRight_append {s : Text} (hs : trimRight s = s) (t : Text) :
    trimRight (s ++ t) = s ++ trimRight t := by
  obtain ⟨b, hb, ht⟩ := exists_eq_trimRight_append t
  have h : trimRight (s ++ t) = trimRight (s ++ trimRight t) := by
    conv_lhs => rw [ht, ← List.append_assoc, trimRight_append_isBlankText hb]
  rw [h]
  by_cases hn : trimRight t = []
  · rw [hn, List.append_nil, hs]
  · exact trimRight_append_eq_self hn (trimRight_trimRight t)

/-- A text that starts and ends visibly is its own trimmed form. -/
theorem trim_eq_self {c : Char} {s : Text} (hc : isBlank c = false)
    (h : trimRight (c :: s) = c :: s) : trim (c :: s) = c :: s := by
  rw [trim, trimLeft, List.dropWhile_cons_of_neg (by simp [hc]), h]

theorem trimLeft_trim (t : Text) : trimLeft (trim t) = trim t :=
  (trimLeft_eq_self_iff (trimRight_trim t)).2 (trim_trim t)

theorem prefix_of_prefix_append_cons {w t b : Text} {c : Char} (h : w <+: t ++ c :: b)
    (hc : c ∉ w) : w <+: t := by
  rcases List.prefix_or_prefix_of_prefix h (List.prefix_append t (c :: b)) with hw | ⟨u, rfl⟩
  · exact hw
  · rw [List.prefix_append_right_inj] at h
    cases u with
    | nil => exact ⟨[], by simp⟩
    | cons d u =>
      rw [List.cons_prefix_cons] at h
      exact absurd (List.mem_append_right t (h.1 ▸ List.mem_cons_self)) hc

/-- What ends visibly does not reach into white space. -/
theorem prefix_of_prefix_append_isBlankText {w t b : Text} (hb : isBlankText b = true)
    (hw : trimRight w = w) (h : w <+: t ++ b) : w <+: t := by
  rcases List.prefix_or_prefix_of_prefix h (List.prefix_append t b) with ht | ⟨u, rfl⟩
  · exact ht
  · have hu : isBlankText u = true :=
      List.all_eq_true.2 fun c hc =>
        List.all_eq_true.1 hb c (((List.prefix_append_right_inj t).1 h).mem hc)
    rw [← hw, trimRight_append_isBlankText hu]
    exact List.rdropWhile_prefix isBlank t

theorem mem_trim_iff {c : Char} (hc : isBlank c = false) {t : Text} : c ∈ trim t ↔ c ∈ t := by
  obtain ⟨p, b, ht, hp, hb⟩ := exists_eq_append_trim_append t
  have hno : ∀ {w : Text}, isBlankText w = true → c ∉ w := fun hw hm =>
    absurd (List.all_eq_true.1 hw c hm) (by simp [hc])
  constructor
  · intro h
    exact (trim_sublist t).mem h
  · intro h
    rw [ht, List.mem_append, List.mem_append] at h
    rcases h with h | h | h
    · exact absurd h (hno hp)
    · exact h
    · exact absurd h (hno hb)

theorem trim_append_cons {c : Char} (hc : isBlank c = false) (s t : Text) :
    trim (s ++ c :: t) = trimLeft s ++ c :: trimRight t := by
  have hleft : trimLeft (s ++ c :: t) = trimLeft s ++ c :: t := by
    rw [trimLeft, List.dropWhile_append]
    split
    · next h => rw [List.dropWhile_cons_of_neg (by simp [hc]), trimLeft, List.isEmpty_iff.1 h]; rfl
    · rfl
  have hright : trimRight (trimLeft s ++ [c]) = trimLeft s ++ [c] :=
    trimRight_append_eq_self (List.cons_ne_nil c _) (by simp [trimRight, hc])
  have happ : trimLeft s ++ c :: t = (trimLeft s ++ [c]) ++ t := by simp
  rw [trim, hleft, happ, trimRight_append hright]
  simp

theorem isBlank_of_isTabOrSpace {c : Char} (h : isTabOrSpace c = true) : isBlank c = true := by
  rcases Bool.or_eq_true _ _ ▸ h with h | h
  · exact beq_iff_eq.1 h ▸ rfl
  · exact beq_iff_eq.1 h ▸ rfl

end CaseChart.Text
