import CaseChart.Text.Word
import CaseChart.Proofs.Text.Lines
import Mathlib.Data.List.Forall2

namespace CaseChart.Text

theorem toNat_ofNat {n : Nat} (h : n.isValidChar) : (Char.ofNat n).toNat = n := by
  rw [Char.ofNat, dif_pos h]
  rfl

theorem isUpper_iff {c : Char} : c.isUpper = true ↔ 65 ≤ c.toNat ∧ c.toNat ≤ 90 := by
  change decide (c.val ≥ 'A'.val ∧ c.val ≤ 'Z'.val) = true ↔ _
  rw [decide_eq_true_iff, ge_iff_le, UInt32.le_iff_toNat_le, UInt32.le_iff_toNat_le]
  rfl

theorem isLower_iff {c : Char} : c.isLower = true ↔ 97 ≤ c.toNat ∧ c.toNat ≤ 122 := by
  change (decide (c.val ≥ 'a'.val) && decide (c.val ≤ 'z'.val)) = true ↔ _
  rw [Bool.and_eq_true, decide_eq_true_iff, decide_eq_true_iff, ge_iff_le, UInt32.le_iff_toNat_le,
    UInt32.le_iff_toNat_le]
  rfl

theorem isDigit_iff {c : Char} : c.isDigit = true ↔ 48 ≤ c.toNat ∧ c.toNat ≤ 57 := by
  change (decide (c.val ≥ '0'.val) && decide (c.val ≤ '9'.val)) = true ↔ _
  rw [Bool.and_eq_true, decide_eq_true_iff, decide_eq_true_iff, ge_iff_le, UInt32.le_iff_toNat_le,
    UInt32.le_iff_toNat_le]
  rfl

theorem toLower_of_not_isUpper {c : Char} (h : c.isUpper = false) : c.toLower = c :=
  dif_neg (of_decide_eq_false h)

theorem isAsciiWord_iff {c : Char} : isAsciiWord c = true ↔
    (48 ≤ c.toNat ∧ c.toNat ≤ 57) ∨ (65 ≤ c.toNat ∧ c.toNat ≤ 90) ∨ c.toNat = 95 ∨
      (97 ≤ c.toNat ∧ c.toNat ≤ 122) := by
  have hu : c = '_' ↔ c.toNat = 95 := Char.toNat_inj.symm
  change (((c.isUpper || c.isLower) || c.isDigit) || c == '_') = true ↔ _
  rw [Bool.or_eq_true, Bool.or_eq_true, Bool.or_eq_true, isUpper_iff, isLower_iff, isDigit_iff,
    beq_iff_eq, hu]
  omega

theorem isWord_of_isAsciiWord {c : Char} (h : isAsciiWord c = true) : isWord c = true := by
  have hc : c.toNat < 128 := by have := isAsciiWord_iff.1 h; omega
  rw [isWord, if_pos hc, h]

def wideBlanks : List Nat :=
  [0x85, 0xA0, 0x1680, 0x2028, 0x2029, 0x202F, 0x205F, 0x3000] ++ List.range' 0x2000 11

theorem isBlank_iff {c : Char} : isBlank c = true ↔
    (9 ≤ c.toNat ∧ c.toNat ≤ 13) ∨ (28 ≤ c.toNat ∧ c.toNat ≤ 32) ∨ c.toNat ∈ wideBlanks := by
  simp only [isBlank, wideBlanks, Bool.or_eq_true, Bool.and_eq_true, decide_eq_true_eq, beq_iff_eq,
    List.mem_append, List.mem_cons, List.not_mem_nil, or_false, List.mem_range'_1]
  omega

theorem inRanges_wideBlanks : ∀ n ∈ wideBlanks, inRanges wordRanges n = false := by decide +kernel

theorem isBlank_eq_false_of_isWord {c : Char} (h : isWord c = true) : isBlank c = false := by
  rw [Bool.eq_false_iff, ne_eq, isBlank_iff]
  intro hb
  rw [isWord] at h
  split at h
  · next hc =>
    have hw := isAsciiWord_iff.1 h
    have hn : c.toNat ∉ wideBlanks := by
      intro hm
      have : ∀ n ∈ wideBlanks, 128 ≤ n := by decide
      have := this _ hm
      omega
    simp only [hn, or_false] at hb
    omega
  · next hc =>
    rcases hb with hb | hb | hb
    · omega
    · omega
    · rw [inRanges_wideBlanks _ hb] at h
      exact Bool.false_ne_true h

theorem isWord_eq_false_of_isBlank {c : Char} (h : isBlank c = true) : isWord c = false := by
  cases hw : isWord c with
  | false => rfl
  | true => exact absurd h (by simp [isBlank_eq_false_of_isWord hw])

theorem unbroken_of_isWord {t : Text} (h : ∀ c ∈ t, isWord c = true) : Unbroken t :=
  .of_visible fun c hc => isBlank_eq_false_of_isWord (h c hc)

theorem unbroken_of_isTabOrSpace {t : Text} (h : ∀ c ∈ t, isTabOrSpace c = true) : Unbroken t := by
  intro c hc
  rcases Bool.or_eq_true _ _ ▸ h c hc with hb | hb
  · exact beq_iff_eq.1 hb ▸ rfl
  · exact beq_iff_eq.1 hb ▸ rfl

theorem isAsciiWord_of_isLower_toLower {c : Char} (h : c.toLower.isLower = true) :
    isAsciiWord c = true := by
  rw [isAsciiWord_iff]
  cases hu : c.isUpper with
  | true =>
    have := isUpper_iff.1 hu
    omega
  | false =>
    rw [toLower_of_not_isUpper hu] at h
    have := isLower_iff.1 h
    omega

/-- A letter of a keyword, in either case, is an identifier character. -/
theorem isWord_of_sameLetter {k c : Char} (hk : k.isLower = true) (h : sameLetter k c = true) :
    isWord c = true := by
  rw [sameLetter, beq_iff_eq] at h
  exact isWord_of_isAsciiWord (isAsciiWord_of_isLower_toLower (h ▸ hk))

theorem dropWord?_eq_some_iff {same : Char → Char → Bool} {word t r : Text} :
    dropWord? same word t = some r ↔
      ∃ k, t = k ++ r ∧ List.Forall₂ (fun a c => same a c = true) word k := by
  induction word generalizing t with
  | nil =>
    rw [dropWord?_nil, Option.some.injEq]
    constructor
    · rintro rfl
      exact ⟨[], rfl, .nil⟩
    · rintro ⟨k, rfl, hk⟩
      rw [List.forall₂_nil_left_iff.1 hk, List.nil_append]
  | cons a word ih =>
    cases t with
    | nil =>
      constructor
      · intro h
        simp [dropWord?] at h
      · rintro ⟨k, hk, h⟩
        rw [(List.append_eq_nil_iff.1 hk.symm).1] at h
        simp at h
    | cons c t =>
      rw [dropWord?]
      constructor
      · intro h
        split at h
        · next hc =>
          obtain ⟨k, rfl, hk⟩ := ih.1 h
          exact ⟨c :: k, rfl, .cons hc hk⟩
        · simp at h
      · rintro ⟨k, hk, h⟩
        obtain ⟨c', k', hc, hk', rfl⟩ := List.forall₂_cons_left_iff.1 h
        obtain ⟨rfl, rfl⟩ := List.cons.inj (hk.trans (List.cons_append ..))
        rw [if_pos hc]
        exact ih.2 ⟨k', rfl, hk'⟩

theorem forall₂_sameLetter_iff {word k : Text} :
    List.Forall₂ (fun a c => sameLetter a c = true) word k ↔ k.map Char.toLower = word := by
  rw [eq_comm, ← List.forall₂_eq_eq_eq, List.forall₂_map_right_iff]
  simp only [sameLetter, beq_iff_eq]
  constructor
  · exact List.Forall₂.imp fun _ _ h => h.symm
  · exact List.Forall₂.imp fun _ _ h => h.symm

/-- The run of a class of characters at the front, when the rest does not go on with it. -/
theorem takeWhile_append_of_head {p : Char → Bool} {w r : Text} (hw : ∀ c ∈ w, p c = true)
    (hr : ∀ c ∈ r.head?, p c = false) : (w ++ r).takeWhile p = w := by
  rw [List.takeWhile_append_of_pos hw]
  cases r with
  | nil => exact List.append_nil w
  | cons c r => rw [List.takeWhile_cons_of_neg (by simp [hr c rfl]), List.append_nil]

theorem dropWhile_append_of_head {p : Char → Bool} {w r : Text} (hw : ∀ c ∈ w, p c = true)
    (hr : ∀ c ∈ r.head?, p c = false) : (w ++ r).dropWhile p = r := by
  rw [List.dropWhile_append_of_pos hw]
  cases r with
  | nil => rfl
  | cons c r => rw [List.dropWhile_cons_of_neg (by simp [hr c rfl])]

/-- What begins with an identifier begins visibly. -/
theorem isBlank_of_mem_head?_append {w t : Text} (hne : w ≠ []) (hw : ∀ c ∈ w, isWord c = true) :
    ∀ c ∈ (w ++ t).head?, isBlank c = false := by
  obtain ⟨d, w, rfl⟩ := List.exists_cons_of_ne_nil hne
  rintro c ⟨⟩
  exact isBlank_eq_false_of_isWord (hw d List.mem_cons_self)

theorem trimLeft_append_of_isWord {w t : Text} (hne : w ≠ []) (hw : ∀ c ∈ w, isWord c = true) :
    trimLeft (w ++ t) = w ++ t :=
  dropWhile_append_of_head (w := []) (by simp) (isBlank_of_mem_head?_append hne hw)

theorem trim_append_of_isWord {w t : Text} (hne : w ≠ []) (hw : ∀ c ∈ w, isWord c = true)
    (ht : trimRight (w ++ t) = w ++ t) : trim (w ++ t) = w ++ t := by
  rw [trim, trimLeft_append_of_isWord hne hw, ht]

theorem trimRight_of_isWord {w : Text} (hw : ∀ c ∈ w, isWord c = true) : trimRight w = w :=
  trimRight_eq_self_iff.2 fun h => isBlank_eq_false_of_isWord (hw _ (List.getLast_mem h))

theorem eq_false_of_mem_head?_dropWhile {p : Char → Bool} {t : Text} {c : Char}
    (h : c ∈ (t.dropWhile p).head?) : p c = false := by
  have hn := List.head?_dropWhile_not p t
  rwa [Option.mem_def.1 h] at hn

/-- White space comes first, possibly none, and then an identifier. -/
theorem any_isWord_dropWhile_iff {t : Text} : (t.dropWhile isBlank).head?.any isWord = true ↔
    ∃ gap c r, t = gap ++ c :: r ∧ isBlankText gap = true ∧ isWord c = true := by
  constructor
  · intro h
    obtain ⟨c, hc, hword⟩ := (Option.any_eq_true _ _).1 h
    obtain ⟨r, hr⟩ := List.head?_eq_some_iff.1 hc
    refine ⟨t.takeWhile isBlank, c, r, ?_, ?_, hword⟩
    · rw [← hr, List.takeWhile_append_dropWhile]
    · exact List.all_eq_true.2 fun d hd => List.mem_takeWhile_imp hd
  · rintro ⟨gap, c, r, rfl, hgap, hword⟩
    have hdrop : (gap ++ c :: r).dropWhile isBlank = c :: r := by
      apply dropWhile_append_of_head (List.all_eq_true.1 hgap)
      rintro d ⟨⟩
      exact isBlank_eq_false_of_isWord hword
    rw [hdrop]
    simpa using hword

end CaseChart.Text
