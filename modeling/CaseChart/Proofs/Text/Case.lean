import CaseChart.Text.Case
import CaseChart.Proofs.Text.Split
import CaseChart.Proofs.Text.Word

namespace CaseChart.Text

theorem toNat_lt_of_isLower {c : Char} (h : c.isLower = true) : c.toNat < 128 := by
  have := isLower_iff.1 h
  omega

theorem toLower_of_not_ascii {c : Char} (h : 128 ≤ c.toNat) : c.toLower = c := by
  apply toLower_of_not_isUpper
  rw [Bool.eq_false_iff]
  intro hu
  have := isUpper_iff.1 hu
  omega

/-- What stands in the lower case of a character beyond ASCII: nothing of ASCII but the small
letters of the dotted capital I and of the sign of the kelvin. A code out of range gives zero. -/
def Wide (d : Char) : Prop := d = 'i' ∨ d = 'k' ∨ d.toNat = 0 ∨ 128 ≤ d.toNat

theorem wide_ofNat {n : Nat} (h : 128 ≤ n) : Wide (Char.ofNat n) := by
  by_cases hv : n.isValidChar
  · refine .inr (.inr (.inr ?_))
    rw [toNat_ofNat hv]
    exact h
  · rw [Char.ofNat, dif_neg hv]
    exact .inr (.inr (.inl rfl))

theorem Wide.ne_of_isLower {d k : Char} (hd : Wide d) (hk : k.isLower = true) (hi : k ≠ 'i')
    (hk' : k ≠ 'k') : d ≠ k := by
  rintro rfl
  have := isLower_iff.1 hk
  rcases hd with hd | hd | hd | hd
  · exact hi hd
  · exact hk' hd
  · omega
  · omega

theorem shift_of_mem_lowerShifts : ∀ s ∈ lowerShifts,
    128 ≤ s.first + s.delta ∨ (s.first = s.last ∧ s.first + s.delta = 'k'.toNat) := by
  decide +kernel

theorem shifted_lowerShifts {n : Nat} (h : 128 ≤ n) :
    128 ≤ shifted lowerShifts n ∨ shifted lowerShifts n = 'k'.toNat := by
  rw [shifted]
  split
  · next s hs =>
    have hn := List.find?_some hs
    simp only [Bool.and_eq_true, decide_eq_true_eq] at hn
    -- only the row of the kelvin sign leads below 128, and it has a single code point
    rcases shift_of_mem_lowerShifts s (List.mem_of_find?_eq_some hs) with hd | ⟨he, hd⟩
    · left
      omega
    · right
      omega
  · exact .inl h

theorem lowerOf_ne_nil (c : Char) : lowerOf c ≠ [] := by
  rw [lowerOf]
  split
  · exact List.cons_ne_nil _ _
  · split <;> exact List.cons_ne_nil _ _

theorem wide_of_mem_lowerOf {c d : Char} (h : 128 ≤ c.toNat) (hd : d ∈ lowerOf c) : Wide d := by
  rw [lowerOf, if_neg (by omega)] at hd
  split at hd
  · rcases List.mem_pair.1 hd with rfl | rfl
    · exact .inl rfl
    · exact wide_ofNat (by decide)
  · rw [List.mem_singleton.1 hd]
    rcases shifted_lowerShifts h with hs | hs
    · exact wide_ofNat hs
    · rw [hs]
      exact .inr (.inl rfl)

/-- What a text and its lower case have in common at all places, whatever stands around them:
characters of ASCII change one by one, and others become wide characters. -/
inductive Lowered : Text → Text → Prop
  | nil : Lowered [] []
  | ascii {c : Char} {t u : Text} : c.toNat < 128 → Lowered t u → Lowered (c :: t) (c.toLower :: u)
  | wide {c : Char} {s t u : Text} : 128 ≤ c.toNat → s ≠ [] → (∀ d ∈ s, Wide d) → Lowered t u →
    Lowered (c :: t) (s ++ u)

theorem lowered_lowerAfter (before t : Text) : Lowered t (lowerAfter before t) := by
  induction t generalizing before with
  | nil => exact .nil
  | cons c t ih =>
    by_cases hc : c.toNat < 128
    · rw [lowerAfter, if_neg (by omega), lowerOf, if_pos hc]
      exact .ascii hc (ih (c :: before))
    · have hc : 128 ≤ c.toNat := by omega
      rw [lowerAfter]
      split
      · refine .wide hc (List.cons_ne_nil _ _) ?_ (ih (c :: before))
        intro d hd
        rw [List.mem_singleton.1 hd]
        split <;> exact wide_ofNat (by decide)
      · exact .wide hc (lowerOf_ne_nil c) (fun d hd => wide_of_mem_lowerOf hc hd) (ih (c :: before))

theorem lowered_lower (t : Text) : Lowered t (lower t) := lowered_lowerAfter [] t

theorem Lowered.eq_nil_iff {t u : Text} (h : Lowered t u) : u = [] ↔ t = [] := by
  cases h <;> simp [*]

/-- Neither form of a wide character begins with a letter of a keyword, so that a text is a
keyword in small letters exactly if its letters are those of the keyword in any case. -/
theorem Lowered.eq_keyword_iff {w u : Text} (h : Lowered w u) {keyword : Text}
    (hk : ∀ k ∈ keyword, k.isLower = true ∧ k ≠ 'i' ∧ k ≠ 'k') :
    u = keyword ↔ w.map Char.toLower = keyword := by
  induction h generalizing keyword with
  | nil => rfl
  | ascii hc _ ih =>
    rw [List.map_cons]
    cases keyword with
    | nil => simp
    | cons k keyword =>
      rw [List.cons.injEq, List.cons.injEq, ih fun j hj => hk j (List.mem_cons_of_mem k hj)]
  | @wide c s t u hc hs hw _ _ =>
    obtain ⟨d, s, rfl⟩ := List.exists_cons_of_ne_nil hs
    rw [List.map_cons, toLower_of_not_ascii hc]
    constructor
    · rintro rfl
      obtain ⟨hl, hi, hk'⟩ := hk d List.mem_cons_self
      exact absurd rfl ((hw d List.mem_cons_self).ne_of_isLower hl hi hk')
    · rintro rfl
      have := toNat_lt_of_isLower (hk c List.mem_cons_self).1
      omega

theorem lower_eq_iff {keyword : Text} (hk : ∀ k ∈ keyword, k.isLower = true ∧ k ≠ 'i' ∧ k ≠ 'k')
    (w : Text) : lower w = keyword ↔ w.map Char.toLower = keyword :=
  (lowered_lower w).eq_keyword_iff hk

def Mark (sep : Char) : Prop := 0 < sep.toNat ∧ sep.toNat < 65

section Marks

variable {sep : Char} (hsep : Mark sep)

include hsep

theorem Wide.ne_sep {d : Char} (hd : Wide d) : d ≠ sep := by
  rintro rfl
  obtain ⟨h0, h65⟩ := hsep
  rcases hd with rfl | rfl | hd | hd
  · exact absurd h65 (by decide)
  · exact absurd h65 (by decide)
  · omega
  · omega

theorem toLower_eq_sep_iff {c : Char} : c.toLower = sep ↔ c = sep := by
  obtain ⟨h0, h65⟩ := hsep
  have hs : sep.isUpper = false := by
    rw [Bool.eq_false_iff]
    intro h
    have := isUpper_iff.1 h
    omega
  constructor
  · rintro rfl
    by_cases hc : c.isUpper = true
    · -- a capital becomes a small letter, which is no separator
      have hn := isUpper_iff.1 hc
      have hall : ∀ n < 91, 65 ≤ n → 65 ≤ (Char.ofNat n).toLower.toNat := by decide
      have := hall c.toNat (by omega) hn.1
      rw [Char.ofNat_toNat] at this
      omega
    · exact (toLower_of_not_isUpper (Bool.eq_false_iff.2 hc)).symm
  · rintro rfl
    exact toLower_of_not_isUpper hs

theorem Lowered.split {t u : Text} (h : Lowered t u) :
    List.Forall₂ Lowered (Text.split sep t) (Text.split sep u) := by
  induction h with
  | nil => exact .cons .nil .nil
  | @ascii c t u hc _ ih =>
    by_cases he : c = sep
    · rw [(toLower_eq_sep_iff hsep).2 he, he, split_sep_cons, split_sep_cons]
      exact .cons .nil ih
    · obtain ⟨p, ps, hp⟩ := List.exists_cons_of_ne_nil (split_ne_nil sep t)
      obtain ⟨q, qs, hq⟩ := List.exists_cons_of_ne_nil (split_ne_nil sep u)
      have he' : c.toLower ≠ sep := mt (toLower_eq_sep_iff hsep).1 he
      rw [hp, hq] at ih
      rw [split_cons_of_ne he hp, split_cons_of_ne he' hq]
      cases ih with
      | cons hpq hrest => exact .cons (.ascii hc hpq) hrest
  | @wide c s t u hc hs hw _ ih =>
    obtain ⟨p, ps, hp⟩ := List.exists_cons_of_ne_nil (split_ne_nil sep t)
    obtain ⟨q, qs, hq⟩ := List.exists_cons_of_ne_nil (split_ne_nil sep u)
    have hcw : Wide c := .inr (.inr (.inr hc))
    have hs' : sep ∉ s := fun hm => (hw sep hm).ne_sep hsep rfl
    rw [hp, hq] at ih
    rw [split_cons_of_ne (hcw.ne_sep hsep) hp, split_append_of_not_mem hs' hq]
    cases ih with
    | cons hpq hrest => exact .cons (.wide hc hs hw hpq) hrest

theorem Lowered.exists_append_sep {s t u : Text} (h : Lowered (s ++ sep :: t) u) :
    ∃ v w, u = v ++ sep :: w ∧ Lowered s v ∧ Lowered t w := by
  induction s generalizing u with
  | nil =>
    cases h with
    | @ascii _ _ w _ h =>
      rw [(toLower_eq_sep_iff hsep).2 rfl]
      exact ⟨[], w, rfl, .nil, h⟩
    | wide hc _ _ _ => exact absurd rfl (Wide.ne_sep hsep (.inr (.inr (.inr hc))))
  | cons c s ih =>
    cases h with
    | ascii hc h =>
      obtain ⟨v, w, rfl, hv, hw⟩ := ih h
      exact ⟨c.toLower :: v, w, rfl, .ascii hc hv, hw⟩
    | @wide _ r _ _ hc hr hwide h =>
      obtain ⟨v, w, rfl, hv, hw⟩ := ih h
      exact ⟨r ++ v, w, (List.append_assoc ..).symm, .wide hc hr hwide hv, hw⟩

theorem Lowered.exists_of_append_sep {t v w : Text} (h : Lowered t (v ++ sep :: w)) :
    ∃ r s, t = r ++ sep :: s ∧ Lowered r v ∧ Lowered s w := by
  generalize hu : v ++ sep :: w = u at h
  induction h generalizing v with
  | nil => exact absurd hu (by simp)
  | @ascii c t u hc h ih =>
    cases v with
    | nil =>
      obtain ⟨he, rfl⟩ := List.cons.inj hu
      exact ⟨[], t, by rw [(toLower_eq_sep_iff hsep).1 he.symm]; rfl, .nil, h⟩
    | cons d v =>
      obtain ⟨rfl, hrest⟩ := List.cons.inj hu
      obtain ⟨r, s, rfl, hr, hs⟩ := ih hrest
      exact ⟨c :: r, s, rfl, .ascii hc hr, hs⟩
  | @wide c i t u hc hi hwide _ ih =>
    -- the separator stands behind all of the wide characters
    have hin : sep ∉ i := fun hm => (hwide sep hm).ne_sep hsep rfl
    rcases List.append_eq_append_iff.1 hu with ⟨as, rfl, has⟩ | ⟨as, rfl, has⟩
    · cases as with
      | nil =>
        obtain ⟨r, s, rfl, hr, hs⟩ := ih (v := []) has
        exact ⟨c :: r, s, rfl, by simpa using Lowered.wide hc hi hwide hr, hs⟩
      | cons d as =>
        obtain ⟨rfl, -⟩ := List.cons.inj has
        exact absurd (List.mem_append_right v List.mem_cons_self) hin
    · obtain ⟨r, s, rfl, hr, hs⟩ := ih has.symm
      exact ⟨c :: r, s, rfl, .wide hc hi hwide hr, hs⟩

theorem Lowered.eq_singleton_iff {t u : Text} (h : Lowered t u) : u = [sep] ↔ t = [sep] := by
  constructor
  · rintro rfl
    obtain ⟨r, s, rfl, hr, hs⟩ := h.exists_of_append_sep (v := []) hsep
    rw [hr.eq_nil_iff.1 rfl, hs.eq_nil_iff.1 rfl]
    rfl
  · rintro rfl
    obtain ⟨v, w, rfl, hv, hw⟩ := h.exists_append_sep (s := []) hsep
    rw [hv.eq_nil_iff.2 rfl, hw.eq_nil_iff.2 rfl]
    rfl

end Marks

end CaseChart.Text
