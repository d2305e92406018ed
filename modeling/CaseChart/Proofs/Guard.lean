import CaseChart.Guard
import CaseChart.Proofs.Text.Trim
import Mathlib.Logic.Relation

namespace CaseChart.Guard

open Relation

/-- One deletion of what does not count: a control character wherever it stands, or white space at
an end. -/
inductive Deletes : Text → Text → Prop
  | control {c : Char} (s t : Text) : isControl c = true → Deletes (s ++ c :: t) (s ++ t)
  | front {c : Char} (t : Text) : Text.isBlank c = true → Deletes (c :: t) t
  | back {c : Char} (t : Text) : Text.isBlank c = true → Deletes (t ++ [c]) t

def Clean (t : Text) : Prop := ∀ u, ¬Deletes t u

def dropControls (t : Text) : Text := t.filter fun c => !isControl c

theorem sanitize_eq (t : Text) : sanitize t = Text.trim (dropControls t) := rfl

theorem dropControls_append (s t : Text) :
    dropControls (s ++ t) = dropControls s ++ dropControls t := List.filter_append ..

theorem dropControls_cons_of_control {c : Char} (h : isControl c = true) (t : Text) :
    dropControls (c :: t) = dropControls t := List.filter_cons_of_neg (by simp [h])

theorem dropControls_cons {c : Char} (h : isControl c = false) (t : Text) :
    dropControls (c :: t) = c :: dropControls t := List.filter_cons_of_pos (by simp [h])

/-- Of a blank character nothing is left, or white space. -/
theorem isBlankText_dropControls {c : Char} (h : Text.isBlank c = true) :
    Text.isBlankText (dropControls [c]) = true := by
  refine List.all_eq_true.2 fun d hd => ?_
  rw [List.mem_singleton.1 (List.mem_filter.1 hd).1, h]

theorem Deletes.sanitize_eq {s t : Text} (h : Deletes s t) : sanitize s = sanitize t := by
  cases h with
  | control s t hc =>
    rw [Guard.sanitize_eq, Guard.sanitize_eq, dropControls_append, dropControls_append,
      dropControls_cons_of_control hc]
  | @front c t hc =>
    rw [Guard.sanitize_eq, Guard.sanitize_eq, ← List.singleton_append, dropControls_append,
      Text.trim_append_of_isBlankText (isBlankText_dropControls hc)]
  | back t hc =>
    rw [Guard.sanitize_eq, Guard.sanitize_eq, dropControls_append,
      Text.trim_append_isBlankText (isBlankText_dropControls hc)]

theorem deletes_dropControls (s t : Text) :
    ReflTransGen Deletes (s ++ t) (s ++ dropControls t) := by
  induction t generalizing s with
  | nil => exact .refl
  | cons c t ih =>
    cases hc : isControl c with
    | true =>
      rw [dropControls_cons_of_control hc]
      exact .head (.control s t hc) (ih s)
    | false =>
      rw [dropControls_cons hc, List.append_cons, List.append_cons s c (dropControls t)]
      exact ih (s ++ [c])

theorem deletes_front {b : Text} (hb : Text.isBlankText b = true) (t : Text) :
    ReflTransGen Deletes (b ++ t) t := by
  induction b with
  | nil => exact .refl
  | cons c b ih =>
    obtain ⟨hc, hb⟩ := Bool.and_eq_true_iff.1 hb
    exact .head (.front (b ++ t) hc) (ih hb)

theorem deletes_back {b : Text} (hb : Text.isBlankText b = true) (t : Text) :
    ReflTransGen Deletes (t ++ b) t := by
  induction b generalizing t with
  | nil => rw [List.append_nil]
  | cons c b ih =>
    obtain ⟨hc, hb⟩ := Bool.and_eq_true_iff.1 hb
    rw [List.append_cons]
    exact (ih hb (t ++ [c])).tail (.back t hc)

theorem deletes_sanitize (t : Text) : ReflTransGen Deletes t (sanitize t) := by
  obtain ⟨p, b, ht, hp, hb⟩ := Text.exists_eq_append_trim_append (dropControls t)
  have hcontrols : ReflTransGen Deletes t (dropControls t) := deletes_dropControls [] t
  rw [ht] at hcontrols
  exact hcontrols.trans ((deletes_front hp _).trans (deletes_back hb _))

theorem not_control_of_mem_sanitize {c : Char} {t : Text} (h : c ∈ sanitize t) :
    isControl c = false := by
  have hmem : c ∈ dropControls t := (Text.trim_sublist _).mem h
  simpa using (List.mem_filter.1 hmem).2

theorem clean_sanitize (t : Text) : Clean (sanitize t) := by
  intro u h
  generalize hs : sanitize t = s at h
  cases h with
  | @control c s u hc =>
    have hmem : c ∈ sanitize t := by
      rw [hs]
      exact List.mem_append_right s List.mem_cons_self
    rw [not_control_of_mem_sanitize hmem] at hc
    cases hc
  | @front c u hc =>
    have hleft : Text.trimLeft (c :: u) = c :: u := hs ▸ Text.trimLeft_trim (dropControls t)
    have hlen := congrArg List.length hleft
    rw [Text.trimLeft, List.dropWhile_cons_of_pos hc, List.length_cons] at hlen
    have := (List.dropWhile_sublist Text.isBlank (l := u)).length_le
    omega
  | @back c u hc =>
    have hright : Text.trimRight (u ++ [c]) = u ++ [c] := hs ▸ Text.trimRight_trim (dropControls t)
    have hlast := Text.trimRight_eq_self_iff.1 hright (by simp)
    rw [List.getLast_append_singleton, hc] at hlast
    cases hlast

theorem sanitize_eq_of_deletes {s t : Text} (h : ReflTransGen Deletes s t) :
    sanitize s = sanitize t := by
  induction h with
  | refl => rfl
  | tail _ hstep ih => exact ih.trans hstep.sanitize_eq

theorem Clean.sanitize_eq {t : Text} (h : Clean t) : sanitize t = t := by
  rcases (deletes_sanitize t).cases_head with heq | ⟨u, hstep, -⟩
  · exact heq.symm
  · exact absurd hstep (h u)

/-- Deletions end in the sanitized text, and nowhere else. -/
theorem eq_sanitize_iff {s t : Text} :
    s = sanitize t ↔ ReflTransGen Deletes t s ∧ Clean s := by
  constructor
  · rintro rfl
    exact ⟨deletes_sanitize t, clean_sanitize t⟩
  · rintro ⟨hdeletes, hclean⟩
    rw [sanitize_eq_of_deletes hdeletes, hclean.sanitize_eq]

theorem sanitize_sanitize (t : Text) : sanitize (sanitize t) = sanitize t :=
  (clean_sanitize t).sanitize_eq

theorem eqvGen_sanitize (t : Text) : EqvGen Deletes t (sanitize t) :=
  EqvGen.reflTransGen_le_eqvGen _ _ _ (deletes_sanitize t)

/-- Texts are sanitized to the same if they differ by deletions only. -/
theorem sanitize_eq_sanitize_iff {s t : Text} :
    sanitize s = sanitize t ↔ EqvGen Deletes s t := by
  constructor
  · intro h
    have hs : EqvGen Deletes s (sanitize t) := h ▸ eqvGen_sanitize s
    exact hs.trans _ _ _ ((eqvGen_sanitize t).symm _ _)
  · intro h
    induction h with
    | rel _ _ hstep => exact hstep.sanitize_eq
    | refl _ => rfl
    | symm _ _ _ ih => exact ih.symm
    | trans _ _ _ _ _ ihs iht => exact ihs.trans iht

def Plain (c : Char) : Prop :=
  ('A' ≤ c ∧ c ≤ 'Z') ∨ ('a' ≤ c ∧ c ≤ 'z') ∨ ('0' ≤ c ∧ c ≤ '9') ∨ c = '_' ∨ c = '-'

instance (c : Char) : Decidable (Plain c) :=
  inferInstanceAs (Decidable (_ ∨ _ ∨ _ ∨ _ ∨ _))

theorem isKeyChar_iff (c : Char) : isKeyChar c = true ↔ Plain c := by
  change ((decide ('A' ≤ c ∧ c ≤ 'Z') || (decide ('a' ≤ c) && decide (c ≤ 'z'))) ||
    (decide ('0' ≤ c) && decide (c ≤ '9')) || c == '_' || c == '-') = true ↔ _
  simp only [Plain, Bool.or_eq_true, Bool.and_eq_true, decide_eq_true_eq, beq_iff_eq, or_assoc]

/-- A line feed at the end is let through by the form of keys, but not by sanitizing. -/
theorem hasKeyForm_iff {s : Text} (h : '\n' ∉ s) :
    hasKeyForm s = true ↔ s ≠ [] ∧ ∀ c ∈ s, Plain c := by
  have hrest : s.dropWhile isKeyChar ≠ ['\n'] := by
    intro hend
    exact h ((List.dropWhile_sublist isKeyChar).mem (hend ▸ List.mem_singleton_self '\n'))
  have hall : s.dropWhile isKeyChar = [] ↔ ∀ c ∈ s, Plain c := by
    simp only [List.dropWhile_eq_nil_iff, isKeyChar_iff]
  simp only [hasKeyForm, Bool.and_eq_true, Bool.or_eq_true, decide_eq_true_eq, hrest, or_false,
    hall]
  refine and_congr_left fun hplain => not_congr ?_
  rw [List.takeWhile_eq_self_iff.2 fun c hc => (isKeyChar_iff c).2 (hplain c hc)]

theorem newline_not_mem_sanitize (t : Text) : '\n' ∉ sanitize t := by
  intro h
  exact absurd (not_control_of_mem_sanitize h) (by decide)

variable {l : Limits}

theorem accessKey_of_short {key : Text} (h : ((sanitize key).length : Int) < l.keyLength) :
    accessKey l key = some .shortKey := if_pos h

theorem accessKey_of_long (hl : 1 ≤ l.keyLength) {key : Text}
    (h : l.keyLength ≤ (sanitize key).length) :
    accessKey l key = if ∀ c ∈ sanitize key, Plain c then none else some .keyCharacters := by
  have hne : sanitize key ≠ [] := by
    intro hnil
    rw [hnil, List.length_nil] at h
    omega
  have hform : hasKeyForm (sanitize key) = true ↔ ∀ c ∈ sanitize key, Plain c :=
    (hasKeyForm_iff (newline_not_mem_sanitize key)).trans (and_iff_right hne)
  rw [accessKey, if_neg (Int.not_lt.2 h)]
  exact if_congr hform rfl rfl

theorem accessKey_congr {s t : Text} (h : sanitize s = sanitize t) :
    accessKey l s = accessKey l t := by
  rw [accessKey, accessKey, h]

theorem accessKey_eq_shortKey_iff {key : Text} :
    accessKey l key = some .shortKey ↔ ((sanitize key).length : Int) < l.keyLength := by
  refine ⟨fun h => ?_, accessKey_of_short⟩
  by_contra hlong
  rw [accessKey, if_neg hlong] at h
  split at h <;> cases h

theorem accessKey_eq_none_iff (hl : 1 ≤ l.keyLength) {key : Text} :
    accessKey l key = none ↔
      l.keyLength ≤ (sanitize key).length ∧ ∀ c ∈ sanitize key, Plain c := by
  rcases Int.lt_or_le (sanitize key).length l.keyLength with h | h
  · rw [accessKey_of_short h]
    exact iff_of_false (Option.some_ne_none _) fun hkey => absurd hkey.1 (Int.not_le.2 h)
  · rw [accessKey_of_long hl h, and_iff_right h]
    exact ite_eq_left_iff.trans (by simp)

theorem accessKey_eq_keyCharacters_iff (hl : 1 ≤ l.keyLength) {key : Text} :
    accessKey l key = some .keyCharacters ↔
      l.keyLength ≤ (sanitize key).length ∧ ∃ c ∈ sanitize key, ¬Plain c := by
  rcases Int.lt_or_le (sanitize key).length l.keyLength with h | h
  · rw [accessKey_of_short h]
    exact iff_of_false (by simp) fun hkey => absurd hkey.1 (Int.not_le.2 h)
  · rw [accessKey_of_long hl h, and_iff_right h]
    exact ite_eq_right_iff.trans (by simp)

/-- A key is judged by what is left of it without control characters anywhere and white space at
the ends: first by the length, then by the characters. All deletions end there, so that a key that
is sanitized already, or that differs in what does not count, is judged alike. -/
theorem accessKey_sanitized (l : Limits) (hl : 1 ≤ l.keyLength) (key : Text) :
    let s := Text.trim (key.filter fun c => ¬(c.toNat ≤ 0x1F ∨ c.toNat = 0x7F))
    (accessKey l key = none ↔ l.keyLength ≤ s.length ∧ ∀ c ∈ s, Plain c) ∧
      (accessKey l key = some .shortKey ↔ (s.length : Int) < l.keyLength) ∧
      (accessKey l key = some .keyCharacters ↔ l.keyLength ≤ s.length ∧ ∃ c ∈ s, ¬Plain c) ∧
      (∀ t, t = s ↔ ReflTransGen Deletes key t ∧ Clean t) ∧
      sanitize key = s ∧ sanitize s = s ∧ accessKey l (sanitize key) = accessKey l key ∧
      ∀ other, EqvGen Deletes key other → accessKey l other = accessKey l key := by
  intro s
  have hs : sanitize key = s := by
    rw [sanitize]
    congr 2
    funext c
    simp only [isControl, decide_not, Bool.decide_or, Nat.lt_succ_iff, beq_eq_decide]
  refine ⟨hs ▸ accessKey_eq_none_iff hl, hs ▸ accessKey_eq_shortKey_iff,
    hs ▸ accessKey_eq_keyCharacters_iff hl, fun t => hs ▸ eq_sanitize_iff, hs,
    hs ▸ sanitize_sanitize key, accessKey_congr (sanitize_sanitize key), ?_⟩
  intro other h
  exact accessKey_congr (sanitize_eq_sanitize_iff.2 h).symm

/-- A key with all that does not count in and around it, and with a line feed at the end. -/
theorem accessKey_sanitized_padded :
    let l : Limits := { keyLength := 8 }
    let key : Text := "\u00a0 \x00sk-\nabc_1\x7f\u2003\n".toList
    1 ≤ l.keyLength ∧ sanitize key = "sk-abc_1".toList ∧ accessKey l key = none := by
  intro l key
  have hl : 1 ≤ l.keyLength := by decide
  obtain ⟨hnone, -, -, -, hs, -⟩ := accessKey_sanitized l hl key
  refine ⟨hl, by decide, hnone.2 ?_⟩
  rw [← hs]
  decide

end CaseChart.Guard
