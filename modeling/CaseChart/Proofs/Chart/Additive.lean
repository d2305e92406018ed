import CaseChart.Proofs.Chart.Keywords

namespace CaseChart
open Text

namespace Facts

/-- The first character opens a label that is closed only in `t`. -/
def reaches (t : Text) : Text → Bool
  | '[' :: u => u.all isInside && labelEnds (!isBlankText u) t
  | _ => false

/-- A label that is not blank opens in `s` and is closed in `t`. -/
def LabelAcross (s t : Text) : Prop := ∃ b u v r, s = b ++ '[' :: u ∧ t = v ++ ']' :: r ∧
  (∀ c ∈ u ++ v, c ≠ '[' ∧ c ≠ ']') ∧ isBlankText (u ++ v) = false

/-- Whether a label ends is settled by the first bracket. -/
theorem labelEnds_append_of_closed {u : Text} (hu : u.all isInside = false) (seen : Bool)
    (t : Text) : labelEnds seen (u ++ t) = labelEnds seen u := by
  have hne : u.dropWhile isInside ≠ [] := by
    rw [ne_eq, List.dropWhile_eq_nil_iff, ← List.all_eq_true, hu]
    exact Bool.false_ne_true
  have hdrop : (u ++ t).dropWhile isInside = u.dropWhile isInside ++ t := by
    rw [List.dropWhile_append, if_neg (by simpa using hne)]
  have htake : (u ++ t).takeWhile isInside = u.takeWhile isInside := by
    have hcut : (u ++ t).takeWhile isInside ++ (u.dropWhile isInside ++ t) =
        u.takeWhile isInside ++ (u.dropWhile isInside ++ t) := by
      rw [← hdrop, List.takeWhile_append_dropWhile, hdrop, ← List.append_assoc,
        List.takeWhile_append_dropWhile]
    exact List.append_cancel_right hcut
  rw [labelEnds, hdrop, htake, List.head?_append_of_ne_nil _ hne, labelEnds]

theorem isLabel_append (c : Char) (s t : Text) :
    (if isLabel (c :: s ++ t) then 1 else 0) =
      (if isLabel (c :: s) then 1 else 0) + if reaches t (c :: s) then 1 else 0 := by
  by_cases hc : c = '['
  · subst hc
    rw [List.cons_append, isLabel, isLabel, reaches]
    cases hs : s.all isInside with
    | false => simp [labelEnds_append_of_closed hs]
    | true =>
      have hin := List.all_eq_true.1 hs
      have hopen : labelEnds false s = false := by
        have h := labelEnds_append hin false []
        rw [List.append_nil] at h
        rw [h]
        rfl
      simp [labelEnds_append hin, hopen]
  · rw [List.cons_append, isLabel.eq_def, isLabel.eq_def, reaches.eq_def]
    simp [hc]

/-- The labels of a text are those of its parts, and those that go across. -/
theorem countP_isLabel_tails_append (s t : Text) : (s ++ t).tails.countP isLabel =
    s.tails.countP isLabel + t.tails.countP isLabel + s.tails.countP (reaches t) := by
  induction s with
  | nil => simp [isLabel, reaches]
  | cons c s ih =>
    have hc := isLabel_append c s t
    rw [List.cons_append] at hc
    rw [List.cons_append, List.tails_cons, List.tails_cons, List.countP_cons, List.countP_cons,
      List.countP_cons, hc, ih]
    omega

theorem countP_reaches_of_inside {s : Text} (hs : ∀ c ∈ s, isInside c = true) (t : Text) :
    s.tails.countP (reaches t) = 0 := by
  rw [List.countP_eq_zero]
  intro u hu
  rw [List.mem_tails] at hu
  rw [reaches.eq_def]
  split
  · next v => exact absurd (hs '[' (hu.mem List.mem_cons_self)) (by decide)
  · simp

theorem countP_reaches_le (s t : Text) : s.tails.countP (reaches t) ≤ 1 := by
  induction s with
  | nil => simp [reaches]
  | cons c s ih =>
    rw [List.tails_cons, List.countP_cons]
    split
    · next h =>
      -- nothing opens behind the bracket
      have hs : ∀ d ∈ s, isInside d = true := by
        rw [reaches.eq_def] at h
        split at h
        · next u he =>
          obtain ⟨-, rfl⟩ := List.cons.inj he
          exact List.all_eq_true.1 ((Bool.and_eq_true _ _).mp h).1
        · exact absurd h (by simp)
      rw [countP_reaches_of_inside hs]
    · exact ih

theorem reaches_iff {t s : Text} : reaches t s = true ↔ ∃ u v r, s = '[' :: u ∧ t = v ++ ']' :: r ∧
    (∀ c ∈ u ++ v, c ≠ '[' ∧ c ≠ ']') ∧ isBlankText (u ++ v) = false := by
  have hblank : ∀ u v : Text, (!isBlankText u || !isBlankText v) = true ↔
      isBlankText (u ++ v) = false := by
    intro u v
    rw [isBlankText, isBlankText, isBlankText, List.all_append]
    cases u.all isBlank <;> simp
  simp only [← isInside_iff, List.forall_mem_append, ← hblank]
  constructor
  · intro h
    rw [reaches.eq_def] at h
    split at h
    · next u =>
      obtain ⟨hu, hends⟩ := (Bool.and_eq_true _ _).mp h
      obtain ⟨v, r, ht, hv, hseen⟩ := labelEnds_iff.1 hends
      exact ⟨u, v, r, rfl, ht, ⟨List.all_eq_true.1 hu, hv⟩, hseen⟩
    · exact absurd h (by simp)
  · rintro ⟨u, v, r, rfl, ht, ⟨hu, hv⟩, hseen⟩
    exact (Bool.and_eq_true _ _).mpr
      ⟨List.all_eq_true.2 hu, labelEnds_iff.2 ⟨v, r, ht, hv, hseen⟩⟩

theorem countP_reaches_eq_one_iff {s t : Text} :
    s.tails.countP (reaches t) = 1 ↔ LabelAcross s t := by
  have hle := countP_reaches_le s t
  have hpos : s.tails.countP (reaches t) = 1 ↔ 0 < s.tails.countP (reaches t) := by omega
  rw [hpos, List.countP_pos_iff]
  constructor
  · rintro ⟨w, hw, h⟩
    obtain ⟨b, rfl⟩ := (List.mem_tails _ _).1 hw
    obtain ⟨u, v, r, rfl, hrest⟩ := reaches_iff.1 h
    exact ⟨b, u, v, r, rfl, hrest⟩
  · rintro ⟨b, u, v, r, rfl, hrest⟩
    exact ⟨'[' :: u, (List.mem_tails _ _).2 (List.suffix_append b _),
      reaches_iff.2 ⟨u, v, r, rfl, hrest⟩⟩

theorem reaches_newline (t : Text) : reaches ('\n' :: t) = reaches t := by
  funext s
  rw [reaches.eq_def, reaches.eq_def]
  split
  · next u =>
    have h := labelEnds_append (w := ['\n']) (by decide) (!isBlankText u) t
    have hb : isBlankText ['\n'] = true := by decide
    rw [hb, Bool.not_true, Bool.or_false] at h
    rw [← h]
    rfl
  · rfl

theorem labels_append_newline (s t : Text) : (ofText (s ++ '\n' :: t)).labels =
    (ofText s).labels + (ofText t).labels + s.tails.countP (reaches t) := by
  have hnewline : ('\n' :: t).tails.countP isLabel = t.tails.countP isLabel :=
    countP_isLabel_append (w := ['\n']) (by decide) t
  rw [labels_eq_countP, labels_eq_countP, labels_eq_countP, countP_isLabel_tails_append, hnewline,
    reaches_newline]

end Facts

namespace Lexeme

/-- The last of some lexemes, but for white space, is a word that reads `keyword`. -/
def awaitsName (keyword : Text) : List Lexeme → Bool
  | [] => false
  | word w :: ls => ls.all isBlank && w.map Char.toLower == keyword || awaitsName keyword ls
  | _ :: ls => awaitsName keyword ls

theorem awaitsName_of_isBlank (keyword : Text) {ls : List Lexeme}
    (h : ls.all Lexeme.isBlank = true) : awaitsName keyword ls = false := by
  induction ls with
  | nil => rfl
  | cons l ls ih =>
    obtain ⟨hl, hls⟩ := (Bool.and_eq_true _ _).mp h
    cases l with
    | word w => cases hl
    | tag n => cases hl
    | marker c => cases hl
    | mark c => exact ih hls

theorem awaitsName_iff {keyword : Text} {ls : List Lexeme} : awaitsName keyword ls = true ↔
    ∃ as w gap, ls = as ++ word w :: gap ∧ w.map Char.toLower = keyword ∧
      ∀ l ∈ gap, l.isBlank = true := by
  constructor
  · intro h
    fun_induction awaitsName keyword ls with
    | case1 => cases h
    | case2 w ls ih =>
      rcases (Bool.or_eq_true _ _).mp h with h | h
      · obtain ⟨hls, hw⟩ := (Bool.and_eq_true _ _).mp h
        exact ⟨[], w, ls, rfl, beq_iff_eq.1 hw, List.all_eq_true.1 hls⟩
      · obtain ⟨as, v, gap, rfl, hrest⟩ := ih h
        exact ⟨word w :: as, v, gap, rfl, hrest⟩
    | case3 l ls _ ih =>
      obtain ⟨as, v, gap, rfl, hrest⟩ := ih h
      exact ⟨l :: as, v, gap, rfl, hrest⟩
  · rintro ⟨as, w, gap, rfl, hw, hgap⟩
    induction as with
    | nil =>
      have hall : gap.all Lexeme.isBlank = true := List.all_eq_true.2 hgap
      simp [awaitsName, hall, hw]
    | cons l as ih =>
      rw [List.cons_append]
      cases l with
      | word v => rw [awaitsName, ih, Bool.or_true]
      | tag n => exact ih
      | marker c => exact ih
      | mark c => exact ih

section Break
variable {m : Lexeme} (hm : m.isBlank = true)
include hm

theorem startsWithWord_append_cons (ls ms : List Lexeme) : startsWithWord (ls ++ m :: ms) =
    (startsWithWord ls || (ls.all Lexeme.isBlank && startsWithWord ms)) := by
  induction ls with
  | nil =>
    cases m with
    | word w => cases hm
    | tag n => cases hm
    | marker c => cases hm
    | mark c => simp [startsWithWord, hm]
  | cons l ls ih =>
    cases l with
    | word w => rfl
    | tag n => rfl
    | marker c => rfl
    | mark c =>
      cases hc : (mark c).isBlank with
      | false => simp [startsWithWord, hc]
      | true => simpa [startsWithWord, hc] using ih

theorem namesNext_append_cons (ls ms : List Lexeme) : namesNext (ls ++ m :: ms) =
    (namesNext ls || (ls.all Lexeme.isBlank && startsWithWord ms)) := by
  cases ls with
  | nil => simp [namesNext, hm]
  | cons l ls =>
    rw [List.cons_append, namesNext, namesNext, startsWithWord_append_cons hm, List.all_cons]
    cases l.isBlank <;> rfl

/-- A keyword at the end gets its name from behind the white space. -/
theorem countNamed_append_cons (keyword : Text) (ls ms : List Lexeme) :
    countNamed keyword (ls ++ m :: ms) = countNamed keyword ls + countNamed keyword ms +
      if awaitsName keyword ls && startsWithWord ms then 1 else 0 := by
  induction ls with
  | nil =>
    have hblank : ∀ l ∈ [m], l.isBlank = true := by simpa using hm
    have h := countNamed_of_isBlank_append hblank keyword ms
    simpa [countNamed, awaitsName] using h
  | cons l ls ih =>
    cases l with
    | word w =>
      rw [List.cons_append, countNamed, countNamed, awaitsName, ih, namesNext_append_cons hm]
      cases hall : ls.all Lexeme.isBlank with
      | false => simp; omega
      | true =>
        have hnames : namesNext ls = false := by
          have h := namesNext_append_of_isBlank (List.all_eq_true.1 hall) []
          rw [List.nil_append] at h
          rw [h]
          rfl
        rw [hnames, awaitsName_of_isBlank keyword hall]
        simp
        omega
    | tag n => exact ih
    | marker c => exact ih
    | mark c => exact ih

end Break
end Lexeme

namespace Facts

/-- A keyword without a name is the last in `s`, but for white space, and an identifier is the first
in `t`. -/
def NameAcross (keyword s t : Text) : Prop :=
  (∃ ls w gap, Lexeme.ofText s = ls ++ .word w :: gap ∧ w.map Char.toLower = keyword ∧
      ∀ l ∈ gap, l.isBlank = true) ∧
    ∃ gap c r, t = gap ++ c :: r ∧ isBlankText gap = true ∧ isWord c = true

theorem startsWithWord_ofText_iff {t : Text} : Lexeme.startsWithWord (Lexeme.ofText t) = true ↔
    ∃ gap c r, t = gap ++ c :: r ∧ isBlankText gap = true ∧ isWord c = true := by
  rw [Lexeme.startsWithWord_ofText, any_isWord_dropWhile_iff]

theorem named_append_newline (keyword s t : Text) :
    ∃ n, Lexeme.named keyword (s ++ '\n' :: t) =
      Lexeme.named keyword s + Lexeme.named keyword t + n ∧ n ≤ 1 ∧
      (n = 1 ↔ NameAcross keyword s t) := by
  have hblank : (Lexeme.mark '\n').isBlank = true := by decide
  have halone : Lexeme.standsAlone '\n' = true := Lexeme.standsAlone_of_isBlank (by decide)
  refine ⟨if Lexeme.awaitsName keyword (Lexeme.ofText s) &&
    Lexeme.startsWithWord (Lexeme.ofText t) then 1 else 0, ?_, ?_, ?_⟩
  · rw [Lexeme.named, Lexeme.ofText_append_cons halone, Lexeme.countNamed_append_cons hblank]
    rfl
  · split <;> omega
  · rw [NameAcross, ← Lexeme.awaitsName_iff, ← startsWithWord_ofText_iff]
    simp

/-- A line break adds the facts of two texts up. A label can reach across it, and so can a keyword
and its name; each adds one, and nothing else is lost or found. -/
theorem facts_append_newline (s t : Text) :
    let whole := ofText (s ++ '\n' :: t)
    let first := ofText s
    let second := ofText t
    whole.tags = first.tags ++ second.tags ∧ whole.markers = first.markers + second.markers ∧
    whole.opens = first.opens + second.opens ∧ whole.closes = first.closes + second.closes ∧
    (∃ n, whole.labels = first.labels + second.labels + n ∧ n ≤ 1 ∧ (n = 1 ↔ LabelAcross s t)) ∧
    (∃ n, whole.groups = first.groups + second.groups + n ∧ n ≤ 1 ∧
      (n = 1 ↔ NameAcross "subgraph".toList s t)) ∧
    ∃ n, whole.styles = first.styles + second.styles + n ∧ n ≤ 1 ∧
      (n = 1 ↔ NameAcross "classdef".toList s t) := by
  have halone : Lexeme.standsAlone '\n' = true := Lexeme.standsAlone_of_isBlank (by decide)
  have hlexemes := Lexeme.ofText_append_cons halone s t
  refine ⟨?_, ?_, ?_, ?_, ?_, ?_, ?_⟩
  · rw [ofText, hlexemes]
    exact List.filterMap_append
  · rw [ofText, hlexemes]
    exact List.countP_append
  · rw [opens_eq_count, opens_eq_count, opens_eq_count, List.count_append]
    rfl
  · rw [closes_eq_count, closes_eq_count, closes_eq_count, List.count_append]
    rfl
  · exact ⟨_, labels_append_newline s t, countP_reaches_le s t, countP_reaches_eq_one_iff⟩
  · exact named_append_newline "subgraph".toList s t
  · exact named_append_newline "classdef".toList s t

end Facts
end CaseChart
