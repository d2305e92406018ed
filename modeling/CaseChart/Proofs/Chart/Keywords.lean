import CaseChart.Proofs.Chart.Facts
import CaseChart.Proofs.Chart.Spacing

namespace CaseChart.Lexeme
open Text

theorem startsWithWord_append {ls : List Lexeme} (h : startsWithWord ls = true)
    (ms : List Lexeme) : startsWithWord (ls ++ ms) = true := by
  fun_induction startsWithWord ls with
  | case1 => cases h
  | case2 w ls => rfl
  | case3 l ls hl ih =>
    obtain ⟨hb, hs⟩ := (Bool.and_eq_true _ _).mp h
    rw [List.cons_append, startsWithWord, hb, ih hs, Bool.and_self]
    exact hl

theorem namesNext_append {ls : List Lexeme} (h : namesNext ls = true) (ms : List Lexeme) :
    namesNext (ls ++ ms) = true := by
  cases ls with
  | nil => cases h
  | cons l ls =>
    obtain ⟨hb, hs⟩ := (Bool.and_eq_true _ _).mp h
    rw [List.cons_append, namesNext, hb, startsWithWord_append hs, Bool.and_self]

/-- A keyword that has its name keeps it, whatever follows. -/
theorem countNamed_append_le (keyword : Text) (ls ms : List Lexeme) :
    countNamed keyword ls + countNamed keyword ms ≤ countNamed keyword (ls ++ ms) := by
  induction ls with
  | nil => exact Nat.le_of_eq (Nat.zero_add _)
  | cons l ls ih =>
    cases l with
    | word w =>
      rw [List.cons_append, countNamed, countNamed]
      have hnames : (if w.map Char.toLower = keyword ∧ namesNext ls then 1 else 0) ≤
          if w.map Char.toLower = keyword ∧ namesNext (ls ++ ms) then 1 else 0 := by
        split
        · next h => rw [if_pos ⟨h.1, namesNext_append h.2 ms⟩]
        · exact Nat.zero_le _
      omega
    | tag n => exact ih
    | marker c => exact ih
    | mark c => exact ih

section Blank
variable {ms : List Lexeme} (hm : ∀ m ∈ ms, m.isBlank = true)
include hm

theorem startsWithWord_of_isBlank : startsWithWord ms = false := by
  induction ms with
  | nil => rfl
  | cons m ms ih =>
    have hms := ih fun l hl => hm l (List.mem_cons_of_mem m hl)
    cases m with
    | word w => exact absurd (hm _ List.mem_cons_self) (by simp [Lexeme.isBlank])
    | tag n => rfl
    | marker c => rfl
    | mark c => exact (Bool.and_eq_false_imp ..).2 fun _ => hms

theorem startsWithWord_append_of_isBlank (ls : List Lexeme) :
    startsWithWord (ls ++ ms) = startsWithWord ls := by
  fun_induction startsWithWord ls with
  | case1 => exact startsWithWord_of_isBlank hm
  | case2 w ls => rfl
  | case3 l ls hl ih =>
    rw [List.cons_append, startsWithWord, ih]
    exact hl

theorem namesNext_append_of_isBlank (ls : List Lexeme) :
    namesNext (ls ++ ms) = namesNext ls := by
  cases ls with
  | nil =>
    cases ms with
    | nil => rfl
    | cons m ms =>
      have hms := startsWithWord_of_isBlank fun l hl => hm l (List.mem_cons_of_mem m hl)
      exact (Bool.and_eq_false_imp ..).2 fun _ => hms
  | cons l ls => rw [List.cons_append, namesNext, namesNext, startsWithWord_append_of_isBlank hm]

theorem countNamed_of_isBlank_append (keyword : Text) (ls : List Lexeme) :
    countNamed keyword (ms ++ ls) = countNamed keyword ls := by
  induction ms with
  | nil => rfl
  | cons m ms ih =>
    have hms := ih fun l hl => hm l (List.mem_cons_of_mem m hl)
    cases m with
    | word w => exact absurd (hm _ List.mem_cons_self) (by simp [Lexeme.isBlank])
    | tag n => exact hms
    | marker c => exact hms
    | mark c => exact hms

theorem countNamed_append_of_isBlank (keyword : Text) (ls : List Lexeme) :
    countNamed keyword (ls ++ ms) = countNamed keyword ls := by
  induction ls with
  | nil =>
    have h := countNamed_of_isBlank_append hm keyword []
    rwa [List.append_nil] at h
  | cons l ls ih =>
    cases l with
    | word w =>
      rw [List.cons_append, countNamed, countNamed, namesNext_append_of_isBlank hm, ih]
    | tag n => exact ih
    | marker c => exact ih
    | mark c => exact ih

end Blank

theorem isBlank_of_mem_ofText {b : Text} (hb : isBlankText b = true) :
    ∀ l ∈ ofText b, l.isBlank = true := by
  intro l hl
  have hv := visible_of_isBlankText hb
  rw [visible, List.filter_eq_nil_iff] at hv
  simpa using hv l hl

def named (keyword t : Text) : Nat := countNamed keyword (ofText t)

theorem named_append_cons_le {c : Char} (hc : standsAlone c = true) (keyword a b : Text) :
    named keyword a + named keyword b ≤ named keyword (a ++ c :: b) := by
  have h := countNamed_append_le keyword (ofText a) (mark c :: ofText b)
  rwa [← ofText_append_cons hc] at h

theorem named_le_append_cons {c : Char} (hc : standsAlone c = true) (keyword a b : Text) :
    named keyword b ≤ named keyword (a ++ c :: b) :=
  (Nat.le_add_left _ _).trans (named_append_cons_le hc keyword a b)

theorem named_append_of_isBlankText_left {b : Text} (hb : isBlankText b = true)
    (keyword t : Text) : named keyword (b ++ t) = named keyword t := by
  rcases List.eq_nil_or_concat b with rfl | ⟨a, c, rfl⟩
  · rfl
  · rw [List.concat_eq_append] at hb ⊢
    obtain ⟨ha, hc⟩ : isBlankText a = true ∧ Text.isBlank c = true := by
      simpa [isBlankText] using hb
    rw [List.append_assoc, named, List.singleton_append,
      ofText_append_cons (standsAlone_of_isBlank hc),
      countNamed_of_isBlank_append (isBlank_of_mem_ofText ha)]
    rfl

theorem named_append_of_isBlankText_right {b : Text} (hb : isBlankText b = true)
    (keyword t : Text) : named keyword (t ++ b) = named keyword t := by
  cases b with
  | nil => rw [List.append_nil]
  | cons c b =>
    obtain ⟨hc, hb⟩ : Text.isBlank c = true ∧ isBlankText b = true := by
      simpa [isBlankText] using hb
    have hm : ∀ m ∈ mark c :: ofText b, m.isBlank = true :=
      List.forall_mem_cons.2 ⟨hc, isBlank_of_mem_ofText hb⟩
    rw [named, ofText_append_cons (standsAlone_of_isBlank hc), countNamed_append_of_isBlank hm,
      named]

theorem named_trim (keyword t : Text) : named keyword (trim t) = named keyword t :=
  apply_trim (fun _ t hb => named_append_of_isBlankText_left hb keyword t)
    (fun _ t hb => named_append_of_isBlankText_right hb keyword t) t

theorem standsAlone_of_separator {c : Char} (h : (isTabOrSpace c || c == ';') = true) :
    standsAlone c = true := by
  rcases Bool.or_eq_true _ _ ▸ h with h | h
  · exact standsAlone_of_isBlank (isBlank_of_isTabOrSpace h)
  · rw [beq_iff_eq.1 h]
    decide

/-- Cutting a declaration off in front of a letter leaves no keyword behind that was not one: the
letter cannot go on the declaration. -/
theorem named_strip_le (keyword : Text) {t s : Text} {c : Char} (hs : Header.strip t = c :: s)
    (hc : isAsciiWord c = true) : named keyword (Header.strip t) ≤ named keyword t := by
  cases hr : Header.read? t with
  | none => rw [Header.strip_of_read?_eq_none hr]
  | some d =>
    obtain ⟨-, ht, -, -, hcont⟩ := Header.eq_append_of_read? hr
    have hdrop : Header.strip t = d.rest.dropWhile fun c => isTabOrSpace c || c == ';' := by
      rw [Header.strip, hr]
    have hrest := List.takeWhile_append_dropWhile (p := fun c => isTabOrSpace c || c == ';')
      (l := d.rest)
    rw [← hdrop] at hrest
    rcases List.eq_nil_or_concat (d.rest.takeWhile fun c => isTabOrSpace c || c == ';') with
      hnil | ⟨gap, x, hgap⟩
    · rw [hnil, List.nil_append, hs] at hrest
      rw [← hrest, Header.continuesWord, hc] at hcont
      cases hcont
    · have hx : (isTabOrSpace x || x == ';') = true := by
        refine List.mem_takeWhile_imp (l := d.rest) (p := fun c => isTabOrSpace c || c == ';') ?_
        rw [hgap, List.concat_eq_append]
        exact List.mem_append_right gap List.mem_cons_self
      have he : t = (d.header.keyword ++ (d.gap ++ (d.header.orientation ++ gap))) ++
          x :: Header.strip t := by
        conv_lhs => rw [ht, ← hrest, hgap]
        simp
      conv_rhs => rw [he]
      exact named_le_append_cons (standsAlone_of_separator hx) keyword _ _

/-- A keyword, in any case, with a name after it. -/
theorem one_le_named {keyword w t : Text} (hw : w.map Char.toLower = keyword) (hne : w ≠ [])
    (hword : ∀ c ∈ w, isWord c = true) (ht : Facts.isNamed t = true) :
    1 ≤ named keyword (w ++ t) := by
  have hhead : ∀ c ∈ t.head?, isWord c = false := by
    intro c hc
    have hb := ((Bool.and_eq_true _ _).mp ht).1
    rw [Option.mem_def.1 hc] at hb
    exact isWord_eq_false_of_isBlank hb
  have h := (Leads.word hne hword hhead).ofText_append
  have htext : (Lexeme.word w).text = w := rfl
  rw [htext] at h
  rw [named, h, countNamed, namesNext_ofText, if_pos ⟨hw, ht⟩]
  exact Nat.le_add_right _ _

end CaseChart.Lexeme
