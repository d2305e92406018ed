import CaseChart.Text.Margin
import CaseChart.Proofs.Text.Trim
import Mathlib.Data.List.Forall2

namespace CaseChart.Text

theorem map_eq_self {α : Type} {f : α → α} {as : List α} (h : ∀ a ∈ as, f a = a) :
    as.map f = as := by
  conv_rhs => rw [← List.map_id as]
  exact List.map_congr_left h

theorem commonStart_prefix_left (s t : Text) : commonStart s t <+: s := by
  fun_induction commonStart s t with
  | case1 a s t ih => exact List.cons_prefix_cons.2 ⟨rfl, ih⟩
  | case2 => exact List.nil_prefix
  | case3 => exact List.nil_prefix

theorem commonStart_prefix_right (s t : Text) : commonStart s t <+: t := by
  fun_induction commonStart s t with
  | case1 a s t ih => exact List.cons_prefix_cons.2 ⟨rfl, ih⟩
  | case2 => exact List.nil_prefix
  | case3 => exact List.nil_prefix

theorem commonStart_append (p s t : Text) :
    commonStart (p ++ s) (p ++ t) = p ++ commonStart s t := by
  induction p with
  | nil => rfl
  | cons c p ih =>
    rw [List.cons_append, List.cons_append, commonStart, if_pos rfl, ih, List.cons_append]

theorem foldl_commonStart_prefix_all (m : Text) (ms : List Text) :
    ms.foldl commonStart m <+: m ∧ ∀ x ∈ ms, ms.foldl commonStart m <+: x := by
  induction ms generalizing m with
  | nil => exact ⟨List.prefix_rfl, by simp⟩
  | cons x ms ih =>
    obtain ⟨h, hs⟩ := ih (commonStart m x)
    refine ⟨h.trans (commonStart_prefix_left m x), ?_⟩
    intro y hy
    rcases List.mem_cons.1 hy with rfl | hy
    · exact h.trans (commonStart_prefix_right m y)
    · exact hs y hy

theorem prefix_commonStart {p s t : Text} (hs : p <+: s) (ht : p <+: t) :
    p <+: commonStart s t := by
  obtain ⟨u, rfl⟩ := hs
  obtain ⟨v, rfl⟩ := ht
  rw [commonStart_append]
  exact List.prefix_append p _

theorem prefix_foldl_commonStart {p m : Text} {ms : List Text} (hm : p <+: m)
    (hms : ∀ x ∈ ms, p <+: x) : p <+: ms.foldl commonStart m := by
  induction ms generalizing m with
  | nil => exact hm
  | cons x ms ih =>
    have hx : p <+: commonStart m x := prefix_commonStart hm (hms x List.mem_cons_self)
    exact ih hx fun y hy => hms y (List.mem_cons_of_mem x hy)

theorem foldl_commonStart_append (p m : Text) (ms : List Text) :
    (ms.map (p ++ ·)).foldl commonStart (p ++ m) = p ++ ms.foldl commonStart m := by
  induction ms generalizing m with
  | nil => rfl
  | cons x ms ih => rw [List.map_cons, List.foldl_cons, commonStart_append, ih, List.foldl_cons]

theorem margin_prefix_line (l : Text) : margin l <+: l := List.takeWhile_prefix isTabOrSpace

def IsMargin (p : Text) : Prop := ∀ c ∈ p, isTabOrSpace c = true

instance (p : Text) : Decidable (IsMargin p) :=
  inferInstanceAs (Decidable (∀ c ∈ p, isTabOrSpace c = true))

theorem IsMargin.isBlankText {p : Text} (h : IsMargin p) : isBlankText p = true :=
  List.all_eq_true.2 fun c hc => isBlank_of_isTabOrSpace (h c hc)

theorem isMargin_margin (l : Text) : IsMargin (margin l) := fun _ hc => List.mem_takeWhile_imp hc

theorem margin_append {p : Text} (h : IsMargin p) (l : Text) : margin (p ++ l) = p ++ margin l :=
  List.takeWhile_append_of_pos h

theorem IsMargin.prefix_margin {p l : Text} (hp : IsMargin p) (h : p <+: l) : p <+: margin l := by
  obtain ⟨r, rfl⟩ := h
  rw [margin_append hp]
  exact List.prefix_append p _

def margins (ls : List Text) : List Text := (ls.filter (!·.isEmpty)).map margin

theorem mem_margins_iff {ls : List Text} {m : Text} :
    m ∈ margins ls ↔ ∃ l ∈ ls, l ≠ [] ∧ margin l = m := by
  simp only [margins, List.mem_map, List.mem_filter, Bool.not_eq_true', List.isEmpty_eq_false_iff,
    and_assoc]

theorem commonMargin_of_margins_eq_nil {ls : List Text} (h : margins ls = []) :
    commonMargin ls = [] := by
  unfold margins at h
  rw [commonMargin, h]

theorem commonMargin_of_margins_eq_cons {ls : List Text} {m : Text} {ms : List Text}
    (h : margins ls = m :: ms) : commonMargin ls = ms.foldl commonStart m := by
  unfold margins at h
  rw [commonMargin, h]

theorem commonMargin_prefix_margin {ls : List Text} {l : Text} (hl : l ∈ ls) (hne : l ≠ []) :
    commonMargin ls <+: margin l := by
  have hm : margin l ∈ margins ls := mem_margins_iff.2 ⟨l, hl, hne, rfl⟩
  cases h : margins ls with
  | nil => simp [h] at hm
  | cons m ms =>
    rw [commonMargin_of_margins_eq_cons h]
    obtain ⟨hfst, hrest⟩ := foldl_commonStart_prefix_all m ms
    rcases List.mem_cons.1 (h ▸ hm) with rfl | hx
    · exact hfst
    · exact hrest _ hx

/-- Every margin that the lines share is part of their common one. -/
theorem prefix_commonMargin {p : Text} (hp : IsMargin p) {ls : List Text}
    (hne : ∃ l ∈ ls, l ≠ []) (h : ∀ l ∈ ls, l ≠ [] → p <+: l) : p <+: commonMargin ls := by
  have hall : ∀ m ∈ margins ls, p <+: m := by
    intro m hm
    obtain ⟨l, hl, hl', rfl⟩ := mem_margins_iff.1 hm
    exact hp.prefix_margin (h l hl hl')
  cases hms : margins ls with
  | nil =>
    obtain ⟨l, hl, hl'⟩ := hne
    have hm := mem_margins_iff.2 ⟨l, hl, hl', rfl⟩
    simp [hms] at hm
  | cons m ms =>
    rw [hms] at hall
    rw [commonMargin_of_margins_eq_cons hms]
    exact prefix_foldl_commonStart (hall m List.mem_cons_self)
      fun x hx => hall x (List.mem_cons_of_mem m hx)

theorem isMargin_commonMargin (ls : List Text) : IsMargin (commonMargin ls) := by
  cases h : margins ls with
  | nil => simp [commonMargin_of_margins_eq_nil h, IsMargin]
  | cons m ms =>
    obtain ⟨l, -, -, rfl⟩ := mem_margins_iff.1 (h ▸ List.mem_cons_self : m ∈ margins ls)
    rw [commonMargin_of_margins_eq_cons h]
    intro c hc
    exact isMargin_margin l c ((foldl_commonStart_prefix_all _ ms).1.mem hc)

def shift (p : Text) (ls : List Text) : List Text := ls.map fun l => if l = [] then [] else p ++ l

theorem margins_shift {p : Text} (hp : IsMargin p) (ls : List Text) :
    margins (shift p ls) = (margins ls).map (p ++ ·) := by
  induction ls with
  | nil => rfl
  | cons l ls ih =>
    unfold margins shift at ih ⊢
    cases l with
    | nil => simpa using ih
    | cons c l => simp [ih, margin_append hp]

theorem commonMargin_shift {p : Text} (hp : IsMargin p) {ls : List Text} (h : margins ls ≠ []) :
    commonMargin (shift p ls) = p ++ commonMargin ls := by
  obtain ⟨m, ms, hm⟩ := List.exists_cons_of_ne_nil h
  have hs : margins (shift p ls) = (p ++ m) :: ms.map (p ++ ·) := by
    rw [margins_shift hp, hm, List.map_cons]
  rw [commonMargin_of_margins_eq_cons hs, commonMargin_of_margins_eq_cons hm,
    foldl_commonStart_append]

/-- Lines without white space at their ends. Those of white space only are empty then. -/
def Tidy (ls : List Text) : Prop := ∀ l ∈ ls, trimRight l = l

theorem Tidy.eq_nil {ls : List Text} (h : Tidy ls) {l : Text} (hl : l ∈ ls)
    (hb : isBlankText l = true) : l = [] := h l hl ▸ trimRight_eq_nil_iff.2 hb

theorem dedent_of_tidy {ls : List Text} (h : Tidy ls) :
    dedent ls = ls.map (List.drop (commonMargin ls).length) := by
  have hc : (ls.map fun l => if l.all isTabOrSpace then [] else l) = ls := by
    apply map_eq_self
    intro l hl
    split
    · next hm => exact (h.eq_nil hl (IsMargin.isBlankText (List.all_eq_true.1 hm))).symm
    · rfl
  simp only [dedent, hc]

theorem indent_of_tidy {ls : List Text} (h : Tidy ls) (p : Text) : indent p ls = shift p ls := by
  apply List.map_congr_left
  intro l hl
  by_cases hb : isBlankText l = true
  · rw [if_pos hb, if_pos (h.eq_nil hl hb), h.eq_nil hl hb]
  · rw [if_neg hb, if_neg]
    rintro rfl
    exact hb rfl

theorem drop_commonMargin {ls : List Text} {l : Text} (hl : l ∈ ls) (hne : l ≠ []) :
    l = commonMargin ls ++ l.drop (commonMargin ls).length :=
  (List.prefix_iff_eq_append.1
    ((commonMargin_prefix_margin hl hne).trans (margin_prefix_line l))).symm

theorem trim_drop_commonMargin {ls : List Text} {l : Text} (hl : l ∈ ls) :
    trim (l.drop (commonMargin ls).length) = trim l := by
  by_cases hne : l = []
  · rw [hne, List.drop_nil]
  · conv_rhs => rw [drop_commonMargin hl hne]
    rw [trim_append_of_isBlankText (isMargin_commonMargin ls).isBlankText]

theorem shift_dedent {ls : List Text} (h : Tidy ls) : shift (commonMargin ls) (dedent ls) = ls := by
  rw [dedent_of_tidy h, shift, List.map_map]
  apply map_eq_self
  intro l hl
  by_cases hne : l = []
  · subst hne
    simp
  · have hd := drop_commonMargin hl hne
    have hdne : l.drop (commonMargin ls).length ≠ [] := by
      intro h0
      rw [h0, List.append_nil] at hd
      exact hne (h.eq_nil hl (hd ▸ (isMargin_commonMargin ls).isBlankText))
    rw [Function.comp_apply, if_neg hdne]
    exact hd.symm

theorem tidy_dedent {ls : List Text} (h : Tidy ls) : Tidy (dedent ls) := by
  rw [dedent_of_tidy h]
  intro l hl
  obtain ⟨k, hk, rfl⟩ := List.mem_map.1 hl
  exact trimRight_eq_self_of_suffix (List.drop_suffix _ k) (h k hk)

theorem commonMargin_dedent {ls : List Text} (h : Tidy ls) : commonMargin (dedent ls) = [] := by
  by_cases hm : margins (dedent ls) = []
  · exact commonMargin_of_margins_eq_nil hm
  · -- the margin of the lines is itself, followed by what the dedented lines still share
    have hs := commonMargin_shift (isMargin_commonMargin ls) hm
    rw [shift_dedent h] at hs
    exact List.self_eq_append_right.1 hs

theorem tidy_map_trimRight (ls : List Text) : Tidy (ls.map trimRight) := by
  intro l hl
  obtain ⟨k, -, rfl⟩ := List.mem_map.1 hl
  exact trimRight_trimRight k

/-- The lines `bs` are left of the lines `ls` when the margin `w` and the white space at their ends
is taken away. No longer margin is in front of all lines that are not blank. -/
structure Outdented (w : Text) (ls bs : List Text) : Prop where
  margin : IsMargin w
  lines : List.Forall₂ (fun l b => if isBlankText l then b = [] else trimRight l = w ++ b) ls bs
  longest : ∀ v, IsMargin v → (∀ l ∈ ls, isBlankText l = false → v <+: trimRight l) → v <+: w

theorem outdented_dedent {ls : List Text} (hne : ∃ l ∈ ls, isBlankText l = false) :
    Outdented (commonMargin (ls.map trimRight)) ls (dedent (ls.map trimRight)) where
  margin := isMargin_commonMargin _
  lines := by
    rw [dedent_of_tidy (tidy_map_trimRight ls), List.map_map, List.forall₂_map_right_iff,
      List.forall₂_same]
    intro l hl
    split
    · next hb => rw [Function.comp_apply, trimRight_eq_nil_iff.2 hb, List.drop_nil]
    · next hb =>
      exact drop_commonMargin (List.mem_map_of_mem hl) (mt trimRight_eq_nil_iff.1 hb)
  longest v hv h := by
    obtain ⟨l, hl, hb⟩ := hne
    refine prefix_commonMargin hv ⟨trimRight l, List.mem_map_of_mem hl, ?_⟩ ?_
    · exact mt trimRight_eq_nil_iff.1 (by simp [hb])
    · intro k hk hkne
      obtain ⟨m, hm, rfl⟩ := List.mem_map.1 hk
      exact h m hm (Bool.eq_false_iff.2 (mt trimRight_eq_nil_iff.2 hkne))

theorem trim_indent {p l : Text} (hp : IsMargin p) :
    trim (if isBlankText l then l else p ++ l) = trim l := by
  split
  · rfl
  · exact trim_append_of_isBlankText hp.isBlankText l

theorem Tidy.shift {ls : List Text} (h : Tidy ls) (p : Text) : Tidy (shift p ls) := by
  intro l hl
  obtain ⟨k, hk, rfl⟩ := List.mem_map.1 hl
  split
  · rfl
  · next hne => exact trimRight_append_eq_self hne (h k hk)

theorem dedent_shift {p : Text} (hp : IsMargin p) {ls : List Text} (h : Tidy ls)
    (hm : commonMargin ls = []) : dedent (shift p ls) = ls := by
  have hd : dedent (shift p ls) = (shift p ls).map (List.drop (commonMargin (shift p ls)).length) :=
    dedent_of_tidy (h.shift p)
  rw [hd]
  conv_lhs => rw [shift, List.map_map]
  apply map_eq_self
  intro l hl
  by_cases hne : l = []
  · subst hne
    simp
  · have hms : margins ls ≠ [] := by
      intro h0
      have hl' := mem_margins_iff.2 ⟨l, hl, hne, rfl⟩
      simp [h0] at hl'
    have hw : commonMargin (shift p ls) = p := by
      rw [commonMargin_shift hp hms, hm, List.append_nil]
    rw [Function.comp_apply, if_neg hne]
    change List.drop (commonMargin (shift p ls)).length (p ++ l) = l
    rw [hw, List.drop_left]

/-- A block that was dedented comes back from any other indentation. -/
theorem dedent_indent {p : Text} (hp : IsMargin p) {ls : List Text} (h : Tidy ls)
    (hm : commonMargin ls = []) : dedent (indent p ls) = ls := by
  rw [indent_of_tidy h, dedent_shift hp h hm]

end CaseChart.Text
