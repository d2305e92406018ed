import CaseChart.Chart.Lexeme
import CaseChart.Proofs.Text.Word

namespace CaseChart.Lexeme
open Text

def startsTag : Text → Bool
  | ':' :: ':' :: ':' :: c :: _ => isWord c
  | _ => false

def startsMarker : Text → Bool
  | '-' :: '-' :: c :: _ => isTip c
  | _ => false

theorem isTip_iff {c : Char} : isTip c = true ↔ (c = '>' ∨ c = '|') ∨ c = '-' := by
  simp only [isTip, Bool.or_eq_true, beq_iff_eq]

/-- Which lexemes are read in front of the text `r`. -/
inductive Leads (r : Text) : Lexeme → Prop
  | tag {n : Text} (hne : n ≠ []) (hn : ∀ c ∈ n, isWord c = true)
      (hr : ∀ c ∈ r.head?, isWord c = false) : Leads r (.tag n)
  | marker {tip : Char} (h : isTip tip = true) : Leads r (.marker tip)
  | word {w : Text} (hne : w ≠ []) (hw : ∀ c ∈ w, isWord c = true)
      (hr : ∀ c ∈ r.head?, isWord c = false) : Leads r (.word w)
  | mark {c : Char} (hc : isWord c = false) (ht : startsTag (c :: r) = false)
      (hm : startsMarker (c :: r) = false) : Leads r (.mark c)

/-- Induction along the lexemes of a text. -/
@[elab_as_elim]
theorem ofText_induction {P : Text → List Lexeme → Prop} (nil : P [] [])
    (cons : ∀ l r, Leads r l → P r (ofText r) → P (l.text ++ r) (l :: ofText r)) (t : Text) :
    P t (ofText t) := by
  fun_induction ofText t with
  | case1 => exact nil
  | case2 t h ih =>
    apply cons (.mark ':') (':' :: ':' :: t) (.mark (by decide) _ rfl) ih
    cases t with
    | nil => rfl
    | cons c t =>
      cases hc : isWord c with
      | false => exact hc
      | true => simp [hc] at h
  | case3 t h ih =>
    have hl : Leads (t.dropWhile isWord) (.tag (t.takeWhile isWord)) :=
      .tag (by simpa using h) (fun c hc => List.mem_takeWhile_imp hc)
        fun _ => eq_false_of_mem_head?_dropWhile
    have ht := cons _ _ hl ih
    rwa [text, List.cons_append, List.cons_append, List.cons_append,
      List.takeWhile_append_dropWhile] at ht
  | case4 c t h ih => exact cons (.marker c) t (.marker h) ih
  | case5 c t h ih =>
    exact cons (.mark '-') ('-' :: c :: t) (.mark (by decide) rfl (Bool.eq_false_iff.2 h)) ih
  | case6 c t _ _ h ih =>
    have hl : Leads (t.dropWhile isWord) (.word (c :: t.takeWhile isWord)) := by
      apply Leads.word (List.cons_ne_nil c _) _ fun _ => eq_false_of_mem_head?_dropWhile
      intro d hd
      rcases List.mem_cons.1 hd with rfl | hd
      · exact h
      · exact List.mem_takeWhile_imp hd
    have ht := cons _ _ hl ih
    rwa [text, List.cons_append, List.takeWhile_append_dropWhile] at ht
  | case7 c t hcolon hhyphen h ih =>
    apply cons (.mark c) t (.mark (Bool.eq_false_iff.2 h) _ _) ih
    · rw [startsTag.eq_def]
      split
      · next d s he =>
        obtain ⟨rfl, rfl⟩ := List.cons.inj he
        exact absurd rfl (hcolon _ rfl)
      · rfl
    · rw [startsMarker.eq_def]
      split
      · next d s he =>
        obtain ⟨rfl, rfl⟩ := List.cons.inj he
        exact absurd rfl (hhyphen _ _ rfl)
      · rfl

end CaseChart.Lexeme
