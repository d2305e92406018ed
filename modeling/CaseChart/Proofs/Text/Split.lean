import CaseChart.Text.Basic
import Mathlib.Data.List.Basic

namespace CaseChart.Text

variable {sep : Char}

theorem split_ne_nil (sep : Char) (t : Text) : split sep t ≠ [] := by
  cases t with
  | nil => exact List.cons_ne_nil _ _
  | cons c t =>
    rw [split]
    split
    · exact List.cons_ne_nil _ _
    · split <;> exact List.cons_ne_nil _ _

theorem split_sep_cons (sep : Char) (t : Text) : split sep (sep :: t) = [] :: split sep t := by
  obtain ⟨p, ps, h⟩ := List.exists_cons_of_ne_nil (split_ne_nil sep t)
  rw [split, h]
  exact if_pos rfl

theorem split_cons_of_ne {c : Char} (hc : c ≠ sep) {t p : Text} {ps : List Text}
    (h : split sep t = p :: ps) : split sep (c :: t) = (c :: p) :: ps := by
  rw [split, h]
  exact if_neg hc

theorem split_of_not_mem {t : Text} (h : sep ∉ t) : split sep t = [t] := by
  induction t with
  | nil => rfl
  | cons c t ih =>
    have hc : c ≠ sep := fun he => h (he ▸ List.mem_cons_self)
    exact split_cons_of_ne hc (ih fun hm => h (List.mem_cons_of_mem c hm))

theorem split_append_of_not_mem {s t p : Text} {ps : List Text} (hs : sep ∉ s)
    (h : split sep t = p :: ps) : split sep (s ++ t) = (s ++ p) :: ps := by
  induction s with
  | nil => exact h
  | cons c s ih =>
    have hc : c ≠ sep := fun he => hs (he ▸ List.mem_cons_self)
    exact split_cons_of_ne hc (ih fun hm => hs (List.mem_cons_of_mem c hm))

theorem split_append_sep (s t : Text) : split sep (s ++ sep :: t) = split sep s ++ split sep t := by
  induction s with
  | nil => exact split_sep_cons sep t
  | cons c s ih =>
    by_cases hc : c = sep
    · subst hc
      rw [List.cons_append, split_sep_cons, split_sep_cons, ih, List.cons_append]
    · obtain ⟨p, ps, h⟩ := List.exists_cons_of_ne_nil (split_ne_nil sep s)
      rw [h, List.cons_append] at ih
      rw [List.cons_append, split_cons_of_ne hc ih, split_cons_of_ne hc h, List.cons_append]

/-- Parts without separators in them come back from the text that they are joined to. -/
theorem split_join {ts : List Text} (hne : ts ≠ []) (h : ∀ t ∈ ts, sep ∉ t) :
    split sep (join [sep] ts) = ts := by
  induction ts with
  | nil => exact absurd rfl hne
  | cons t ts ih =>
    have ht : split sep t = [t] := split_of_not_mem (h t List.mem_cons_self)
    cases ts with
    | nil => exact ht
    | cons u us =>
      have hrest := ih (List.cons_ne_nil u us) fun v hv => h v (List.mem_cons_of_mem t hv)
      rw [join_cons_cons, List.singleton_append, split_append_sep, ht, hrest, List.singleton_append]

/-- What keeps separators in their places works on the parts. -/
theorem split_map {f : Text → Text} (hf : ∀ s t, f (s ++ sep :: t) = f s ++ sep :: f t)
    (hsep : ∀ t, sep ∉ t → sep ∉ f t) (t : Text) :
    split sep (f t) = (split sep t).map f := by
  by_cases h : sep ∈ t
  · obtain ⟨s, r, rfl, hs⟩ := List.eq_append_cons_of_mem h
    have hr : r.length < (s ++ sep :: r).length := by
      rw [List.length_append, List.length_cons]
      omega
    rw [hf, split_append_sep, split_append_sep, List.map_append, split_map hf hsep r,
      split_of_not_mem hs, split_of_not_mem (hsep s hs)]
    rfl
  · rw [split_of_not_mem h, split_of_not_mem (hsep t h)]
    rfl
  termination_by t.length

end CaseChart.Text
