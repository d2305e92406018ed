import CaseChart.Entries
import Mathlib.Data.List.Nodup

namespace CaseChart.Entries

variable {κ α : Type}

def Distinct (es : List (κ × α)) : Prop := (es.map (·.1)).Nodup

theorem distinct_nil : Distinct ([] : List (κ × α)) := List.nodup_nil

theorem distinct_cons {e : κ × α} {es : List (κ × α)} :
    Distinct (e :: es) ↔ e.1 ∉ es.map (·.1) ∧ Distinct es := List.nodup_cons

theorem Distinct.filter {es : List (κ × α)} (h : Distinct es) (p : κ × α → Bool) :
    Distinct (es.filter p) :=
  List.Nodup.sublist (List.filter_sublist.map _) h

variable [DecidableEq κ]

theorem get?_cons (e : κ × α) (es : List (κ × α)) (key : κ) :
    get? key (e :: es) = if e.1 = key then some e.2 else get? key es := by
  by_cases h : e.1 = key
  · simp [get?, h]
  · simp [get?, h]

theorem get?_eq_none {es : List (κ × α)} {key : κ} (h : key ∉ es.map (·.1)) :
    get? key es = none := by
  induction es with
  | nil => rfl
  | cons e es ih =>
    rw [List.map_cons, List.mem_cons, not_or] at h
    rw [get?_cons, if_neg (Ne.symm h.1)]
    exact ih h.2

theorem get?_eq_some_of_forall {e : κ × α} {es : List (κ × α)} (he : e ∈ es)
    (h : ∀ e' ∈ es, e'.1 = e.1 → e' = e) : get? e.1 es = some e.2 := by
  induction es with
  | nil => cases he
  | cons f es ih =>
    rw [get?_cons]
    by_cases hf : f.1 = e.1
    · rw [if_pos hf, h f List.mem_cons_self hf]
    · rw [if_neg hf]
      have hes : e ∈ es := (List.mem_cons.1 he).resolve_left fun heq => hf (heq ▸ rfl)
      exact ih hes fun e' he' => h e' (List.mem_cons_of_mem _ he')

theorem mem_map_set_iff {k key : κ} {a : α} {es : List (κ × α)} :
    k ∈ (set key a es).map (·.1) ↔ k = key ∨ k ∈ es.map (·.1) := by
  induction es with
  | nil => simp [set]
  | cons e es ih =>
    by_cases h : e.1 = key
    · simp [set, h]
    · rw [set, if_neg h, List.map_cons, List.mem_cons, ih, List.map_cons, List.mem_cons]
      exact or_left_comm

theorem Distinct.set {es : List (κ × α)} (h : Distinct es) (key : κ) (a : α) :
    Distinct (set key a es) := by
  induction es with
  | nil => exact List.nodup_singleton _
  | cons e es ih =>
    obtain ⟨he, hes⟩ := distinct_cons.1 h
    by_cases hk : e.1 = key
    · rw [Entries.set, if_pos hk]
      exact distinct_cons.2 ⟨hk ▸ he, hes⟩
    · rw [Entries.set, if_neg hk]
      refine distinct_cons.2 ⟨?_, ih hes⟩
      rw [mem_map_set_iff, not_or]
      exact ⟨hk, he⟩

theorem get?_append (es fs : List (κ × α)) (key : κ) :
    get? key (es ++ fs) = (get? key es).or (get? key fs) := by
  rw [get?, List.find?_append, Option.map_or]
  rfl

theorem set_append_of_not_mem {key : κ} {es : List (κ × α)} (h : key ∉ es.map (·.1)) (a : α)
    (fs : List (κ × α)) : set key a (es ++ fs) = es ++ set key a fs := by
  induction es with
  | nil => rfl
  | cons e es ih =>
    rw [List.map_cons, List.mem_cons, not_or] at h
    rw [List.cons_append, set, if_neg (Ne.symm h.1), ih h.2, List.cons_append]

theorem set_of_not_mem {key : κ} {es : List (κ × α)} (h : key ∉ es.map (·.1)) (a : α) :
    set key a es = es ++ [(key, a)] := by
  have hset := set_append_of_not_mem h a []
  rwa [List.append_nil] at hset

def setAll (es fs : List (κ × α)) : List (κ × α) := fs.foldl (fun es f => set f.1 f.2 es) es

theorem setAll_cons (es : List (κ × α)) (f : κ × α) (fs : List (κ × α)) :
    setAll es (f :: fs) = setAll (set f.1 f.2 es) fs := rfl

/-- Of several values that are set under one key, the last one counts. -/
theorem get?_setAll (es fs : List (κ × α)) (key : κ) :
    get? key (setAll es fs) = (get? key fs.reverse).or (get? key es) := by
  induction fs generalizing es with
  | nil => rfl
  | cons f fs ih =>
    rw [setAll_cons, ih, List.reverse_cons, get?_append, Option.or_assoc, get?_cons]
    by_cases h : f.1 = key
    · rw [if_pos h, ← h, get?_set_self]
      rfl
    · rw [if_neg h, get?_set_of_ne (Ne.symm h)]
      rfl

theorem mem_map_setAll_iff {k : κ} {es fs : List (κ × α)} :
    k ∈ (setAll es fs).map (·.1) ↔ k ∈ es.map (·.1) ∨ k ∈ fs.map (·.1) := by
  induction fs generalizing es with
  | nil => simp [setAll]
  | cons f fs ih =>
    rw [setAll_cons, ih, mem_map_set_iff, List.map_cons, List.mem_cons, or_assoc]
    exact or_left_comm

theorem Distinct.setAll {es : List (κ × α)} (h : Distinct es) (fs : List (κ × α)) :
    Distinct (setAll es fs) := by
  induction fs generalizing es with
  | nil => exact h
  | cons f fs ih => exact ih (h.set f.1 f.2)

theorem setAll_of_distinct {es fs : List (κ × α)} (h : Distinct (es ++ fs)) :
    setAll es fs = es ++ fs := by
  induction fs generalizing es with
  | nil => exact (List.append_nil es).symm
  | cons f fs ih =>
    have hnew : f.1 ∉ es.map (·.1) := by
      rw [Distinct, List.map_append, List.map_cons] at h
      exact fun hf => (List.nodup_append.1 h).2.2 _ hf _ List.mem_cons_self rfl
    rw [List.append_cons] at h
    rw [setAll_cons, set_of_not_mem hnew, ih h, List.append_assoc]
    rfl

theorem Distinct.get?_filter {es : List (κ × α)} (h : Distinct es) (p : α → Bool) (key : κ) :
    get? key (es.filter fun e => p e.2) = (get? key es).filter p := by
  induction es with
  | nil => rfl
  | cons e es ih =>
    obtain ⟨he, hes⟩ := distinct_cons.1 h
    by_cases hk : e.1 = key
    · rw [get?_cons, if_pos hk]
      cases hp : p e.2 with
      | true =>
        rw [List.filter_cons_of_pos (by exact hp), get?_cons, if_pos hk, Option.filter_some,
          if_pos hp]
      | false =>
        -- no other entry of the key comes to light
        have hnone : get? key (es.filter fun e => p e.2) = none := by
          rw [ih hes, get?_eq_none (hk ▸ he), Option.filter_none]
        rw [List.filter_cons_of_neg (by simp [hp]), hnone, Option.filter_some,
          if_neg (by simp [hp])]
    · rw [get?_cons, if_neg hk, ← ih hes]
      cases hp : p e.2 with
      | true => rw [List.filter_cons_of_pos (by exact hp), get?_cons, if_neg hk]
      | false => rw [List.filter_cons_of_neg (by simp [hp])]

end CaseChart.Entries
