import CaseChart.Firsts
import Mathlib.Data.List.Nodup

namespace CaseChart

variable {α β κ ι : Type} [DecidableEq κ] [DecidableEq ι]

theorem firstsOn_sublist (key : α → κ) (as : List α) : (firstsOn key as).Sublist as := by
  induction as with
  | nil => exact List.Sublist.slnil
  | cons a as ih => exact (List.filter_sublist.trans ih).cons_cons a

theorem mem_map_firstsOn_iff {key : α → κ} {as : List α} {k : κ} :
    k ∈ (firstsOn key as).map key ↔ k ∈ as.map key := by
  simp only [List.mem_map]
  constructor
  · rintro ⟨a, ha, rfl⟩
    exact ⟨a, mem_of_mem_firstsOn ha, rfl⟩
  · rintro ⟨a, ha, rfl⟩
    exact key_mem_firstsOn ha

theorem nodup_map_firstsOn (key : α → κ) (as : List α) : ((firstsOn key as).map key).Nodup := by
  induction as with
  | nil => exact List.nodup_nil
  | cons a as ih =>
    rw [firstsOn, List.map_cons, List.nodup_cons]
    constructor
    · intro h
      obtain ⟨b, hb, he⟩ := List.mem_map.1 h
      exact (of_decide_eq_true (List.mem_filter.1 hb).2) he
    · exact ih.sublist (List.filter_sublist.map key)

/-- A condition on keys may be imposed before or after. -/
theorem firstsOn_filter (key : α → κ) (p : κ → Bool) (as : List α) :
    firstsOn key (as.filter fun a => p (key a)) = (firstsOn key as).filter fun a => p (key a) := by
  induction as with
  | nil => rfl
  | cons a as ih =>
    cases h : p (key a) with
    | true =>
      rw [List.filter_cons_of_pos (by exact h), firstsOn, firstsOn,
        List.filter_cons_of_pos (by exact h), ih, List.filter_filter, List.filter_filter]
      simp only [Bool.and_comm]
    | false =>
      rw [List.filter_cons_of_neg (by simp [h]), firstsOn, List.filter_cons_of_neg (by simp [h]),
        ih, List.filter_filter]
      apply List.filter_congr
      intro b _
      -- a key that fails the condition is not the key of `a`'s rivals
      by_cases hb : key b = key a
      · simp [hb, h]
      · simp [hb]

theorem firstsOn_append (key : α → κ) (as bs : List α) :
    firstsOn key (as ++ bs) =
      firstsOn key as ++ (firstsOn key bs).filter fun b => key b ∉ as.map key := by
  induction as with
  | nil => exact (List.filter_eq_self.2 (by simp)).symm
  | cons a as ih =>
    rw [List.cons_append, firstsOn, firstsOn, ih, List.filter_append, List.filter_filter,
      List.cons_append]
    congr 2
    apply List.filter_congr
    intro b _
    simp

theorem firstsOn_firstsOn (key : α → κ) (as : List α) :
    firstsOn key (firstsOn key as) = firstsOn key as := by
  induction as with
  | nil => rfl
  | cons a as ih =>
    rw [firstsOn, firstsOn, firstsOn_filter key (fun k => k ≠ key a), ih, List.filter_filter]
    simp

/-- A stretch in the middle may be reduced to its firsts beforehand. -/
theorem firstsOn_append_firstsOn_append (key : α → κ) (as bs cs : List α) :
    firstsOn key (as ++ firstsOn key bs ++ cs) = firstsOn key (as ++ bs ++ cs) := by
  rw [firstsOn_append key (as ++ firstsOn key bs), firstsOn_append key (as ++ bs),
    firstsOn_append key as, firstsOn_append key as, firstsOn_firstsOn]
  simp only [List.map_append, List.mem_append, mem_map_firstsOn_iff]

/-- What brings no new key adds nothing. -/
theorem firstsOn_append_of_subset {key : α → κ} {as bs : List α}
    (h : ∀ b ∈ bs, key b ∈ as.map key) : firstsOn key (as ++ bs) = firstsOn key as := by
  rw [firstsOn_append, List.filter_eq_nil_iff.2, List.append_nil]
  intro b hb
  simpa using h b (mem_of_mem_firstsOn hb)

theorem firstsOn_map (key : β → κ) (f : α → β) (as : List α) :
    firstsOn key (as.map f) = (firstsOn (fun a => key (f a)) as).map f := by
  induction as with
  | nil => rfl
  | cons a as ih => rw [List.map_cons, firstsOn, firstsOn, ih, List.map_cons, List.filter_map]; rfl

/-- Only which keys agree matters. -/
theorem firstsOn_congr {key : α → κ} {key' : α → ι} (h : ∀ a b, key a = key b ↔ key' a = key' b)
    (as : List α) : firstsOn key as = firstsOn key' as := by
  induction as with
  | nil => rfl
  | cons a as ih =>
    rw [firstsOn, firstsOn, ih]
    simp only [ne_eq, h]

section
variable {key : α → κ} {as bs : List α} (h : ∀ a ∈ as, ∀ b ∈ as, key a = key b → a = b)
include h

/-- Where an element is known by its key, only its repetitions are left out. -/
theorem mem_firstsOn_iff {a : α} : a ∈ firstsOn key as ↔ a ∈ as := by
  refine ⟨mem_of_mem_firstsOn, fun ha => ?_⟩
  obtain ⟨b, hb, he⟩ : ∃ b ∈ firstsOn key as, key b = key a := key_mem_firstsOn ha
  exact h b (mem_of_mem_firstsOn hb) a ha he ▸ hb

/-- So in another order there are the same firsts, in another order. -/
theorem firstsOn_perm (hp : as.Perm bs) : (firstsOn key as).Perm (firstsOn key bs) := by
  have hbs : ∀ a ∈ bs, ∀ b ∈ bs, key a = key b → a = b :=
    fun a ha b hb => h a (hp.mem_iff.2 ha) b (hp.mem_iff.2 hb)
  rw [List.perm_ext_iff_of_nodup (List.Nodup.of_map key (nodup_map_firstsOn key as))
    (List.Nodup.of_map key (nodup_map_firstsOn key bs))]
  intro a
  rw [mem_firstsOn_iff h, mem_firstsOn_iff hbs, hp.mem_iff]

end

theorem firsts_map_of_injective [DecidableEq α] [DecidableEq β] {f : α → β}
    (h : Function.Injective f) (as : List α) : firsts (as.map f) = (firsts as).map f := by
  rw [firsts, firstsOn_map, firsts]
  exact congrArg (List.map f) (firstsOn_congr (fun a b => h.eq_iff) as)

theorem firsts_eq_nil_iff [DecidableEq α] {as : List α} : firsts as = [] ↔ as = [] := by
  cases as with
  | nil => exact Iff.rfl
  | cons a as => exact iff_of_false (List.cons_ne_nil _ _) (List.cons_ne_nil _ _)

section
variable [DecidableEq α]

theorem mem_firsts_iff {as : List α} {a : α} : a ∈ firsts as ↔ a ∈ as := by
  have h : a ∈ (firstsOn id as).map id ↔ a ∈ as.map id := mem_map_firstsOn_iff
  rwa [List.map_id, List.map_id] at h

theorem nodup_firsts (as : List α) : (firsts as).Nodup := by
  have h := nodup_map_firstsOn id as
  rwa [List.map_id] at h

/-- The firsts come in the order in which they appear first. -/
theorem pairwise_idxOf_firsts [BEq α] [LawfulBEq α] (as : List α) :
    (firsts as).Pairwise fun a b => as.idxOf a < as.idxOf b := by
  induction as with
  | nil => exact List.Pairwise.nil
  | cons c as ih =>
    have hlater : ∀ b ∈ (firsts as).filter (· ≠ c), (c :: as).idxOf b = as.idxOf b + 1 := by
      intro b hb
      have hne : b ≠ c := of_decide_eq_true (List.mem_filter.1 hb).2
      exact List.idxOf_cons_ne as hne.symm
    refine List.pairwise_cons.2 ⟨fun b hb => ?_, ?_⟩
    · rw [List.idxOf_cons_self, hlater b hb]
      exact Nat.succ_pos _
    · refine (ih.sublist List.filter_sublist).imp_of_mem fun {a b} ha hb hab => ?_
      rw [hlater a ha, hlater b hb]
      exact Nat.succ_lt_succ hab

end

end CaseChart
