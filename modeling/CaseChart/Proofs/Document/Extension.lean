import CaseChart.Document.FileType
import CaseChart.Proofs.Text.Case

namespace CaseChart.FileType

open Text

/-- That the last part of a path has something, a dot and then the extension `k`, in any case. -/
def HasExtension (k path : Text) : Prop :=
  ∃ x e, baseName path = x ++ '.' :: e ∧ x ≠ [] ∧ e.map Char.toLower = k

theorem suffix_of_not_mem {name : Text} (h : '.' ∉ name) : suffix name = [] := by
  have hall : ∀ c ∈ name.reverse, decide (c ≠ '.') = true := by
    intro c hc
    exact decide_eq_true fun he => h (he ▸ List.mem_reverse.1 hc)
  rw [suffix, List.takeWhile_eq_self_iff.2 hall, List.reverse_reverse]
  exact if_neg (by omega)

theorem suffix_append_dot {x e : Text} (h : '.' ∉ e) :
    suffix (x ++ '.' :: e) = if x = [] then [] else e := by
  have hrun : ((x ++ '.' :: e).reverse.takeWhile (· ≠ '.')).reverse = e := by
    rw [List.reverse_append, List.reverse_cons, List.append_assoc, List.singleton_append,
      takeWhile_append_of_head, List.reverse_reverse]
    · intro c hc
      exact decide_eq_true fun he => h (he ▸ List.mem_reverse.1 hc)
    · rintro c ⟨⟩
      rfl
  rw [suffix, hrun, List.length_append, List.length_cons]
  cases x with
  | nil => exact if_neg (by simp)
  | cons c x =>
    rw [if_pos (by rw [List.length_cons]; omega), if_neg (List.cons_ne_nil c x)]

theorem exists_last_dot {name : Text} (h : '.' ∈ name) :
    ∃ x e, name = x ++ '.' :: e ∧ '.' ∉ e := by
  obtain ⟨e, x, he, hdot⟩ := List.eq_append_cons_of_mem (List.mem_reverse.2 h)
  refine ⟨x.reverse, e.reverse, ?_, mt List.mem_reverse.1 hdot⟩
  rw [← List.reverse_reverse name, he]
  simp

theorem suffix_eq_iff {name k : Text} (hk : k ≠ []) (hdot : '.' ∉ k) :
    suffix name = k ↔ ∃ x, x ≠ [] ∧ name = x ++ '.' :: k := by
  constructor
  · rintro rfl
    have hmem : '.' ∈ name := by
      by_contra hn
      exact hk (suffix_of_not_mem hn)
    obtain ⟨x, e, rfl, he⟩ := exists_last_dot hmem
    rw [suffix_append_dot he] at hk ⊢
    split at hk
    · exact absurd rfl hk
    · next hx => exact ⟨x, hx, by rw [if_neg hx]⟩
  · rintro ⟨x, hx, rfl⟩
    rw [suffix_append_dot hdot, if_neg hx]

theorem forall₂_getLast? {R : Text → Text → Prop} {ps qs : List Text} (h : List.Forall₂ R ps qs)
    (hnil : R [] []) : R (ps.getLast?.getD []) (qs.getLast?.getD []) := by
  rw [List.getLast?_eq_head?_reverse, List.getLast?_eq_head?_reverse]
  have hr := List.forall₂_reverse_iff.2 h
  generalize ps.reverse = ps' at hr
  generalize qs.reverse = qs' at hr
  cases hr with
  | nil => exact hnil
  | cons h _ => exact h

theorem mark_slash : Mark '/' := by constructor <;> decide

theorem mark_dot : Mark '.' := by constructor <;> decide

theorem lowered_baseName (path : Text) : Lowered (baseName path) (baseName (lower path)) := by
  have hparts := (lowered_lower path).split mark_slash
  refine forall₂_getLast? ?_ .nil
  refine List.rel_filter ?_ hparts
  intro p q hpq
  simp only [decide_eq_true_eq, ne_eq, hpq.eq_nil_iff, hpq.eq_singleton_iff mark_dot]

/-- A path has an extension of small letters without an i and a k exactly if its last part ends
in a dot and those letters in any case. -/
theorem extension_eq_iff {k : Text} (hne : k ≠ [])
    (hk : ∀ c ∈ k, c.isLower = true ∧ c ≠ 'i' ∧ c ≠ 'k') (path : Text) :
    extension path = k ↔ HasExtension k path := by
  have hdot : '.' ∉ k := fun hm => absurd (hk '.' hm).1 (by decide)
  have hbase := lowered_baseName path
  rw [extension, suffix_eq_iff hne hdot]
  constructor
  · rintro ⟨x, hx, he⟩
    rw [he] at hbase
    obtain ⟨r, s, hrs, hr, hs⟩ := hbase.exists_of_append_sep mark_dot
    exact ⟨r, s, hrs, mt hr.eq_nil_iff.2 hx, (hs.eq_keyword_iff hk).1 rfl⟩
  · rintro ⟨r, s, hrs, hr, hs⟩
    rw [hrs] at hbase
    obtain ⟨v, w, hvw, hv, hw⟩ := hbase.exists_append_sep mark_dot
    exact ⟨v, mt hv.eq_nil_iff.1 hr, by rw [hvw, (hw.eq_keyword_iff hk).2 hs]⟩

theorem txt_mem_supported : "txt".toList ∈ supported := by decide

theorem extension_eq_iff_of_mem_supported {k : Text} (hk : k ∈ supported) (path : Text) :
    extension path = k ↔ HasExtension k path := by
  have hletters : ∀ k ∈ supported, k ≠ [] ∧ ∀ c ∈ k, c.isLower = true ∧ c ≠ 'i' ∧ c ≠ 'k' := by
    decide
  exact extension_eq_iff (hletters k hk).1 (hletters k hk).2 path

theorem isSupported_iff (path : Text) :
    isSupported path = true ↔ ∃ k ∈ supported, HasExtension k path := by
  rw [isSupported, List.contains_iff_mem]
  constructor
  · intro h
    exact ⟨_, h, (extension_eq_iff_of_mem_supported h path).1 rfl⟩
  · rintro ⟨k, hk, h⟩
    rwa [(extension_eq_iff_of_mem_supported hk path).2 h]

end CaseChart.FileType
