import CaseChart.Chart.Tally
import CaseChart.Proofs.Chart.Verdict
import Mathlib.Algebra.BigOperators.Ring.Finset

namespace CaseChart
open Text

/-- Of some categories each is counted once among all. -/
theorem Category.sum_count_all (cs : List Category) : (all.map cs.count).sum = cs.length := by
  induction cs with
  | nil => rfl
  | cons c cs ih =>
    rw [List.length_cons, ← ih]
    cases c <;> simp [all] <;> omega

namespace Facts

def categories (f : Facts) : List Category :=
  f.tags.filterMap fun n => Category.ofName? (String.ofList n)

theorem length_categories_add_unknown (f : Facts) :
    f.categories.length + f.tags.countP (· ∉ Category.names) = f.tags.length := by
  have hunknown : f.tags.countP (· ∉ Category.names) =
      f.tags.countP fun n => ¬ (Category.ofName? (String.ofList n)).isSome := by
    apply List.countP_congr
    intro n _
    simp [← Category.ofName?_eq_none_iff]
  rw [categories, List.length_filterMap_eq_countP, hunknown, ← List.length_eq_countP_add_countP]

end Facts

namespace Tally

theorem total_eq_sum (s : Tally) : s.total = (Category.all.map s.entities).sum := rfl

theorem entities_ofFacts (f : Facts) (c : Category) :
    (ofFacts f).entities c = f.categories.count c := by
  rw [Facts.categories, List.count_filterMap]
  rfl

theorem total_ofFacts (f : Facts) : (ofFacts f).total = f.categories.length := by
  rw [total_eq_sum, ← Category.sum_count_all, Nat.cast_list_sum, List.map_map]
  exact congrArg List.sum (List.map_congr_left fun c _ => entities_ofFacts f c)

end Tally

namespace Chart

theorem mem_names_of_isValid {t n : Text} (h : (validate t).isValid = true)
    (hn : n ∈ (Facts.ofText t).tags) : n ∈ Category.names := by
  by_contra hno
  have hf : (Flaw.unknownCategory n).message ∈ (validate t).errors :=
    mem_errors_iff.2 ⟨hn, Category.ofName?_eq_none_iff.2 hno⟩
  rw [List.isEmpty_iff.1 h] at hf
  exact absurd hf (by simp)

/-- A chart is said to lack relationships exactly if none are counted, and every tag that can be
seen in it is either counted as an entity or unknown. So in a valid chart all of them are counted,
each for one category. -/
theorem tally_and_verdict_of_text (t : Text) :
    let tags := (Facts.observed t).tags
    let counts := tally t
    Facts.ofText (trim t) = Facts.ofText t ∧
      (isBlankText t = false →
        (Hint.noRelationships.message ∈ (validate t).warnings ↔ counts.relationships = 0)) ∧
      counts.total + (tags.countP (· ∉ Category.names) : Nat) = tags.length ∧
      ((validate t).isValid = true →
        counts.total = tags.length ∧ (Category.all.map counts.entities).sum = tags.length) := by
  intro tags counts
  have htags : (Facts.ofText t).tags = tags := Facts.tags_eq_observed t
  have htotal : counts.total = (Facts.ofText t).categories.length := Tally.total_ofFacts _
  have hall := (Facts.ofText t).length_categories_add_unknown
  rw [htags] at hall
  refine ⟨Facts.ofText_trim t, fun hb => ?_, ?_, fun hv => ?_⟩
  · rw [mem_warnings_iff, Hint.In, and_iff_right hb]
    exact Int.natCast_eq_zero.symm
  · rw [htotal, ← hall, Int.natCast_add]
  · have hno : tags.countP (· ∉ Category.names) = 0 := by
      rw [List.countP_eq_zero]
      intro n hn
      simpa using mem_names_of_isValid hv (htags ▸ hn)
    have heq : counts.total = tags.length := by
      rw [htotal, ← hall, hno, Nat.add_zero]
    exact ⟨heq, counts.total_eq_sum ▸ heq⟩

/-- White space around the chart, a keyword without a name at its end, two hyphens apart, and a node
with two tags. -/
theorem tally_and_verdict_of_text_padded :
    let t := "\u2003\ngraph TD; a[A]:::person\n b[]:::event:::event - - ::: subgraph\t\r\n".toList
    (isBlankText t = false ∧ (validate t).isValid = true) ∧
      Hint.noRelationships.message ∈ (validate t).warnings ∧ (tally t).total = 3 ∧
      (Category.all.map (tally t).entities).sum = 3 := by
  intro t
  have hb : isBlankText t = false := by decide
  have hv : (validate t).isValid = true := by decide +kernel
  obtain ⟨-, hhint, -, hvalid⟩ := tally_and_verdict_of_text t
  obtain ⟨htotal, hsum⟩ := hvalid hv
  have htags : (Facts.observed t).tags.length = 3 := by decide +kernel
  rw [htags] at htotal hsum
  exact ⟨⟨hb, hv⟩, (hhint hb).2 (by decide +kernel), htotal, hsum⟩

end Chart
end CaseChart
