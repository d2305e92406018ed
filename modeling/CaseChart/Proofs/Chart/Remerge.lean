import CaseChart.Proofs.Chart.Readback

namespace CaseChart
open Text

namespace Merged

/-- Only the declaration in front and the firsts of the parts count for a merge. -/
theorem ofCharts_congr {ds es : List Text}
    (hh : Header.ofChart (ds.headD []) = Header.ofChart (es.headD []))
    (hg : firstsOn Group.name (ds.flatMap fun d => (Sections.ofChart d).groups) =
      firstsOn Group.name (es.flatMap fun d => (Sections.ofChart d).groups))
    (hr : firsts (ds.flatMap fun d => (Sections.ofChart d).relationships) =
      firsts (es.flatMap fun d => (Sections.ofChart d).relationships))
    (hs : firsts (ds.flatMap fun d => (Sections.ofChart d).styles) =
      firsts (es.flatMap fun d => (Sections.ofChart d).styles)) : ofCharts ds = ofCharts es := by
  simp only [ofCharts, List.flatMap_map, hh, hg, hr, hs]

theorem groups_ofCharts (ds : List Text) :
    (ofCharts ds).groups =
      firstsOn Group.name (ds.flatMap fun d => (Sections.ofChart d).groups) := by
  simp only [ofCharts, List.flatMap_map]

theorem relationships_ofCharts (ds : List Text) :
    (ofCharts ds).relationships =
      firsts (ds.flatMap fun d => (Sections.ofChart d).relationships) := by
  simp only [ofCharts, List.flatMap_map]

theorem styles_ofCharts (ds : List Text) :
    (ofCharts ds).styles = firsts (ds.flatMap fun d => (Sections.ofChart d).styles) := by
  simp only [ofCharts, List.flatMap_map]

/-- A settled merge of some charts stands for them among others. -/
theorem ofCharts_append_text_append {b : List Text} (hb : b ≠ []) (h : (ofCharts b).Settled)
    (a c : List Text) : ofCharts (a ++ [(ofCharts b).text] ++ c) = ofCharts (a ++ b ++ c) := by
  apply ofCharts_congr
  · cases a with
    | nil =>
      obtain ⟨d, b', rfl⟩ := List.exists_cons_of_ne_nil hb
      exact h.header_text
    | cons d a => rfl
  · simp only [List.flatMap_append, List.flatMap_singleton, h.sections_text, groups_ofCharts]
    exact firstsOn_append_firstsOn_append ..
  · simp only [List.flatMap_append, List.flatMap_singleton, h.sections_text, relationships_ofCharts]
    exact firstsOn_append_firstsOn_append ..
  · simp only [List.flatMap_append, List.flatMap_singleton, h.sections_text, styles_ofCharts]
    exact firstsOn_append_firstsOn_append ..

/-- Charts that are there already add nothing. -/
theorem ofCharts_append_of_subset {b c : List Text} (hb : b ≠ []) (hc : c ⊆ b) :
    ofCharts (b ++ c) = ofCharts b := by
  -- one argument for the three lists, whatever is taken from each chart
  have hsub : ∀ {β κ : Type} [DecidableEq κ] (key : β → κ) (f : Text → List β),
      firstsOn key ((b ++ c).flatMap f) = firstsOn key (b.flatMap f) := by
    intro β κ _ key f
    rw [List.flatMap_append]
    apply firstsOn_append_of_subset
    intro x hx
    obtain ⟨d, hd, hxd⟩ := List.mem_flatMap.1 hx
    exact List.mem_map_of_mem (List.mem_flatMap.2 ⟨d, hc hd, hxd⟩)
  apply ofCharts_congr
  · obtain ⟨d, b', rfl⟩ := List.exists_cons_of_ne_nil hb
    rfl
  · exact hsub ..
  · exact hsub ..
  · exact hsub ..

end Merged

namespace Chart

theorem merge_append_merge_append {b : List Text} (hb : b ≠ [])
    (hr : ∀ d ∈ b, ∀ r ∈ (Sections.ofChart d).relationships, Header.strip (trim r) = r)
    (a c : List Text) : merge (a ++ [merge b] ++ c) = merge (a ++ b ++ c) := by
  by_cases hb2 : 2 ≤ b.length
  · have h : (Merged.ofCharts b).Settled := Merged.settled_ofCharts hr
    by_cases hac : a = [] ∧ c = []
    · rw [hac.1, hac.2, List.append_nil, List.append_nil, List.nil_append, List.nil_append]
      rfl
    · have hpos : 0 < a.length + c.length := by
        rcases not_and_or.1 hac with h0 | h0
        · have := List.length_pos_iff.2 h0; omega
        · have := List.length_pos_iff.2 h0; omega
      have hone : 2 ≤ (a ++ [merge b] ++ c).length := by
        simp only [List.length_append, List.length_singleton]
        omega
      have hall : 2 ≤ (a ++ b ++ c).length := by
        simp only [List.length_append]
        omega
      rw [merge_of_two_le hone, merge_of_two_le hall, merge_of_two_le hb2,
        Merged.ofCharts_append_text_append hb h]
  · -- a single chart is its own merge
    obtain ⟨d, b', rfl⟩ := List.exists_cons_of_ne_nil hb
    have hb' : b' = [] := List.length_eq_zero_iff.1 (by rw [List.length_cons] at hb2; omega)
    rw [hb']
    rfl

theorem merge_append_of_subset {b c : List Text} (hb : 2 ≤ b.length) (hc : c ⊆ b) :
    merge (b ++ c) = merge b := by
  have hne : b ≠ [] := List.length_pos_iff.1 (by omega)
  rw [merge_of_two_le (by rw [List.length_append]; omega), merge_of_two_le hb,
    Merged.ofCharts_append_of_subset hne hc]

/-- Merging in steps is merging at once. A merge of several charts absorbs itself and its sources;
a single chart, which a merge leaves alone, does so if it has the layout of a merge. -/
theorem merge_append_merge (a b c : List Text) (hb : b ≠ [])
    (hr : ∀ d ∈ b, ∀ r ∈ (Sections.ofChart d).relationships, Header.strip (trim r) = r) :
    merge (a ++ [merge b] ++ c) = merge (a ++ b ++ c) ∧
      (2 ≤ b.length →
        merge [merge b, merge b] = merge b ∧ ∀ d ∈ b, merge [merge b, d] = merge b) ∧
      ∀ d, b = [d] → (merge [merge b, merge b] = merge b ↔ (Merged.ofCharts b).text = merge b) := by
  have hstep := merge_append_merge_append hb hr
  refine ⟨hstep a c, ?_, ?_⟩
  · intro hb2
    have hleft : ∀ d, merge [merge b, d] = merge (b ++ [d]) := fun d => hstep [] [d]
    have hright : merge (b ++ [merge b]) = merge (b ++ b) := by
      simpa only [List.append_nil] using hstep b []
    constructor
    · rw [hleft, hright, merge_append_of_subset hb2 (List.Subset.refl b)]
    · intro d hd
      have hsub : [d] ⊆ b := fun x hx => List.mem_singleton.1 hx ▸ hd
      rw [hleft, merge_append_of_subset hb2 hsub]
  · rintro d rfl
    have hd : Merged.ofCharts [d, d] = Merged.ofCharts [d] :=
      Merged.ofCharts_append_of_subset (b := [d]) (by simp) (List.Subset.refl _)
    change (Merged.ofCharts [d, d]).text = d ↔ _
    rw [hd]
    rfl

/-- Taken into a merge between two others, with a group and a style that come up twice. -/
theorem merge_append_merge_between :
    let a := ["x --> y".toList]
    let b := ["flowchart RL; a --> b\nsubgraph g\n  n[N]\nend".toList,
      "subgraph g\nend\nclassDef c d\na --> b".toList]
    let c := ["classDef c d\nx --> y".toList]
    (b ≠ [] ∧ ∀ d ∈ b, ∀ r ∈ (Sections.ofChart d).relationships, Header.strip (trim r) = r) ∧
      merge (a ++ [merge b] ++ c) = merge (a ++ b ++ c) ∧
      merge [merge b, merge b] = merge b := by
  intro a b c
  have hr : ∀ d ∈ b, ∀ r ∈ (Sections.ofChart d).relationships, Header.strip (trim r) = r := by
    decide +kernel
  obtain ⟨hstep, hself, -⟩ := merge_append_merge a b c (by decide) hr
  exact ⟨⟨by decide, hr⟩, hstep, (hself (by decide)).1⟩

/-- A single chart is its own merge, but a merge with itself lays it out anew. -/
theorem merge_merge_single_ne :
    ¬ ∀ b : List Text, b ≠ [] →
      (∀ d ∈ b, ∀ r ∈ (Sections.ofChart d).relationships, Header.strip (trim r) = r) →
      merge [merge b, merge b] = merge b := by
  intro h
  have hm := h ["hello".toList] (by decide) (by decide +kernel)
  exact absurd hm (by decide +kernel)

end Chart
end CaseChart
