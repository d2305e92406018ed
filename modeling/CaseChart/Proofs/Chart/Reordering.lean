import CaseChart.Proofs.Chart.Content

namespace CaseChart
open Text Lexeme

namespace Merged

/-- The same groups, relationships and styles, each in an order of its own. -/
structure SameParts (m n : Merged) : Prop where
  groups : m.groups.Perm n.groups
  relationships : m.relationships.Perm n.relationships
  styles : m.styles.Perm n.styles

section
variable {m n : Merged} (h : m.SameParts n)
include h

theorem SameParts.texts : m.texts.Perm n.texts :=
  ((h.groups.map Group.text).append h.relationships).append h.styles

theorem SameParts.tail_linesOf : m.linesOf.tail.Perm n.linesOf.tail :=
  ((h.groups.flatMap_right groupLines).append (h.relationships.map (lead ++ ·))).append
    ((h.styles.map (lead ++ ·)).cons [])

end

/-- The groups of some charts are known by their names. -/
def Consistent (ds : List Text) : Prop :=
  ∀ d ∈ ds, ∀ e ∈ ds, ∀ g ∈ (Sections.ofChart d).groups, ∀ k ∈ (Sections.ofChart e).groups,
    g.name = k.name → g.text = k.text

instance (ds : List Text) : Decidable (Consistent ds) :=
  inferInstanceAs (Decidable (∀ d ∈ ds, _))

theorem Consistent.eq_of_name {ds : List Text} (h : Consistent ds) :
    ∀ g ∈ ds.flatMap fun d => (Sections.ofChart d).groups,
      ∀ k ∈ ds.flatMap fun d => (Sections.ofChart d).groups, g.name = k.name → g = k := by
  intro g hg k hk hname
  obtain ⟨d, hd, hgd⟩ := List.mem_flatMap.1 hg
  obtain ⟨e, he, hke⟩ := List.mem_flatMap.1 hk
  have htext : g.text = k.text := h d hd e he g hgd k hke hname
  have hblock : g.block = k.block := by
    rw [← (Group.settled_of_mem hgd).split_text, htext, (Group.settled_of_mem hke).split_text]
  obtain ⟨name, block⟩ := g
  obtain ⟨name', block'⟩ := k
  exact congrArg₂ Group.mk hname hblock

theorem sameParts_of_perm {ds es : List Text} (h : ds.Perm es) (hds : Consistent ds) :
    (ofCharts ds).SameParts (ofCharts es) where
  groups := by
    rw [groups_ofCharts, groups_ofCharts]
    exact firstsOn_perm hds.eq_of_name (h.flatMap_right _)
  relationships := by
    rw [relationships_ofCharts, relationships_ofCharts]
    exact firstsOn_perm (fun _ _ _ _ => id) (h.flatMap_right _)
  styles := by
    rw [styles_ofCharts, styles_ofCharts]
    exact firstsOn_perm (fun _ _ _ _ => id) (h.flatMap_right _)

end Merged

namespace Facts

/-- Facts that count the same lexemes do not depend on their order. -/
theorem perm_of_content {s t : Text} (h : (content s).Perm (content t)) :
    (ofText s).tags.Perm (ofText t).tags ∧ (ofText s).markers = (ofText t).markers ∧
      (ofText s).opens = (ofText t).opens ∧ (ofText s).closes = (ofText t).closes := by
  simp only [tags_ofText, markers_ofText, opens_ofText, closes_ofText]
  exact ⟨h.filterMap tagName?, h.countP_eq isMarker, h.count_eq _, h.count_eq _⟩

end Facts

namespace Chart

theorem tally_eq_of_content {s t : Text} (h : (content s).Perm (content t)) :
    tally s = tally t := by
  obtain ⟨htags, hmarkers, -⟩ := Facts.perm_of_content h
  rw [tally, tally, Tally.ofFacts, Tally.ofFacts, hmarkers]
  congr 1
  funext c
  rw [htags.countP_eq]

theorem unknownCategory_mem_errors_iff {t n : Text} :
    (Flaw.unknownCategory n).message ∈ (validate t).errors ↔
      n ∈ (Facts.ofText t).tags ∧ n ∉ Category.names := by
  rw [mem_errors_iff, Flaw.In, Category.ofName?_eq_none_iff]

/-- Charts that are merged in another order make up the same groups, relationships and styles, and
the same lines below the declaration. So they have the same statistics, as many brackets, and the
same unknown categories. -/
theorem merge_of_perm (ds es : List Text) (hds : 2 ≤ ds.length) (h : ds.Perm es)
    (hsame : Merged.Consistent ds) :
    let m := Merged.ofCharts ds
    let n := Merged.ofCharts es
    merge ds = m.text ∧ merge es = n.text ∧
      m.groups.Perm n.groups ∧ m.relationships.Perm n.relationships ∧ m.styles.Perm n.styles ∧
      (lines (merge ds)).tail.Perm (lines (merge es)).tail ∧
      tally (merge ds) = tally (merge es) ∧
      (Facts.ofText (merge ds)).opens = (Facts.ofText (merge es)).opens ∧
      (Facts.ofText (merge ds)).closes = (Facts.ofText (merge es)).closes ∧
      ∀ c, (Flaw.unknownCategory c).message ∈ (validate (merge ds)).errors ↔
        (Flaw.unknownCategory c).message ∈ (validate (merge es)).errors := by
  intro m n
  have hes : 2 ≤ es.length := h.length_eq ▸ hds
  have hm : merge ds = m.text := merge_of_two_le hds
  have hn : merge es = n.text := merge_of_two_le hes
  have hparts : m.SameParts n := Merged.sameParts_of_perm h hsame
  have hcontent : (content (merge ds)).Perm (content (merge es)) := by
    rw [hm, hn, Merged.content_text_ofCharts, Merged.content_text_ofCharts]
    exact hparts.texts.flatMap_right content
  obtain ⟨htags, -, hopens, hcloses⟩ := Facts.perm_of_content hcontent
  refine ⟨hm, hn, hparts.groups, hparts.relationships, hparts.styles, ?_,
    tally_eq_of_content hcontent, hopens, hcloses, fun c => ?_⟩
  · rw [hm, hn, Merged.lines_text_ofCharts, Merged.lines_text_ofCharts]
    exact hparts.tail_linesOf
  · rw [unknownCategory_mem_errors_iff, unknownCategory_mem_errors_iff, htags.mem_iff]

/-- One group with two margins, in one chart on the line of the declaration. The merges differ in
their declaration and in the order of their relationships. -/
theorem merge_of_perm_two_margins :
    let d := "flowchart LR\n\tsubgraph g\n\t\ta[A]:::person\n\tend\na --> b".toList
    let e := "graph TD; subgraph g\n\ta[A]:::person\nend\nx --- y:::ghost\na --> b".toList
    (2 ≤ [d, e].length ∧ [d, e].Perm [e, d] ∧ Merged.Consistent [d, e]) ∧
      merge [d, e] ≠ merge [e, d] ∧
      (lines (merge [d, e])).tail.Perm (lines (merge [e, d])).tail ∧
      tally (merge [d, e]) = tally (merge [e, d]) ∧
      (Flaw.unknownCategory "ghost".toList).message ∈ (validate (merge [e, d])).errors := by
  intro d e
  have hperm : [d, e].Perm [e, d] := .swap e d []
  have hsame : Merged.Consistent [d, e] := by decide +kernel
  obtain ⟨-, -, -, -, -, hlines, htally, -, -, hunknown⟩ :=
    merge_of_perm [d, e] [e, d] (by decide) hperm hsame
  refine ⟨⟨by decide, hperm, hsame⟩, by decide +kernel, hlines, htally, (hunknown _).1 ?_⟩
  decide +kernel

end Chart
end CaseChart
