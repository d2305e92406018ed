import CaseChart.Proofs.Chart.Errors
import CaseChart.Proofs.Chart.GrammarSpelling

namespace CaseChart
open Text Lexeme

namespace Facts

theorem labels_eq_zero_of_opens {t : Text} (h : (ofText t).opens = 0) : (ofText t).labels = 0 := by
  rw [opens_eq_count] at h
  have hno : '[' ∉ t := List.count_eq_zero.1 h
  have hl := countP_isLabel_append hno []
  rw [List.append_nil] at hl
  rw [labels_eq_countP, hl]
  rfl

theorem labels_pos {p r label : Text} (hb : isBlankText label = false) (hl : Bare label) :
    0 < (ofText (p ++ '[' :: (label ++ ']' :: r))).labels := by
  refine labels_pos_iff.2 ⟨p, label, r, rfl, fun c hc => ⟨?_, ?_⟩, hb⟩
  · rintro rfl
    exact hl.no_open hc
  · rintro rfl
    exact hl.no_close hc

end Facts

namespace Grammar

theorem exists_of_forall₂ {α β : Type} {R : α → β → Prop} {as : List α} {bs : List β}
    (h : List.Forall₂ R as bs) {a : α} (ha : a ∈ as) : ∃ b ∈ bs, R a b := by
  induction h with
  | nil => cases ha
  | cons hr _ ih =>
    rcases List.mem_cons.1 ha with rfl | ha
    · exact ⟨_, List.mem_cons_self, hr⟩
    · obtain ⟨b, hb, hab⟩ := ih ha
      exact ⟨b, List.mem_cons_of_mem _ hb, hab⟩

theorem Node.Spelled.labels_pos {n : Node} {s : Text} (h : n.Spelled s) :
    0 < (Facts.ofText s).labels := by
  obtain ⟨label, hl, rfl⟩ := h
  refine Facts.labels_pos ?_ ((bare_trim label).1 (hl ▸ n.label.bare))
  rw [Bool.eq_false_iff]
  intro hb
  exact n.label.ne_nil (hl ▸ trim_eq_nil_of_isBlankText hb)

namespace Diagram

def tags (d : Diagram) : List Text := (d.nodes.filterMap Node.category).map Identifier.letters

theorem tags_body (d : Diagram) :
    (d.body.flatMap Construct.content).filterMap tagName? = d.tags := by
  rw [tags, nodes, groups]
  have hnodes : ∀ ns : List Node, (ns.flatMap Node.content).filterMap tagName? =
      (ns.filterMap Node.category).map Identifier.letters := by
    intro ns
    induction ns with
    | nil => rfl
    | cons n ns ih =>
      rw [List.flatMap_cons, List.filterMap_append, ih]
      rw [Node.content, List.filterMap_cons]
      cases hc : n.category with
      | none => rw [List.filterMap_cons_none hc]; rfl
      | some c => rw [List.filterMap_cons_some hc]; rfl
  induction d.body with
  | nil => rfl
  | cons c cs ih =>
    rw [List.flatMap_cons, List.filterMap_append, ih]
    cases c with
    | group g => simp [Construct.content, hnodes]
    | relationship r => simp [Construct.content, tagName?]
    | style s => simp [Construct.content]

theorem markers_body (d : Diagram) :
    (d.body.flatMap Construct.content).countP isMarker = d.relationships.length := by
  rw [relationships]
  have hnode : ∀ n : Node, n.content.countP isMarker = 0 := by
    intro n
    cases hc : n.category <;> simp [Node.content, hc, isMarker]
  induction d.body with
  | nil => rfl
  | cons c cs ih =>
    rw [List.flatMap_cons, List.countP_append, ih]
    cases c with
    | group g => simp [Construct.content, List.countP_flatMap, Function.comp_def, hnode]
    | relationship r => simp [Construct.content, isMarker, Nat.add_comm]
    | style s => simp [Construct.content]

theorem brackets_body (d : Diagram) {c : Char} (hc : c = '[' ∨ c = ']') :
    (d.body.flatMap Construct.content).count (.mark c) = d.nodes.length := by
  rw [nodes, groups]
  have hnode : ∀ n : Node, n.content.count (.mark c) = 1 := by
    intro n
    rcases hc with rfl | rfl <;> cases h : n.category <;> simp [Node.content, h]
  induction d.body with
  | nil => rfl
  | cons x cs ih =>
    rw [List.flatMap_cons, List.count_append, ih]
    cases x with
    | group g => simp [Construct.content, List.count_flatMap, Function.comp_def, hnode]
    | relationship r => simp [Construct.content]
    | style s => simp [Construct.content]

section
variable {d : Diagram} {t : Text} (h : d.Spelled t)
include h

theorem Spelled.facts : (Facts.ofText t).tags = d.tags ∧
    (Facts.ofText t).markers = d.relationships.length ∧
    (Facts.ofText t).opens = d.nodes.length ∧ (Facts.ofText t).closes = d.nodes.length := by
  rw [Facts.tags_ofText, Facts.markers_ofText, Facts.opens_ofText, Facts.closes_ofText,
    h.content_eq]
  exact ⟨d.tags_body, d.markers_body, d.brackets_body (.inl rfl), d.brackets_body (.inr rfl)⟩

theorem Spelled.isBlankText_eq_false : isBlankText t = false := by
  rw [Bool.eq_false_iff]
  intro hb
  have hd := h.declared
  rw [trim_eq_nil_of_isBlankText hb] at hd
  exact absurd hd (by decide)

/-- A node is a statement of the chart. -/
theorem Spelled.exists_statement {n : Node} (hn : n ∈ d.nodes) :
    ∃ s ∈ statements t, n.Spelled s := by
  obtain ⟨gap, sss, -, hbody, hs⟩ := h
  obtain ⟨g, hg, hng⟩ := List.mem_flatMap.1 hn
  obtain ⟨c, hc, hcg⟩ := List.mem_filterMap.1 hg
  obtain ⟨ss, hss, hspelled⟩ := exists_of_forall₂ hbody hc
  cases hspelled with
  | group hnodes =>
    obtain rfl := Option.some.inj hcg
    obtain ⟨s, hsn, hns⟩ := exists_of_forall₂ hnodes hng
    refine ⟨s, ?_, hns⟩
    rw [hs]
    refine List.mem_cons_of_mem _ (List.mem_flatten.2 ⟨_, hss, ?_⟩)
    exact List.mem_cons_of_mem _ (List.mem_append_left _ hsn)
  | relationship => cases hcg
  | style => cases hcg

theorem Spelled.labels_eq_zero_iff : (Facts.ofText t).labels = 0 ↔ d.nodes = [] := by
  constructor
  · intro hl
    rw [List.eq_nil_iff_forall_not_mem]
    intro n hn
    obtain ⟨s, hs, hns⟩ := h.exists_statement hn
    obtain ⟨as, bs, hab⟩ := List.append_of_mem hs
    have hv : visible t = as.flatMap visible ++ (visible s ++ bs.flatMap visible) := by
      rw [← visible_statements, hab, List.flatMap_append, List.flatMap_cons]
    have hle := Facts.labels_le hv
    have hpos := hns.labels_pos
    omega
  · intro hn
    refine Facts.labels_eq_zero_of_opens ?_
    rw [h.facts.2.2.1, hn]
    rfl

theorem Spelled.flaws_eq : Chart.flaws t =
    (firsts (d.tags.filter (· ∉ Category.names))).map Flaw.unknownCategory ++
      if d.nodes = [] then [.noEntities] else [] := by
  obtain ⟨htags, -, hopens, hcloses⟩ := h.facts
  have hdeclared : (Header.ofChart? (trim t)).isNone = false := by
    rw [← Bool.not_eq_true, Option.isNone_iff_eq_none, ← ne_eq, Option.ne_none_iff_isSome]
    exact h.declared
  have hunknown : ∀ n : Text, (Category.ofName? (String.ofList n)).isNone =
      decide (n ∉ Category.names) := by
    intro n
    rw [Bool.eq_iff_iff, Option.isNone_iff_eq_none, Category.ofName?_eq_none_iff, decide_eq_true_eq]
  have hbalanced : (Facts.ofText t).balanced = true := by
    rw [Facts.balanced, hopens, hcloses, beq_self_eq_true]
  rw [Chart.flaws, h.isBlankText_eq_false]
  simp only [Facts.ofText_trim, hdeclared, hbalanced, Chart.unknownTags, htags, hunknown,
    h.labels_eq_zero_iff]
  simp

end
end Diagram

/-- A chart of the grammar is reported for the distinct unknown categories of its nodes, in the
order in which they appear first, and for having no node, and for nothing else. It is said to have
no relationships if it has none, and its statistics count its nodes and its relationships. -/
theorem validate_of_spelled (d : Diagram) (t : Text) (h : d.Spelled t) :
    let unknown := firsts (d.tags.filter (· ∉ Category.names))
    (Chart.validate t).errors = unknown.map (fun n => (Flaw.unknownCategory n).message) ++
        (if d.nodes = [] then [Flaw.noEntities.message] else []) ∧
      ((Chart.validate t).isValid = true ↔ d.nodes ≠ [] ∧ ∀ n ∈ d.tags, n ∈ Category.names) ∧
      (Hint.noRelationships.message ∈ (Chart.validate t).warnings ↔ d.relationships = []) ∧
      (Chart.tally t).relationships = d.relationships.length ∧
      ∀ c, (Chart.tally t).entities c =
        d.nodes.countP fun n => n.category.map Identifier.letters == some c.name.toList := by
  intro unknown
  have herrors : (Chart.validate t).errors =
      unknown.map (fun n => (Flaw.unknownCategory n).message) ++
        (if d.nodes = [] then [Flaw.noEntities.message] else []) := by
    rw [Chart.validate, h.flaws_eq, List.map_append, List.map_map]
    split <;> rfl
  obtain ⟨htags, hmarkers, -⟩ := h.facts
  refine ⟨herrors, ?_, ?_, ?_, ?_⟩
  · rw [Verdict.isValid, List.isEmpty_iff, herrors, List.append_eq_nil_iff, List.map_eq_nil_iff,
      firsts_eq_nil_iff, List.filter_eq_nil_iff]
    simp [and_comm]
  · rw [Chart.mem_warnings_iff]
    simp [Hint.In, h.isBlankText_eq_false, hmarkers]
  · rw [Chart.tally, Tally.ofFacts, hmarkers]
  · intro c
    have hname : ∀ n : Text, (Category.ofName? (String.ofList n) == some c) =
        (n == c.name.toList) := by
      intro n
      rw [Bool.eq_iff_iff, beq_iff_eq, beq_iff_eq, Category.ofName?_eq_some_iff]
    simp only [Chart.tally, Tally.ofFacts, htags, Diagram.tags, hname, List.countP_map,
      List.countP_filterMap]
    refine congrArg _ (List.countP_congr fun n _ => ?_)
    cases n.category with
    | none => simp
    | some i => simp

/-- Identifiers like keywords, and labels with parts of tags, arrows and declarations in them. -/
theorem validate_of_spelled_lookalikes :
    let graph : Identifier := ⟨"graph".toList, by decide, by decide⟩
    let opening : Identifier := ⟨"subgraph".toList, by decide, by decide⟩
    let closing : Identifier := ⟨"end".toList, by decide, by decide⟩
    let person : Identifier := ⟨"person".toList, by decide, by decide⟩
    let dashed : Phrase := ⟨"x: graph LR -".toList, by decide, by decide, by decide +kernel,
      by decide, by decide, by decide⟩
    let colons : Phrase := ⟨"::".toList, by decide, by decide, by decide, by decide, by decide,
      by decide⟩
    let g : Group := ⟨closing, [⟨opening, dashed, some graph⟩, ⟨closing, colons, some person⟩,
      ⟨person, dashed, some opening⟩, ⟨graph, colons, some graph⟩]⟩
    let d : Diagram := ⟨⟨"FlowChart".toList, "lr".toList⟩, by decide, [.group g,
      .relationship ⟨closing, some colons, graph⟩, .style ⟨closing, dashed⟩]⟩
    let t := "\n  FlowChart \tlr\n\tsubgraph end\nsubgraph[ x: graph LR -]:::graph\r\n".toList ++
      "end[::]:::person\n\n person[x: graph LR - ]:::subgraph\ngraph[::]:::graph\n".toList ++
      "  end\nend -->| ::| graph\nclassDef end  x: graph LR -".toList
    d.Spelled t ∧
      (Chart.validate t).errors = [(Flaw.unknownCategory "graph".toList).message,
        (Flaw.unknownCategory "subgraph".toList).message] ∧
      (Chart.tally t).relationships = 1 ∧ (Chart.tally t).entities .person = 1 := by
  intro graph opening closing person dashed colons g d t
  have h : d.Spelled t := by
    let nodes := ["subgraph[ x: graph LR -]:::graph".toList, "end[::]:::person".toList,
      "person[x: graph LR - ]:::subgraph".toList, "graph[::]:::graph".toList]
    refine ⟨" \t".toList, [g.opening :: (nodes ++ [ending]), ["end -->| ::| graph".toList],
      ["classDef end  x: graph LR -".toList]], by decide,
      .cons (.group (.cons ?_ (.cons ?_ (.cons ?_ (.cons ?_ .nil)))))
        (.cons (.relationship ?_) (.cons (.style ?_) .nil)), by decide +kernel⟩
    · exact ⟨" x: graph LR -".toList, by decide +kernel, by decide +kernel⟩
    · exact ⟨"::".toList, by decide +kernel, by decide +kernel⟩
    · exact ⟨"x: graph LR - ".toList, by decide +kernel, by decide +kernel⟩
    · exact ⟨"::".toList, by decide +kernel, by decide +kernel⟩
    · exact ⟨"| ::|".toList, ⟨" ::".toList, by decide +kernel, by decide +kernel⟩,
        by decide +kernel⟩
    · exact ⟨" x: graph LR -".toList, by decide +kernel, by decide +kernel⟩
  obtain ⟨herrors, -, -, hrelationships, hentities⟩ := validate_of_spelled d t h
  refine ⟨h, herrors.trans ?_, hrelationships.trans ?_, (hentities _).trans ?_⟩
  · decide +kernel
  · decide +kernel
  · decide +kernel

end Grammar
end CaseChart
