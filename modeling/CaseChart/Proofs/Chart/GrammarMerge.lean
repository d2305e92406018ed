import CaseChart.Proofs.Chart.GrammarLines
import Mathlib.Data.List.Infix

namespace CaseChart.Grammar
open Text

/-- Reading a label off the front, up to the bar after it. -/
theorem Phrase.append_inj {l m : Phrase} {s t : Text}
    (h : l.text ++ '|' :: s = m.text ++ '|' :: t) : l = m ∧ s = t := by
  have hp : ∀ p : Phrase, ∀ c ∈ p.text, (c != '|') = true := by
    intro p c hc
    simp [(p.plain c hc).2.2]
  have hl := congrArg (List.takeWhile (· != '|')) h
  rw [takeWhile_append_of_head (hp l) (by simp), takeWhile_append_of_head (hp m) (by simp)] at hl
  obtain rfl := Phrase.ext hl
  exact ⟨rfl, (List.cons.inj (List.append_cancel_left h)).2⟩

theorem arrowLabel_append_inj {l m : Option Phrase} {s t : Text}
    (h : arrowLabel l ++ ' ' :: s = arrowLabel m ++ ' ' :: t) : l = m ∧ s = t := by
  cases l with
  | none =>
    cases m with
    | none => exact ⟨rfl, (List.cons.inj h).2⟩
    | some m => exact absurd (List.cons.inj h).1 (by decide)
  | some l =>
    cases m with
    | none => exact absurd (List.cons.inj h).1 (by decide)
    | some m =>
      have hb : l.text ++ '|' :: ' ' :: s = m.text ++ '|' :: ' ' :: t := by
        simpa [arrowLabel] using h
      obtain ⟨rfl, hs⟩ := Phrase.append_inj hb
      exact ⟨rfl, (List.cons.inj hs).2⟩

theorem Relationship.statement_injective : Function.Injective Relationship.statement := by
  intro r s h
  rw [statement_eq, statement_eq] at h
  obtain ⟨hsource, h⟩ := Identifier.append_inj h r.statement_punctuated.isWord_head
    s.statement_punctuated.isWord_head
  have ha : " -->".toList ++ (arrowLabel r.label ++ ' ' :: r.target.letters) =
      " -->".toList ++ (arrowLabel s.label ++ ' ' :: s.target.letters) := h
  obtain ⟨hlabel, htarget⟩ := arrowLabel_append_inj (List.append_cancel_left ha)
  obtain ⟨source, label, target⟩ := r
  obtain rfl := hsource
  obtain rfl := hlabel
  obtain rfl := Identifier.ext htarget
  rfl

theorem Style.statement_injective : Function.Injective Style.statement := by
  intro r s h
  rw [statement, statement] at h
  have hn := (List.cons.inj (List.append_cancel_left h)).2
  obtain ⟨hname, ha⟩ := Identifier.append_inj hn (by rintro c ⟨⟩; decide) (by rintro c ⟨⟩; decide)
  obtain ⟨name, attributes⟩ := r
  obtain rfl := hname
  obtain rfl := Phrase.ext (List.cons.inj ha).2
  rfl

namespace Construct

theorem unbroken_lines (c : Construct) : ∀ l ∈ c.lines, Unbroken l := by
  have hm : Unbroken margin := by decide
  cases c with
  | group g =>
    rw [lines, g.lines_eq_indent]
    exact g.settled_found.unbroken_indent
  | relationship r =>
    intro l hl
    rw [List.mem_singleton.1 hl]
    exact unbroken_append.2 ⟨hm, r.stands_statement.unbroken⟩
  | style s =>
    intro l hl
    rw [List.mem_singleton.1 hl]
    exact unbroken_append.2 ⟨hm, s.stands_statement.unbroken⟩

theorem ne_nil_of_mem_lines {c : Construct} {l : Text} (hl : l ∈ c.lines) : l ≠ [] := by
  have hm : ∀ s, margin ++ s ≠ [] := fun s => List.append_ne_nil_of_left_ne_nil (by decide) s
  cases c with
  | group g =>
    simp only [lines, Group.lines, List.cons_append, List.mem_cons, List.mem_append, List.mem_map,
      List.not_mem_nil, or_false] at hl
    rcases hl with rfl | ⟨n, -, rfl⟩ | rfl
    · exact hm _
    · exact List.append_assoc .. ▸ hm _
    · exact hm _
  | relationship r => exact List.mem_singleton.1 hl ▸ hm _
  | style s => exact List.mem_singleton.1 hl ▸ hm _

def piece : Construct → Piece
  | group g => .group g.found
  | relationship r => .relationship r.statement
  | style s => .style s.statement

theorem ofLines_append (c : Construct) (rest : List Line) :
    Piece.ofLines (c.lines.map Line.ofText ++ rest) = c.piece :: Piece.ofLines rest := by
  cases c with
  | group g =>
    rw [lines, g.lines_eq_indent, g.settled_found.ofLines_append]
    rfl
  | relationship r =>
    have hr := r.stands_statement.ofText_append (p := margin) (by decide)
    rw [lines, List.map_singleton, Relationship.line, hr]
    exact Piece.ofLines_cons_relationship rfl rest
  | style s =>
    have hs := s.stands_statement.ofText_append (p := margin) (by decide)
    rw [lines, List.map_singleton, Style.line, hs]
    exact Piece.ofLines_cons_style rfl rest

theorem ofLines_flatMap (cs : List Construct) :
    Piece.ofLines ((cs.flatMap lines).map Line.ofText) = cs.map piece := by
  have h : ∀ c ∈ cs, ∀ rest, Piece.ofLines (c.lines.map Line.ofText ++ rest) =
      c.piece :: Piece.ofLines rest := fun c _ => c.ofLines_append
  have hs := Piece.ofLines_flatMap_append h []
  rwa [List.append_nil, Piece.ofLines_nil, List.append_nil, ← List.map_flatMap] at hs

end Construct

namespace Diagram

theorem unbroken_lines (d : Diagram) : ∀ l ∈ d.lines, Unbroken l := by
  intro l hl
  rcases List.mem_cons.1 hl with rfl | hl
  · exact d.proper.unbroken_line
  · obtain ⟨c, -, hc⟩ := List.mem_flatMap.1 hl
    exact c.unbroken_lines l hc

theorem lines_ne_nil (d : Diagram) : ∀ l ∈ d.lines, l ≠ [] := by
  intro l hl
  rcases List.mem_cons.1 hl with rfl | hl
  · exact List.append_ne_nil_of_left_ne_nil d.proper.keyword_ne_nil _
  · obtain ⟨c, -, hc⟩ := List.mem_flatMap.1 hl
    exact Construct.ne_nil_of_mem_lines hc

theorem Written.lines_eq {d : Diagram} {t : Text} (h : d.Written t) : Text.lines t = d.lines := by
  rcases h with rfl | rfl
  · exact lines_join_newline d.unbroken_lines d.lines_ne_nil
  · have hne : d.lines ≠ [] := List.cons_ne_nil _ _
    rw [join_newline_append hne, lines_unlines d.unbroken_lines]

/-- Behind the declaration a text ends or goes on below it. -/
theorem Written.exists_append {d : Diagram} {t : Text} (h : d.Written t) :
    ∃ r, t = d.header.line ++ r ∧ Header.continuesWord r = false := by
  have hj := join_newline_cons d.header.line (d.body.flatMap Construct.lines)
  rcases h with rfl | rfl
  · rcases hj with hj | ⟨s, hj⟩
    · exact ⟨[], by rw [lines, hj, List.append_nil], rfl⟩
    · exact ⟨'\n' :: s, by rw [lines, hj], rfl⟩
  · rcases hj with hj | ⟨s, hj⟩
    · exact ⟨['\n'], by rw [lines, hj], rfl⟩
    · exact ⟨'\n' :: s ++ ['\n'], by rw [lines, hj, List.append_assoc], rfl⟩

theorem Written.header_eq {d : Diagram} {t : Text} (h : d.Written t) :
    Header.ofChart t = d.header := by
  obtain ⟨r, rfl, hr⟩ := h.exists_append
  exact Header.ofChart_line_append d.proper hr

def sections (d : Diagram) : Sections where
  groups := d.groups.map Group.found
  relationships := d.relationships.map Relationship.statement
  styles := d.styles.map Style.statement
  unterminated := []

theorem ofPieces_body (d : Diagram) :
    Sections.ofPieces (d.body.map Construct.piece) = d.sections := by
  rw [sections, groups, relationships, styles]
  induction d.body with
  | nil => rfl
  | cons c cs ih =>
    simp only [Sections.ofPieces, List.map_cons, List.filterMap_cons, Sections.mk.injEq] at ih ⊢
    cases c with
    | group g => simp [Construct.piece, ih]
    | relationship r => simp [Construct.piece, ih]
    | style s => simp [Construct.piece, ih]

theorem Written.sections_eq {d : Diagram} {t : Text} (h : d.Written t) :
    Sections.ofChart t = d.sections := by
  rw [Sections.ofChart_eq_ofPieces, Sections.linesOf, h.lines_eq, lines, List.map_cons,
    Piece.ofLines_cons_other (Line.statement_ofText_header d.proper), Construct.ofLines_flatMap,
    ofPieces_body]

end Diagram

namespace Outline

def merged (o : Outline) : Merged where
  header := o.header
  groups := o.groups.map Group.found
  relationships := o.relationships.map Relationship.statement
  styles := o.styles.map Style.statement

theorem text_merged (o : Outline) : o.merged.text = o.layout := by
  have hm : margin = Merged.lead := by decide
  have hg : ∀ g ∈ o.merged.groups, g.block ≠ [] := by
    intro g hg
    obtain ⟨g, -, rfl⟩ := List.mem_map.1 hg
    exact g.settled_found.block_ne_nil
  have hl : o.merged.groups.flatMap Merged.groupLines =
      o.groups.flatMap fun g => g.lines ++ [[]] := by
    rw [merged, List.flatMap_map]
    exact List.flatMap_congr fun g _ => by rw [Merged.groupLines, g.lines_eq_indent]
  have hr : Relationship.line = fun r => margin ++ r.statement := rfl
  have hs : Style.line = fun s => margin ++ s.statement := rfl
  rw [Merged.text_eq_unlines hg, Merged.linesOf, hl, layout]
  simp [merged, Function.comp_def, hr, hs, ← hm]

/-- Taking the firsts of the parts and taking the firsts of their texts is one and the same. -/
theorem ofCharts_eq_merged {d : Diagram} {ds : List Diagram} {ts : List Text}
    (h : List.Forall₂ Diagram.Written (d :: ds) ts) :
    Merged.ofCharts ts = (ofDiagrams d ds).merged := by
  have hs : ts.map Sections.ofChart = (d :: ds).map Diagram.sections := by
    rw [← List.forall₂_eq_eq_eq, List.forall₂_map_left_iff, List.forall₂_map_right_iff]
    exact h.flip.imp fun _ _ => Diagram.Written.sections_eq
  have hh : Header.ofChart (ts.headD []) = d.header := by
    cases h with
    | cons hw _ => exact hw.header_eq
  have hg : ((d :: ds).map Diagram.sections).flatMap Sections.groups =
      ((d :: ds).flatMap Diagram.groups).map Group.found := by
    rw [List.flatMap_map, List.map_flatMap]
    rfl
  have hr : ((d :: ds).map Diagram.sections).flatMap Sections.relationships =
      ((d :: ds).flatMap Diagram.relationships).map Relationship.statement := by
    rw [List.flatMap_map, List.map_flatMap]
    rfl
  have hst : ((d :: ds).map Diagram.sections).flatMap Sections.styles =
      ((d :: ds).flatMap Diagram.styles).map Style.statement := by
    rw [List.flatMap_map, List.map_flatMap]
    rfl
  -- groups are one if their names are, relationships and styles if their lines are
  have hk : ∀ a b : Group, a.found.name = b.found.name ↔ a.name = b.name :=
    fun a b => Identifier.ext_iff.symm
  simp only [Merged.ofCharts, ofDiagrams, merged, hs, hh]
  rw [hg, hr, hst, firstsOn_map, firstsOn_congr hk,
    firsts_map_of_injective Relationship.statement_injective,
    firsts_map_of_injective Style.statement_injective]

end Outline

/-- The merge of the texts of two or more charts is the layout of their outline. -/
theorem merge_eq_layout (d e : Diagram) (ds : List Diagram) (ts : List Text)
    (h : List.Forall₂ Diagram.Written (d :: e :: ds) ts) :
    Chart.merge ts = (Outline.ofDiagrams d (e :: ds)).layout := by
  have hl : 2 ≤ ts.length := by
    rw [← h.length_eq]
    simp
  rw [Chart.merge_of_two_le hl, Outline.ofCharts_eq_merged h, Outline.text_merged]

/-- Names that are spelled like keywords, and a second group of one name. -/
theorem merge_eq_layout_keywords :
    let graph : Identifier := ⟨"graph".toList, by decide, by decide⟩
    let opening : Identifier := ⟨"subgraph".toList, by decide, by decide⟩
    let closing : Identifier := ⟨"end".toList, by decide, by decide⟩
    let label : Phrase := ⟨"x: y".toList, by decide, by decide, by decide, by decide, by decide,
      by decide⟩
    let d : Diagram := ⟨⟨"graph".toList, "LR".toList⟩, by decide, [
      .group ⟨closing, [⟨opening, label, none⟩, ⟨closing, label, some graph⟩]⟩,
      .relationship ⟨closing, some label, graph⟩]⟩
    let e : Diagram := ⟨⟨"flowchart".toList, "TD".toList⟩, by decide, [
      .relationship ⟨opening, none, closing⟩, .group ⟨closing, []⟩, .style ⟨closing, label⟩,
      .relationship ⟨closing, some label, graph⟩]⟩
    let t := ("graph LR\n    subgraph end\n        subgraph[x: y]\n        end[x: y]:::graph\n" ++
      "    end\n    end -->|x: y| graph").toList
    let u := ("flowchart TD\n    subgraph --> end\n    subgraph end\n    end\n" ++
      "    classDef end x: y\n    end -->|x: y| graph\n").toList
    List.Forall₂ Diagram.Written [d, e] [t, u] ∧ Chart.merge [t, u] =
      ("graph LR\n    subgraph end\n        subgraph[x: y]\n        end[x: y]:::graph\n" ++
        "    end\n\n    end -->|x: y| graph\n    subgraph --> end\n\n" ++
        "    classDef end x: y\n").toList := by
  intro graph opening closing label d e t u
  have h : List.Forall₂ Diagram.Written [d, e] [t, u] :=
    .cons (.inl (by decide +kernel)) (.cons (.inr (by decide +kernel)) .nil)
  refine ⟨h, ?_⟩
  rw [merge_eq_layout d e [] [t, u] h]
  decide +kernel

end CaseChart.Grammar
