import CaseChart.Proofs.Chart.Readback

namespace CaseChart
open Text

/-- Texts with the same lines, but for white space at the ends of lines. -/
def Text.SameLines (s t : Text) : Prop := (lines s).map trimRight = (lines t).map trimRight

instance (s t : Text) : Decidable (SameLines s t) := inferInstanceAs (Decidable (_ = _))

namespace Line

def tidied (l : Line) : Line := { l with source := trimRight l.source }

theorem tidied_ofText (l : Text) : (ofText l).tidied = ofText (trimRight l) := by
  rw [tidied, ofText, ofText, trim_trimRight]

theorem splitBlock?_map_tidied (depth : Nat) (ls : List Line) :
    splitBlock? depth (ls.map tidied) =
      (splitBlock? depth ls).map fun p => (p.1.map tidied, p.2.map tidied) := by
  induction ls generalizing depth with
  | nil => rfl
  | cons l ls ih =>
    have hl : l.tidied.statement = l.statement := rfl
    rw [List.map_cons, splitBlock?, splitBlock?, hl]
    cases l.statement.depthAfter? depth with
    | none => rfl
    | some d =>
      dsimp only
      rw [ih, Option.map_map, Option.map_map]
      rfl

end Line

theorem Group.blockOf_tidied (opener : Line) (body : List Line) :
    blockOf opener.tidied (body.map Line.tidied) = blockOf opener body := by
  have hopen : openingLine opener.tidied = openingLine opener := by
    rw [openingLine, openingLine, Line.tidied, trim_trimRight, trimRight_trimRight]
  have hbody : (body.map Line.tidied).map (fun l => trimRight l.source) =
      body.map fun l => trimRight l.source := by
    rw [List.map_map]
    exact List.map_congr_left fun l _ => trimRight_trimRight l.source
  rw [blockOf_eq_dedent, blockOf_eq_dedent, rawBlock, rawBlock, hopen, hbody]

theorem Piece.ofLines_map_tidied (ls : List Line) : ofLines (ls.map Line.tidied) = ofLines ls := by
  fun_induction ofLines ls with
  | case1 => exact ofLines_nil
  | case2 l ls n hl body rest hs ih =>
    -- where a block ends depends on the statements in it, and those are the same
    have hclosed : Line.Closed (body.map Line.tidied) := by
      apply (Line.Closed.of_splitBlock? hs).congr
      rw [List.map_map]
      rfl
    rw [Line.eq_append_of_splitBlock? hs, List.map_cons, List.map_append,
      ofLines_cons_group (l := l.tidied) hl hclosed, Group.blockOf_tidied, ih]
  | case3 l ls n hl hs ih =>
    have hnone : Line.splitBlock? 0 (ls.map Line.tidied) = none := by
      rw [Line.splitBlock?_map_tidied, hs, Option.map_none]
    rw [List.map_cons, ofLines_cons_unterminated (l := l.tidied) hl hnone, ih]
  | case4 l ls hl ih =>
    rw [List.map_cons, ofLines_cons_style (l := l.tidied) hl, ih]
    rfl
  | case5 l ls hl ih =>
    rw [List.map_cons, ofLines_cons_relationship (l := l.tidied) hl, ih]
    rfl
  | case6 l ls hgroup hstyle hrelationship ih =>
    rw [List.map_cons, ← ih]
    cases hl : l.statement with
    | openGroup n => exact absurd hl (hgroup n)
    | closeGroup => exact ofLines_cons_closeGroup (l := l.tidied) hl _
    | style => exact absurd hl hstyle
    | relationship => exact absurd hl hrelationship
    | other => exact ofLines_cons_other (l := l.tidied) hl _

theorem Sections.ofChart_congr {s t : Text} (h : SameLines s t) : ofChart s = ofChart t := by
  have hlines : ∀ t, (linesOf t).map Line.tidied = ((lines t).map trimRight).map Line.ofText := by
    intro t
    rw [linesOf, List.map_map, List.map_map]
    exact List.map_congr_left fun l _ => Line.tidied_ofText l
  rw [ofChart_eq_ofPieces, ofChart_eq_ofPieces, ← Piece.ofLines_map_tidied (linesOf s), hlines, h,
    ← hlines, Piece.ofLines_map_tidied]

namespace Header

def ofLines? (ls : List Text) : Option Header :=
  (ls.find? (!isBlankText ·)).bind fun l => (read? (trim l)).map (·.header)

theorem ofLines?_cons_blank {l : Text} (h : isBlankText l = true) (ls : List Text) :
    ofLines? (l :: ls) = ofLines? ls := by
  rw [ofLines?, List.find?_cons_of_neg (by simp [h]), ofLines?]

theorem ofLines?_cons_visible {l : Text} (h : isBlankText l = false) (ls : List Text) :
    ofLines? (l :: ls) = (read? (trim l)).map (·.header) := by
  rw [ofLines?, List.find?_cons_of_pos (by simp [h]), Option.bind_some]

theorem ofLines?_map_trimRight (ls : List Text) : ofLines? (ls.map trimRight) = ofLines? ls := by
  induction ls with
  | nil => rfl
  | cons l ls ih =>
    cases h : isBlankText l with
    | true =>
      rw [List.map_cons, ofLines?_cons_blank (by rw [isBlankText_trimRight, h]), ih,
        ofLines?_cons_blank h]
    | false =>
      rw [List.map_cons, ofLines?_cons_visible (by rw [isBlankText_trimRight, h]), trim_trimRight,
        ofLines?_cons_visible h]

/-- A declaration stands on one line, although it is looked for in the whole chart. -/
theorem map_header_ofChart? (t : Text) : (ofChart? t).map (·.header) = ofLines? (lines t) := by
  induction hls : lines t generalizing t with
  | nil => rw [eq_nil_of_lines hls]; rfl
  | cons l ls ih =>
    obtain ⟨sep, r, ht, hsep, hr, hend⟩ := exists_append_of_lines hls
    cases hl : isBlankText l with
    | true =>
      rw [ofLines?_cons_blank hl, ← ih r hr, ht, ofChart?, trimLeft_append_of_isBlankText hl,
        trimLeft_append_of_isBlankText (isBlankText_of_isBreak hsep), ofChart?]
    | false =>
      -- the declaration, if there is one, ends before the separator
      have hhead : ∀ c ∈ (sep ++ r).head?, isBreak c = true := by
        cases sep with
        | nil => simp [hend rfl]
        | cons d sep =>
          rintro c ⟨⟩
          exact hsep d List.mem_cons_self
      rw [ofLines?_cons_visible hl, ht, ofChart?, trimLeft_append hl,
        map_header_read?_append_break hhead, ← map_header_read?_trimRight, trim]

theorem ofChart_congr {s t : Text} (h : SameLines s t) : ofChart s = ofChart t := by
  rw [ofChart, ofChart, map_header_ofChart?, map_header_ofChart?, ← ofLines?_map_trimRight, h,
    ofLines?_map_trimRight]

end Header

namespace Merged

theorem ofCharts_congr_lines {ds es : List Text} (h : List.Forall₂ SameLines ds es) :
    ofCharts ds = ofCharts es := by
  have hparts : ds.map Sections.ofChart = es.map Sections.ofChart := by
    rw [← List.forall₂_eq_eq_eq, List.forall₂_map_left_iff, List.forall₂_map_right_iff]
    exact h.imp fun _ _ => Sections.ofChart_congr
  have hheader : Header.ofChart (ds.headD []) = Header.ofChart (es.headD []) := by
    cases h with
    | nil => rfl
    | cons hd _ => exact Header.ofChart_congr hd
  rw [ofCharts, ofCharts, hparts, hheader]

end Merged

namespace Chart

/-- Charts with the same lines, up to the white space at their ends, are merged to the same chart,
whatever ends their lines. -/
theorem merge_congr_lines {ds es : List Text} (hds : 2 ≤ ds.length)
    (h : List.Forall₂ SameLines ds es) : merge ds = merge es := by
  have hes : 2 ≤ es.length := h.length_eq ▸ hds
  rw [merge_of_two_le hds, merge_of_two_le hes, Merged.ofCharts_congr_lines h]

/-- Every separator there is, white space in front of them, and a direction that does not belong to
the keyword on the line before it. -/
theorem merge_congr_lines_separators :
    let d := "\n\tgraph\nLR\nsubgraph p\n\n\t  a\n\tend\nx --> y".toList
    let d' := "\n\nclassDef c d\n".toList
    let e := "\u2028\tgraph \u2029LR\r\nsubgraph p\u0085 \t\x0b\t  a\r\tend\u3000\x0cx --> y".toList
    let e' := "\u00a0\x1d\x1eclassDef c d \t\x1c".toList
    (2 ≤ [d, d'].length ∧ List.Forall₂ SameLines [d, d'] [e, e']) ∧
      merge [d, d'] = merge [e, e'] ∧ lines (merge [d, d']) = ["graph TD", "    subgraph p", "",
        "    \t  a", "    \tend", "", "    x --> y", "", "    classDef c d"].map String.toList := by
  intro d d' e e'
  have h : List.Forall₂ SameLines [d, d'] [e, e'] := by decide +kernel
  exact ⟨⟨by decide, h⟩, merge_congr_lines (by decide) h, by decide +kernel⟩

end Chart
end CaseChart
