import CaseChart.Chart.Merge
import CaseChart.Proofs.Chart.Sections
import CaseChart.Proofs.Firsts
import CaseChart.Proofs.Text.Split

namespace CaseChart
open Text

namespace Group

def openingLine (opener : Line) : Text :=
  if opener.content = trim opener.source then trimRight opener.source else opener.content

/-- The lines of a block before their margin is taken away. -/
def rawBlock (opener : Line) (body : List Line) : List Text :=
  openingLine opener :: body.map fun l => trimRight l.source

theorem blockOf_eq_dedent (opener : Line) (body : List Line) :
    blockOf opener body = dedent (rawBlock opener body) := rfl

theorem trimRight_openingLine (s : Text) :
    trimRight (openingLine (Line.ofText s)) = openingLine (Line.ofText s) := by
  rw [openingLine]
  split
  · exact trimRight_trimRight s
  · exact Header.trimRight_strip_trim s

theorem unbroken_openingLine {s : Text} (h : Unbroken s) :
    Unbroken (openingLine (Line.ofText s)) := by
  rw [openingLine]
  split
  · exact h.of_start (List.rdropWhile_prefix isBlank s)
  · exact Line.unbroken_content h

/-- Without a declaration in front of it, the opening line is its own statement. -/
theorem trim_openingLine {s n : Text} (h : (Line.ofText s).statement = .openGroup n) :
    trim (openingLine (Line.ofText s)) = (Line.ofText s).content ∧
      Header.strip (Line.ofText s).content = (Line.ofText s).content := by
  obtain ⟨ht, hs⟩ := Statement.strip_trim_of_openGroup h (Header.trimRight_strip_trim s)
  refine ⟨?_, hs⟩
  rw [openingLine]
  split
  · next he => rw [trim_trimRight, he, Line.source_ofText]
  · exact ht

/-- A group that is found again wherever its block stands with a margin in front. -/
structure Settled (g : Group) : Prop where
  block : ∃ o body, g.block = o :: body ∧ (Line.ofText o).statement = .openGroup g.name ∧
    (Line.ofText o).content = trim o ∧ Line.Closed (body.map Line.ofText)
  unbroken : ∀ l ∈ g.block, Unbroken l
  tidy : Tidy g.block
  flush : commonMargin g.block = []

theorem Settled.block_ne_nil {g : Group} (h : g.Settled) : g.block ≠ [] := by
  obtain ⟨o, body, hb, -⟩ := h.block
  rw [hb]
  exact List.cons_ne_nil o body

/-- The block can be read off its text. -/
theorem Settled.split_text {g : Group} (h : g.Settled) : split '\n' g.text = g.block := by
  apply split_join h.block_ne_nil
  intro l hl hnl
  exact absurd (h.unbroken l hl '\n' hnl) (by decide)

theorem tidy_rawBlock (s : Text) (body : List Line) : Tidy (rawBlock (Line.ofText s) body) := by
  intro l hl
  rcases List.mem_cons.1 hl with rfl | hl
  · exact trimRight_openingLine s
  · obtain ⟨x, -, rfl⟩ := List.mem_map.1 hl
    exact trimRight_trimRight x.source

theorem unbroken_rawBlock {s : Text} (hs : Unbroken s) {body : List Line}
    (hb : ∀ x ∈ body, Unbroken x.source) : ∀ l ∈ rawBlock (Line.ofText s) body, Unbroken l := by
  intro l hl
  rcases List.mem_cons.1 hl with rfl | hl
  · exact unbroken_openingLine hs
  · obtain ⟨x, hx, rfl⟩ := List.mem_map.1 hl
    exact (hb x hx).of_start (List.rdropWhile_prefix isBlank x.source)

theorem settled_of_mem {t : Text} {g : Group} (h : g ∈ (Sections.ofChart t).groups) :
    g.Settled := by
  cases Piece.from_of_mem_ofLines (Sections.group_mem_iff.1 h) with
  | @group l n body hl hb hn hc =>
    obtain ⟨hlu, hle⟩ := Sections.exists_of_mem_linesOf hl
    have hbody : ∀ x ∈ body, Unbroken x.source ∧ x = Line.ofText x.source :=
      fun x hx => Sections.exists_of_mem_linesOf (hb hx)
    generalize l.source = s at hlu hle
    subst hle
    have ht := tidy_rawBlock s body
    have hu := unbroken_rawBlock hlu fun x hx => (hbody x hx).1
    obtain ⟨ho, hstrip⟩ := trim_openingLine hn
    have hmem : ∀ x ∈ body, trimRight x.source ∈ rawBlock (Line.ofText s) body :=
      fun x hx => List.mem_cons_of_mem _ (List.mem_map_of_mem hx)
    have hopen : openingLine (Line.ofText s) ∈ rawBlock (Line.ofText s) body := List.mem_cons_self
    have hdrop := trim_drop_commonMargin hopen
    refine ⟨?_, ?_, ?_, ?_⟩
    -- taking the margin away leaves every line the statement that it was in the chart
    · refine ⟨_, _, by rw [blockOf_eq_dedent, dedent_of_tidy ht]; exact List.map_cons, ?_, ?_, ?_⟩
      · rw [Line.statement_ofText, hdrop, ho, hstrip]
        exact hn
      · rw [Line.content_ofText, hdrop, ho, hstrip]
      · have hsource : (body.map Line.source).map Line.ofText = body := by
          rw [List.map_map]
          exact map_eq_self fun x hx => (hbody x hx).2.symm
        have hf : ∀ k ∈ body.map Line.source, trim ((trimRight k).drop
            (commonMargin (rawBlock (Line.ofText s) body)).length) = trim k := by
          intro k hk
          obtain ⟨x, hx, rfl⟩ := List.mem_map.1 hk
          exact (trim_drop_commonMargin (hmem x hx)).trans (trim_trimRight x.source)
        rw [← hsource] at hc
        simpa only [List.map_map, Function.comp_def] using hc.map_of_trim hf
    · rw [blockOf_eq_dedent, dedent_of_tidy ht]
      intro k hk
      obtain ⟨j, hj, rfl⟩ := List.mem_map.1 hk
      exact (hu j hj).of_suffix (List.drop_suffix _ j)
    · exact tidy_dedent ht
    · exact commonMargin_dedent ht

theorem isMargin_lead : IsMargin Merged.lead := by decide

theorem Settled.unbroken_indent {g : Group} (h : g.Settled) :
    ∀ l ∈ indent Merged.lead g.block, Unbroken l := by
  intro l hl
  obtain ⟨k, hk, rfl⟩ := List.mem_map.1 hl
  split
  · exact h.unbroken k hk
  · exact unbroken_append.2 ⟨by decide, h.unbroken k hk⟩

/-- A settled group is read off the lines of its block, whatever follows them. -/
theorem Settled.ofLines_append {g : Group} (h : g.Settled) (rest : List Line) :
    Piece.ofLines ((indent Merged.lead g.block).map Line.ofText ++ rest) =
      .group g :: Piece.ofLines rest := by
  obtain ⟨o, body, hb, hn, hco, hc⟩ := h.block
  have hi : dedent (indent Merged.lead g.block) = g.block :=
    dedent_indent isMargin_lead h.tidy h.flush
  have ht : Tidy (indent Merged.lead g.block) := indent_of_tidy h.tidy _ ▸ h.tidy.shift _
  rw [hb] at hi ht ⊢
  rw [indent, List.map_cons] at hi ht ⊢
  rw [← indent] at hi ht ⊢
  -- the margin in front of the opening line is no declaration, so the line is taken as written
  generalize ho : (if isBlankText o then o else Merged.lead ++ o) = o' at hi ht ⊢
  have hto : trim o' = trim o := ho ▸ trim_indent isMargin_lead
  have hn' : (Line.ofText o').statement = .openGroup g.name := by
    rw [Line.statement_ofText_congr hto, hn]
  have hc' : Line.Closed ((indent Merged.lead body).map Line.ofText) :=
    hc.map_of_trim fun k _ => trim_indent isMargin_lead
  have hopen : openingLine (Line.ofText o') = o' := by
    rw [openingLine, Line.content_ofText_congr hto, hco, Line.source_ofText, hto, if_pos rfl]
    exact ht o' List.mem_cons_self
  have hraw : rawBlock (Line.ofText o') ((indent Merged.lead body).map Line.ofText) =
      o' :: indent Merged.lead body := by
    rw [rawBlock, hopen, List.map_map]
    congr 1
    exact map_eq_self fun k hk => ht k (List.mem_cons_of_mem o' hk)
  rw [List.map_cons, List.cons_append, Piece.ofLines_cons_group hn' hc', blockOf_eq_dedent, hraw,
    hi, ← hb]

end Group

namespace Merged

/-- A merge with parts that are found again in its text. -/
structure Settled (m : Merged) : Prop where
  header : m.header.Proper
  groups : ∀ g ∈ m.groups, g.Settled
  relationships : ∀ r ∈ m.relationships, Line.Stands .relationship r
  styles : ∀ s ∈ m.styles, Line.Stands .style s

def groupLines (g : Group) : List Text := indent lead g.block ++ [[]]

def linesOf (m : Merged) : List Text :=
  m.header.line :: (m.groups.flatMap groupLines ++ m.relationships.map (lead ++ ·) ++
    [] :: m.styles.map (lead ++ ·))

theorem groupText_eq_unlines {g : Group} (h : g.block ≠ []) :
    groupText g = unlines (groupLines g) := by
  have hi : indent lead g.block ≠ [] := by simpa [indent] using h
  rw [groupLines, unlines_append, ← join_newline_append hi, groupText, List.append_assoc]
  rfl

theorem text_eq_unlines {m : Merged} (h : ∀ g ∈ m.groups, g.block ≠ []) :
    m.text = unlines m.linesOf := by
  have hg : m.groups.flatMap groupText = unlines (m.groups.flatMap groupLines) := by
    rw [unlines, List.flatMap_assoc]
    exact List.flatMap_congr fun g hg => groupText_eq_unlines (h g hg)
  have hl : ∀ ls : List Text, ls.flatMap lineText = unlines (ls.map (lead ++ ·)) := by
    intro ls
    rw [unlines_map]
    rfl
  rw [text, hg, hl, hl, linesOf]
  simp [unlines]

theorem unbroken_linesOf {m : Merged} (hheader : m.header.Proper)
    (hgroups : ∀ g ∈ m.groups, g.Settled) (hrelationships : ∀ r ∈ m.relationships, Unbroken r)
    (hstyles : ∀ s ∈ m.styles, Unbroken s) : ∀ l ∈ m.linesOf, Unbroken l := by
  have hlead : Unbroken lead := by decide
  intro l hl
  simp only [linesOf, List.mem_cons, List.mem_append, List.mem_flatMap, List.mem_map] at hl
  rcases hl with rfl | (⟨g, hg, hl⟩ | ⟨r, hr, rfl⟩) | rfl | ⟨s, hs, rfl⟩
  · exact hheader.unbroken_line
  · rcases List.mem_append.1 hl with hl | hl
    · exact (hgroups g hg).unbroken_indent l hl
    · rw [List.mem_singleton.1 hl]
      decide
  · exact unbroken_append.2 ⟨hlead, hrelationships r hr⟩
  · decide
  · exact unbroken_append.2 ⟨hlead, hstyles s hs⟩

/-- A merge is read as the lines that it is written as. -/
theorem lines_text {m : Merged} (hheader : m.header.Proper) (hgroups : ∀ g ∈ m.groups, g.Settled)
    (hrelationships : ∀ r ∈ m.relationships, Unbroken r) (hstyles : ∀ s ∈ m.styles, Unbroken s) :
    lines m.text = m.linesOf := by
  rw [text_eq_unlines fun g hg => (hgroups g hg).block_ne_nil]
  exact lines_unlines (unbroken_linesOf hheader hgroups hrelationships hstyles)

theorem ofLines_groups {gs : List Group} (h : ∀ g ∈ gs, g.Settled) (rest : List Line) :
    Piece.ofLines ((gs.flatMap groupLines).map Line.ofText ++ rest) =
      gs.map .group ++ Piece.ofLines rest := by
  rw [List.map_flatMap]
  apply Piece.ofLines_flatMap_append
  intro g hg rest
  rw [groupLines, List.map_append, List.append_assoc, (h g hg).ofLines_append, List.map_singleton,
    List.singleton_append, Piece.ofLines_cons_other Line.statement_ofText_nil]

/-- Statements of one kind, each with a margin in front. -/
theorem ofLines_stands {s : Statement} (piece : Text → Piece)
    (hp : ∀ l : Line, l.statement = s → ∀ ls,
      Piece.ofLines (l :: ls) = piece l.content :: Piece.ofLines ls)
    {ts : List Text} (h : ∀ t ∈ ts, Line.Stands s t) (rest : List Line) :
    Piece.ofLines ((ts.map (lead ++ ·)).map Line.ofText ++ rest) =
      ts.map piece ++ Piece.ofLines rest := by
  rw [List.map_map, List.map_eq_flatMap]
  apply Piece.ofLines_flatMap_append
  intro t ht rest
  have hl := (h t ht).ofText_append (p := lead) (by decide)
  rw [List.singleton_append, Function.comp_apply, hl, hp _ rfl]

/-- The parts of a merged chart are the parts that it was written from. -/
theorem Settled.sections_text {m : Merged} (h : m.Settled) :
    Sections.ofChart m.text = ⟨m.groups, m.relationships, m.styles, []⟩ := by
  have ht : lines m.text = m.linesOf := lines_text h.header h.groups
    (fun r hr => (h.relationships r hr).unbroken) fun s hs => (h.styles s hs).unbroken
  have hr := ofLines_stands .relationship (fun _ => Piece.ofLines_cons_relationship) h.relationships
  have hs := ofLines_stands .style (fun _ => Piece.ofLines_cons_style) h.styles []
  rw [Piece.ofLines_nil, List.append_nil, List.append_nil] at hs
  -- the declaration and the empty lines are read as nothing
  rw [Sections.ofChart_eq_ofPieces, Sections.linesOf, ht, linesOf, List.map_cons,
    Piece.ofLines_cons_other (Line.statement_ofText_header h.header)]
  simp only [List.map_append, List.append_assoc]
  rw [ofLines_groups h.groups, hr, List.map_cons,
    Piece.ofLines_cons_other Line.statement_ofText_nil, hs, ← List.append_assoc,
    Sections.ofPieces_of_kinds]

theorem exists_text_eq (m : Merged) : ∃ t, m.text = m.header.line ++ '\n' :: t := by
  refine ⟨m.groups.flatMap groupText ++ m.relationships.flatMap lineText ++
    '\n' :: m.styles.flatMap lineText, ?_⟩
  simp [text]

theorem Settled.header_text {m : Merged} (h : m.Settled) : Header.ofChart m.text = m.header := by
  obtain ⟨t, ht⟩ := m.exists_text_eq
  rw [ht, Header.ofChart_line_append h.header rfl]

end Merged

namespace Sections

theorem stands_of_mem_styles {t s : Text} (h : s ∈ (ofChart t).styles) : Line.Stands .style s := by
  cases Piece.from_of_mem_ofLines (style_mem_iff.1 h) with
  | @style l hl hs =>
    obtain ⟨hu, he⟩ := exists_of_mem_linesOf hl
    rw [he] at hs ⊢
    obtain ⟨ht, hst⟩ := Statement.strip_trim_of_style hs (Header.trimRight_strip_trim l.source)
    refine ⟨Line.unbroken_content hu, ?_, hs⟩
    rw [Line.content_ofText, ht, hst]

theorem of_mem_relationships {t r : Text} (h : r ∈ (ofChart t).relationships) :
    Unbroken r ∧ Statement.ofText r = .relationship := by
  cases Piece.from_of_mem_ofLines (relationship_mem_iff.1 h) with
  | @relationship l hl hs =>
    obtain ⟨hu, he⟩ := exists_of_mem_linesOf hl
    rw [he] at hs ⊢
    exact ⟨Line.unbroken_content hu, hs⟩

end Sections

namespace Merged

section
variable {ds : List Text}

/-- A part that is kept is a part of one of the charts. -/
theorem exists_source {α κ : Type} [DecidableEq κ] {key : α → κ} {part : Sections → List α} {a : α}
    (h : a ∈ firstsOn key ((ds.map Sections.ofChart).flatMap part)) :
    ∃ d ∈ ds, a ∈ part (Sections.ofChart d) := by
  obtain ⟨p, hp, ha⟩ := List.mem_flatMap.1 (mem_of_mem_firstsOn h)
  obtain ⟨d, hd, rfl⟩ := List.mem_map.1 hp
  exact ⟨d, hd, ha⟩

theorem settled_of_mem_groups {g : Group} (h : g ∈ (ofCharts ds).groups) : g.Settled := by
  obtain ⟨d, -, hg⟩ := exists_source h
  exact Group.settled_of_mem hg

theorem stands_of_mem_styles {s : Text} (h : s ∈ (ofCharts ds).styles) : Line.Stands .style s := by
  obtain ⟨d, -, hs⟩ := exists_source h
  exact Sections.stands_of_mem_styles hs

theorem unbroken_of_mem_relationships {r : Text} (h : r ∈ (ofCharts ds).relationships) :
    Unbroken r := by
  obtain ⟨d, -, hr⟩ := exists_source h
  exact (Sections.of_mem_relationships hr).1

theorem settled_ofCharts
    (hr : ∀ d ∈ ds, ∀ r ∈ (Sections.ofChart d).relationships, Header.strip (trim r) = r) :
    (ofCharts ds).Settled where
  header := Header.proper_ofChart _
  groups _ := settled_of_mem_groups
  relationships r hmem := by
    obtain ⟨d, hd, hrd⟩ := exists_source hmem
    obtain ⟨hu, hs⟩ := Sections.of_mem_relationships hrd
    exact ⟨hu, hr d hd r hrd, hs⟩
  styles _ := stands_of_mem_styles

theorem lines_text_ofCharts (ds : List Text) :
    lines (ofCharts ds).text = (ofCharts ds).linesOf :=
  lines_text (Header.proper_ofChart _) (fun _ => settled_of_mem_groups)
    (fun _ => unbroken_of_mem_relationships) fun _ hs => (stands_of_mem_styles hs).unbroken

end

end Merged

namespace Chart

theorem merge_of_two_le {ds : List Text} (h : 2 ≤ ds.length) :
    merge ds = (Merged.ofCharts ds).text := by
  match ds, h with
  | _ :: _ :: _, _ => rfl

/-- What is extracted from a merged chart is what went into it, without repetition. A relationship
that would be cut again, at white space or at a second declaration, is excluded. -/
theorem sections_merge (ds : List Text) (hds : 2 ≤ ds.length)
    (hr : ∀ d ∈ ds, ∀ r ∈ (Sections.ofChart d).relationships, Header.strip (trim r) = r) :
    let parts := ds.map Sections.ofChart
    let merged := Sections.ofChart (merge ds)
    merged.unterminated = [] ∧
      merged.groups = firstsOn Group.name (parts.flatMap Sections.groups) ∧
      (merged.groups.map Group.name).Nodup ∧
      merged.relationships = firsts (parts.flatMap Sections.relationships) ∧
      merged.styles = firsts (parts.flatMap Sections.styles) ∧
      Header.ofChart (merge ds) = Header.ofChart (ds.headD []) := by
  have hm : (Merged.ofCharts ds).Settled := Merged.settled_ofCharts hr
  rw [merge_of_two_le hds, hm.sections_text, hm.header_text]
  exact ⟨rfl, rfl, nodup_map_firstsOn _ _, rfl, rfl, rfl⟩

/-- An inner group with an end of its own, a group on the line of a declaration, a second group of
the same name and one that is never closed. -/
theorem sections_merge_nested :
    let ds := ["graph LR; subgraph p\n\tsubgraph q\n\t  a[A]\n end ;\n\nend\na --> b".toList,
      "subgraph p\nend\nsubgraph r\n  a --> b\nc --- d".toList]
    (2 ≤ ds.length ∧
      ∀ d ∈ ds, ∀ r ∈ (Sections.ofChart d).relationships, Header.strip (trim r) = r) ∧
      (Sections.ofChart (merge ds)).unterminated = [] ∧
      (Sections.ofChart (merge ds)).groups.map Group.name = ["p".toList] ∧
      (Sections.ofChart (merge ds)).relationships = ["a --> b".toList, "c --- d".toList] := by
  intro ds
  have hr : ∀ d ∈ ds, ∀ r ∈ (Sections.ofChart d).relationships, Header.strip (trim r) = r := by
    decide +kernel
  obtain ⟨hu, hg, -, hrel, -⟩ := sections_merge ds (by decide) hr
  refine ⟨⟨by decide, hr⟩, hu, ?_, ?_⟩
  · rw [hg]
    decide +kernel
  · rw [hrel]
    decide +kernel

end Chart
end CaseChart
