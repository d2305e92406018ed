import CaseChart.Chart.Tally
import CaseChart.Proofs.Chart.Remerge
import CaseChart.Proofs.Chart.Spacing
import CaseChart.Proofs.Chart.Verdict
import Mathlib.Algebra.BigOperators.Ring.Finset
import Mathlib.Data.List.Flatten
import Mathlib.Data.List.Perm.Basic
import Mathlib.Data.List.Perm.Subperm

namespace CaseChart
open Text Lexeme

namespace Piece

def text? : Piece → Option Text
  | group g => some g.text
  | unterminated _ => none
  | relationship l => some l
  | style l => some l

end Piece

namespace Line

/-- The statement on a line has all that counts in the line. -/
theorem content_statement {l : Line} (h : l = ofText l.source) :
    Lexeme.content l.content = Lexeme.content l.source := by
  rw [h, content_ofText, content_strip, content_congr (visible_trim l.source)]
  rfl

end Line

namespace Group

theorem content_openingLine (s : Text) :
    Lexeme.content (openingLine (Line.ofText s)) = Lexeme.content s := by
  rw [openingLine]
  split
  · exact content_congr (visible_congr (trim_trimRight s))
  · exact Line.content_statement rfl

/-- Neither cutting a declaration off nor moving the lines changes what counts in a block. -/
theorem content_text_blockOf (n s : Text) (body : List Line) :
    Lexeme.content (text ⟨n, blockOf (Line.ofText s) body⟩) =
      Lexeme.content s ++ body.flatMap fun l => Lexeme.content l.source := by
  have hraw : (blockOf (Line.ofText s) body).flatMap Lexeme.content =
      (rawBlock (Line.ofText s) body).flatMap Lexeme.content := by
    rw [blockOf_eq_dedent, dedent_of_tidy (tidy_rawBlock s body), List.flatMap_map]
    apply List.flatMap_congr
    intro l hl
    exact content_congr (visible_congr (trim_drop_commonMargin hl))
  have hbody : (body.map fun l => trimRight l.source).flatMap Lexeme.content =
      body.flatMap fun l => Lexeme.content l.source := by
    rw [List.flatMap_map]
    apply List.flatMap_congr
    intro l _
    exact content_congr (visible_congr (trim_trimRight l.source))
  rw [text, content_eq_flatMap (visible_join_newline _), hraw, rawBlock, List.flatMap_cons,
    content_openingLine, hbody]

end Group

namespace Piece

/-- A line that is a statement of its own gives all that counts in it. -/
theorem content_cons_sublist {l : Line} (h : l = Line.ofText l.source) {ls : List Line}
    {ts : List Text} (hts : (ts.flatMap content).Sublist (ls.flatMap fun l => content l.source)) :
    ((l.content :: ts).flatMap content).Sublist ((l :: ls).flatMap fun l => content l.source) := by
  rw [List.flatMap_cons, List.flatMap_cons, Line.content_statement h]
  exact hts.append_left _

/-- What counts in a line goes to one part at most. -/
theorem content_ofLines_sublist {ls : List Line} (h : ∀ l ∈ ls, l = Line.ofText l.source) :
    (((ofLines ls).filterMap text?).flatMap content).Sublist
      (ls.flatMap fun l => content l.source) := by
  fun_induction ofLines ls with
  | case1 => exact List.Sublist.refl _
  | case2 l ls n hl body rest hs ih =>
    have he : ls = body ++ rest := Line.eq_append_of_splitBlock? hs
    have hrest := ih fun x hx => h x (List.mem_cons_of_mem l (he ▸ List.mem_append_right body hx))
    have htext : content (Group.text ⟨n, Group.blockOf l body⟩) =
        content l.source ++ body.flatMap fun l => content l.source := by
      conv_lhs => rw [h l List.mem_cons_self, Group.content_text_blockOf]
    rw [List.filterMap_cons, text?, List.flatMap_cons, htext, he, List.flatMap_cons,
      List.flatMap_append, List.append_assoc]
    exact (hrest.append_left _).append_left _
  | case3 l ls n hl hs ih =>
    have hrest := ih fun x hx => h x (List.mem_cons_of_mem l hx)
    exact hrest.trans (List.sublist_append_right (content l.source) _)
  | case4 l ls hl ih =>
    have hrest := ih fun x hx => h x (List.mem_cons_of_mem l hx)
    rw [List.filterMap_cons, text?]
    exact content_cons_sublist (h l List.mem_cons_self) hrest
  | case5 l ls hl ih =>
    have hrest := ih fun x hx => h x (List.mem_cons_of_mem l hx)
    rw [List.filterMap_cons, text?]
    exact content_cons_sublist (h l List.mem_cons_self) hrest
  | case6 l ls _ _ _ ih =>
    have hrest := ih fun x hx => h x (List.mem_cons_of_mem l hx)
    exact hrest.trans (List.sublist_append_right (content l.source) _)

end Piece

namespace Sections

def texts (s : Sections) : List Text := s.groups.map Group.text ++ s.relationships ++ s.styles

/-- Sorting parts by their kind loses none. -/
theorem texts_ofPieces_perm (ps : List Piece) :
    (ofPieces ps).texts.Perm (ps.filterMap Piece.text?) := by
  induction ps with
  | nil => exact List.Perm.refl _
  | cons p ps ih =>
    cases p with
    | group g => exact ih.cons g.text
    | unterminated n => exact ih
    | relationship r =>
      apply List.Perm.trans _ (ih.cons r)
      exact List.perm_middle.append_right (ofPieces ps).styles
    | style s => exact List.perm_middle.trans (ih.cons s)

theorem content_texts_subperm (t : Text) :
    ((ofChart t).texts.flatMap content).Subperm (content t) := by
  have hread : ∀ l ∈ linesOf t, l = Line.ofText l.source := fun l hl => (exists_of_mem_linesOf hl).2
  have hs := Piece.content_ofLines_sublist hread
  have hl : (linesOf t).flatMap (fun l => content l.source) = content t := by
    rw [content_eq_flatMap (visible_lines t).symm, linesOf, List.flatMap_map]
    rfl
  rw [hl] at hs
  exact ((texts_ofPieces_perm _).flatMap_right content).subperm.trans hs.subperm

end Sections

theorem flatMap_subperm {α β : Type} {f g : α → List β} {as : List α}
    (h : ∀ a ∈ as, (f a).Subperm (g a)) : (as.flatMap f).Subperm (as.flatMap g) := by
  induction as with
  | nil => exact List.Subperm.refl _
  | cons a as ih =>
    rw [List.flatMap_cons, List.flatMap_cons]
    exact (h a List.mem_cons_self).append (ih fun b hb => h b (List.mem_cons_of_mem a hb))

theorem countP_le_sum {α β : Type} {as : List α} {bs : List β} {f : β → List α}
    (h : as.Subperm (bs.flatMap f)) (p : α → Bool) :
    (as.countP p : Int) ≤ (bs.map fun b => ((f b).countP p : Int)).sum := by
  have hle := h.countP_le p
  rw [List.countP_flatMap] at hle
  have hint := Int.ofNat_le.2 hle
  rw [Nat.cast_list_sum, List.map_map] at hint
  exact hint

theorem Header.content_written {h : Header} (hp : h.Proper) {gap : Text} (hgap : IsGap gap) :
    content (h.written gap) = [] := by
  obtain ⟨hne, hblank⟩ := hgap
  obtain ⟨c, gap, rfl⟩ := List.exists_cons_of_ne_nil hne
  have hb : ∀ d ∈ c :: gap, Text.isBlank d = true :=
    fun d hd => isBlank_of_isTabOrSpace (hblank d hd)
  have hv : visible (h.written (c :: gap)) = [h.keyword, h.orientation].flatMap visible := by
    rw [written, List.cons_append, visible_append_cons (hb c List.mem_cons_self),
      visible_append_of_isBlankText_left
        (List.all_eq_true.2 fun d hd => hb d (List.mem_cons_of_mem c hd))]
    simp
  rw [content_eq_flatMap hv]
  simp [content_of_isWord hp.isWord_keyword, content_of_isWord hp.isWord_orientation]

namespace Merged

/-- The parts that a merge keeps, each as one text, in the order of the chart. -/
def texts (m : Merged) : List Text := m.groups.map Group.text ++ m.relationships ++ m.styles

/-- Texts that are written one after another, each with something blank around it. -/
theorem visible_flatMap_append {α : Type} {whole part : α → Text}
    (h : ∀ a t, visible (whole a ++ t) = visible (part a) ++ visible t) (as : List α) (t : Text) :
    visible (as.flatMap whole ++ t) = as.flatMap (fun a => visible (part a)) ++ visible t := by
  induction as with
  | nil => rfl
  | cons a as ih =>
    rw [List.flatMap_cons, List.append_assoc, h, ih, List.flatMap_cons, List.append_assoc]

theorem visible_groupText_append (g : Group) (t : Text) :
    visible (groupText g ++ t) = visible g.text ++ visible t := by
  have hi : (indent lead g.block).flatMap visible = g.block.flatMap visible := by
    rw [indent, List.flatMap_map]
    apply List.flatMap_congr
    intro l _
    exact visible_congr (trim_indent Group.isMargin_lead)
  have he : groupText g ++ t = join ['\n'] (indent lead g.block) ++ '\n' :: '\n' :: t := by
    simp [groupText]
  rw [he, visible_append_cons (by decide), visible_cons (by decide), visible_join_newline, hi,
    Group.text, visible_join_newline]

theorem visible_lineText_append (l t : Text) :
    visible (lineText l ++ t) = visible l ++ visible t := by
  have he : lineText l ++ t = lead ++ (l ++ '\n' :: t) := by simp [lineText]
  rw [he, visible_append_of_isBlankText_left (by decide), visible_append_cons (by decide)]

/-- All that is visible in a merge: its declaration and the parts that are kept. -/
theorem visible_text (m : Merged) :
    visible m.text = visible m.header.line ++ m.texts.flatMap visible := by
  have he : m.text = m.header.line ++ '\n' :: (m.groups.flatMap groupText ++
      (m.relationships.flatMap lineText ++ '\n' :: (m.styles.flatMap lineText ++ []))) := by
    simp [text]
  rw [he, visible_append_cons (by decide), visible_flatMap_append visible_groupText_append,
    visible_flatMap_append visible_lineText_append, visible_cons (by decide),
    visible_flatMap_append visible_lineText_append, visible_nil, texts, List.flatMap_append,
    List.flatMap_append, List.flatMap_map]
  simp only [List.append_nil, List.append_assoc]

theorem content_text_ofCharts (ds : List Text) :
    content (ofCharts ds).text = (ofCharts ds).texts.flatMap content := by
  have h : visible (ofCharts ds).text =
      ((ofCharts ds).header.line :: (ofCharts ds).texts).flatMap visible := visible_text _
  have hgap : Header.IsGap [' '] := by decide
  have hheader : content (ofCharts ds).header.line = [] :=
    Header.content_written (Header.proper_ofChart _) hgap
  rw [content_eq_flatMap h, List.flatMap_cons, hheader, List.nil_append]

/-- The parts that are kept are among all the parts there are. -/
theorem texts_ofCharts_subperm (ds : List Text) :
    (ofCharts ds).texts.Subperm (ds.flatMap fun d => (Sections.ofChart d).texts) := by
  have hgroups := (firstsOn_sublist Group.name
    (ds.flatMap fun d => (Sections.ofChart d).groups)).map Group.text
  have hrelationships := firstsOn_sublist id
    (ds.flatMap fun d => (Sections.ofChart d).relationships)
  have hstyles := firstsOn_sublist id (ds.flatMap fun d => (Sections.ofChart d).styles)
  have hkept := (hgroups.append hrelationships).append hstyles
  have hall : (ds.flatMap fun d => (Sections.ofChart d).texts).Perm
      ((ds.flatMap fun d => (Sections.ofChart d).groups).map Group.text ++
        (ds.flatMap fun d => (Sections.ofChart d).relationships) ++
        ds.flatMap fun d => (Sections.ofChart d).styles) := by
    rw [List.map_flatMap]
    have hgr := List.flatMap_append_perm ds (fun d => (Sections.ofChart d).groups.map Group.text)
      fun d => (Sections.ofChart d).relationships
    have hgrs := List.flatMap_append_perm ds (fun d => (Sections.ofChart d).groups.map Group.text ++
      (Sections.ofChart d).relationships) fun d => (Sections.ofChart d).styles
    exact ((hgr.append_right _).trans hgrs).symm
  rw [texts, groups_ofCharts, relationships_ofCharts, styles_ofCharts]
  exact hkept.subperm.trans hall.symm.subperm

/-- What counts in a merge has a place of its own in the sources. -/
theorem content_text_ofCharts_subperm (ds : List Text) :
    (content (ofCharts ds).text).Subperm (ds.flatMap content) := by
  obtain ⟨ts, hp, hs⟩ := texts_ofCharts_subperm ds
  have hkept : ((ofCharts ds).texts.flatMap content).Subperm
      ((ds.flatMap fun d => (Sections.ofChart d).texts).flatMap content) :=
    ⟨ts.flatMap content, hp.flatMap_right content, hs.flatMap content⟩
  rw [content_text_ofCharts]
  apply hkept.trans
  rw [List.flatMap_assoc]
  exact flatMap_subperm fun d _ => Sections.content_texts_subperm d

end Merged

namespace Facts

/-- Facts that count the same lexemes add up where the lexemes do. -/
theorem sum_of_content {t : Text} {ts : List Text} (h : content t = ts.flatMap content) :
    (ofText t).tags = ts.flatMap (fun s => (ofText s).tags) ∧
      (ofText t).markers = (ts.map fun s => (ofText s).markers).sum ∧
      (ofText t).opens = (ts.map fun s => (ofText s).opens).sum ∧
      (ofText t).closes = (ts.map fun s => (ofText s).closes).sum := by
  simp only [tags_ofText, markers_ofText, opens_ofText, closes_ofText, h]
  refine ⟨?_, ?_, ?_, ?_⟩
  · exact List.filterMap_flatMap
  · exact List.countP_flatMap
  · exact List.count_flatMap
  · exact List.count_flatMap

theorem tags_subperm {t : Text} {ts : List Text} (h : (content t).Subperm (ts.flatMap content)) :
    (ofText t).tags.Subperm (ts.flatMap fun s => (ofText s).tags) := by
  obtain ⟨ls, hp, hs⟩ := h
  have hf := hs.filterMap tagName?
  rw [List.filterMap_flatMap] at hf
  simp only [tags_ofText]
  exact ⟨ls.filterMap tagName?, hp.filterMap tagName?, hf⟩

end Facts

namespace Chart

theorem tally_le {t : Text} {ts : List Text} (h : (content t).Subperm (ts.flatMap content)) :
    (∀ c, (tally t).entities c ≤ (ts.map fun s => (tally s).entities c).sum) ∧
      (tally t).relationships ≤ (ts.map fun s => (tally s).relationships).sum := by
  constructor
  · intro c
    exact countP_le_sum (Facts.tags_subperm h) _
  · simp only [tally, Tally.ofFacts, Facts.markers_ofText]
    exact countP_le_sum h isMarker

theorem ofChart?_trim_merge {ds : List Text} (h : 2 ≤ ds.length) :
    (Header.ofChart? (trim (merge ds))).isSome := by
  have hp : (Merged.ofCharts ds).header.Proper := Header.proper_ofChart _
  obtain ⟨t, ht⟩ := (Merged.ofCharts ds).exists_text_eq
  rw [merge_of_two_le h, ht, Header.ofChart?_trim_line_append hp rfl]
  rfl

theorem isBlankText_merge {ds : List Text} (h : 2 ≤ ds.length) :
    isBlankText (merge ds) = false := by
  rw [Bool.eq_false_iff]
  intro hb
  have ht := ofChart?_trim_merge h
  rw [trim_eq_nil_of_isBlankText hb] at ht
  exact absurd ht (by decide)

theorem content_merge_subperm {ds : List Text} (h : 2 ≤ ds.length) :
    (content (merge ds)).Subperm (ds.flatMap content) := by
  rw [merge_of_two_le h]
  exact Merged.content_text_ofCharts_subperm ds

/-- A merge is never blank and has a declaration, and its tags come from the sources. -/
theorem flaw_in_merge {ds : List Text} (h : 2 ≤ ds.length) {f : Flaw} (hf : f.In (merge ds)) :
    (∃ n, f = .unknownCategory n ∧ ∃ d ∈ ds, f.In d) ∨ f = .noEntities ∨ f = .unbalanced := by
  cases f with
  | empty =>
    have hb : isBlankText (merge ds) = true := hf
    rw [isBlankText_merge h] at hb
    exact absurd hb (by decide)
  | noHeader =>
    have hs := ofChart?_trim_merge h
    rw [hf.2] at hs
    exact absurd hs (by decide)
  | unknownCategory n =>
    have htags := (Facts.tags_subperm (content_merge_subperm h)).subset
    obtain ⟨d, hd, hn⟩ := List.mem_flatMap.1 (htags hf.1)
    exact .inl ⟨n, rfl, d, hd, hn, hf.2⟩
  | noEntities => exact .inr (.inl rfl)
  | unbalanced => exact .inr (.inr rfl)

/-- A merge has the tags, markers and brackets of the parts that it keeps, and no others. So it is
never blank and never without a declaration, it has no unknown tag that no source has, and its
statistics do not exceed those of the sources together. -/
theorem facts_merge (ds : List Text) (hds : 2 ≤ ds.length) :
    let facts := Facts.ofText (merge ds)
    let kept := (Merged.ofCharts ds).texts
    facts.tags = kept.flatMap (fun p => (Facts.ofText p).tags) ∧
      facts.markers = (kept.map fun p => (Facts.ofText p).markers).sum ∧
      facts.opens = (kept.map fun p => (Facts.ofText p).opens).sum ∧
      facts.closes = (kept.map fun p => (Facts.ofText p).closes).sum ∧
      Flaw.empty.message ∉ (validate (merge ds)).errors ∧
      Flaw.noHeader.message ∉ (validate (merge ds)).errors ∧
      (∀ n, (Flaw.unknownCategory n).message ∈ (validate (merge ds)).errors →
        ∃ d ∈ ds, (Flaw.unknownCategory n).message ∈ (validate d).errors) ∧
      (∀ c, (tally (merge ds)).entities c ≤ (ds.map fun d => (tally d).entities c).sum) ∧
      (tally (merge ds)).relationships ≤ (ds.map fun d => (tally d).relationships).sum := by
  intro facts kept
  have hcontent : content (merge ds) = kept.flatMap content := by
    rw [merge_of_two_le hds, Merged.content_text_ofCharts]
  obtain ⟨htags, hmarkers, hopens, hcloses⟩ := Facts.sum_of_content hcontent
  obtain ⟨hentities, hrelationships⟩ := tally_le (content_merge_subperm hds)
  refine ⟨htags, hmarkers, hopens, hcloses, ?_, ?_, ?_, hentities, hrelationships⟩
  · intro he
    have hf := flaw_in_merge hds (mem_errors_iff.1 he)
    simp at hf
  · intro he
    have hf := flaw_in_merge hds (mem_errors_iff.1 he)
    simp at hf
  · intro n he
    rcases flaw_in_merge hds (mem_errors_iff.1 he) with ⟨_, _, d, hd, hn⟩ | hf | hf
    · exact ⟨d, hd, mem_errors_iff.2 hn⟩
    · exact absurd hf (by simp)
    · exact absurd hf (by simp)

/-- Two sources with one group name, an unknown tag, and a declaration that is cut off in the middle
of a word. The second group is not kept, and its tag is not counted. -/
theorem facts_merge_repeated_group :
    let ds := ["graph TD; subgraph g\n\ta[A]:::person\nend\na:::ghost --> b".toList,
      "subgraph g\n\ta[A]:::event\nend\ngraph TDé:::ghost --> b\nb --- c".toList]
    let facts := Facts.ofText (merge ds)
    2 ≤ ds.length ∧ facts.tags = ["person".toList, "ghost".toList, "ghost".toList] ∧
      facts.markers = 3 ∧ facts.opens = 1 ∧ facts.closes = 1 ∧
      (tally (merge ds)).entities .event ≤ (ds.map fun d => (tally d).entities .event).sum := by
  intro ds facts
  obtain ⟨htags, hmarkers, hopens, hcloses, -, -, -, hentities, -⟩ := facts_merge ds (by decide)
  refine ⟨by decide, htags.trans ?_, hmarkers.trans ?_, hopens.trans ?_, hcloses.trans ?_,
    hentities .event⟩
  all_goals decide +kernel

end Chart
end CaseChart
