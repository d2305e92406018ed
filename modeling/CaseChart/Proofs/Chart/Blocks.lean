import CaseChart.Proofs.Chart.Partition
import CaseChart.Proofs.Chart.Readback

namespace CaseChart
open Text

namespace Line

def undeclared (o : Text) : Text :=
  if (Header.read? (trim o)).isSome then Header.strip (trim o) else o

end Line

namespace Group

/-- A block holds the line `o` and the lines `body` after it, with the margin `w` taken off. After a
declaration the block begins with the statement, and nothing is taken off. -/
structure Holds (g : Group) (w o : Text) (body : List Text) : Prop where
  name : (Line.ofText o).opened? = some g.name
  outdented : Outdented w (Line.undeclared o :: body) g.block
  declared : ∀ r, Header.read? (trim o) = some r →
    w = [] ∧ g.block.head? = some (r.rest.dropWhile fun c => isTabOrSpace c || c == ';')

theorem openingLine_eq_trimRight (o : Text) :
    openingLine (Line.ofText o) = trimRight (Line.undeclared o) := by
  rw [openingLine, Line.undeclared, Line.content_ofText, Line.source_ofText]
  cases h : Header.read? (trim o) with
  | none =>
    rw [if_pos (Header.strip_of_read?_eq_none h)]
    rfl
  | some r =>
    -- a declaration has some length, so the statement after it is not the whole line
    rw [if_neg fun he => absurd (congrArg List.length he) (Header.length_strip_lt h).ne]
    exact (Header.trimRight_strip_trim o).symm

theorem rawBlock_eq_map_trimRight (o : Text) (body : List Text) :
    rawBlock (Line.ofText o) (body.map Line.ofText) =
      (Line.undeclared o :: body).map trimRight := by
  rw [rawBlock, openingLine_eq_trimRight, List.map_map, List.map_cons]
  rfl

/-- What an opening line says begins with a letter. -/
theorem exists_content_eq_cons {o n : Text} (h : (Line.ofText o).statement = .openGroup n) :
    ∃ c s, (Line.ofText o).content = c :: s ∧ isBlank c = false := by
  obtain ⟨c, s, hs, hc⟩ :=
    Statement.exists_head_of_nameAfter? (Statement.nameAfter?_of_ofText_eq_openGroup h)
  exact ⟨c, s, hs, isBlank_eq_false_of_isWord (Statement.isWord_of_matchesLetter (by decide) hc)⟩

theorem isBlankText_undeclared {o n : Text} (h : (Line.ofText o).statement = .openGroup n) :
    isBlankText (Line.undeclared o) = false := by
  obtain ⟨c, s, hs, -⟩ := exists_content_eq_cons h
  rw [Bool.eq_false_iff]
  intro hb
  have ht := (trim_openingLine h).1
  rw [openingLine_eq_trimRight, trim_trimRight, trim_eq_nil_of_isBlankText hb, hs] at ht
  exact absurd ht (by simp)

/-- A statement right after a declaration has no margin, so it leaves none to the block. -/
theorem commonMargin_eq_nil_of_declared {o n : Text} (h : (Line.ofText o).statement = .openGroup n)
    {r : Header.Reading} (hr : Header.read? (trim o) = some r) (body : List Text) :
    commonMargin ((Line.undeclared o :: body).map trimRight) = [] := by
  obtain ⟨c, s, hs, hc⟩ := exists_content_eq_cons h
  have hu : trimRight (Line.undeclared o) = c :: s := by
    rw [Line.undeclared, hr, Option.isSome_some, if_pos rfl, Header.trimRight_strip_trim, ← hs,
      Line.content_ofText]
  have hmargin : margin (c :: s) = [] := by
    rw [margin, List.takeWhile_cons_of_neg]
    exact fun ht => absurd (isBlank_of_isTabOrSpace ht) (by simp [hc])
  have hmem : c :: s ∈ (Line.undeclared o :: body).map trimRight := by
    rw [List.map_cons, hu]
    exact List.mem_cons_self
  have hpre := commonMargin_prefix_margin hmem (List.cons_ne_nil c s)
  rwa [hmargin, List.prefix_nil] at hpre

theorem exists_holds_blockOf {o n : Text} (h : (Line.ofText o).opened? = some n)
    (body : List Text) :
    ∃ w, Holds ⟨n, blockOf (Line.ofText o) (body.map Line.ofText)⟩ w o body := by
  have hn := Line.statement_of_opened? h
  have hvisible : ∃ l ∈ Line.undeclared o :: body, isBlankText l = false :=
    ⟨_, List.mem_cons_self, isBlankText_undeclared hn⟩
  have hout := outdented_dedent hvisible
  rw [← rawBlock_eq_map_trimRight, ← blockOf_eq_dedent] at hout
  refine ⟨_, h, hout, fun r hr => ?_⟩
  have hw : commonMargin (rawBlock (Line.ofText o) (body.map Line.ofText)) = [] := by
    rw [rawBlock_eq_map_trimRight]
    exact commonMargin_eq_nil_of_declared hn hr body
  refine ⟨hw, ?_⟩
  obtain ⟨b, bs, hb, -, hblock⟩ := List.forall₂_cons_left_iff.1 hout.lines
  rw [isBlankText_undeclared hn, if_neg Bool.false_ne_true, hw, List.nil_append, Line.undeclared,
    hr, Option.isSome_some, if_pos rfl, Header.trimRight_strip_trim] at hb
  rw [hblock, List.head?_cons, ← hb, Header.strip, hr]

end Group

namespace Line

theorem exists_of_group?_linesOf {t : Text} {i e : Nat} {g : Group}
    (h : group? (Sections.linesOf t) (i, e) = some g) :
    ∃ o, (lines t)[i]? = some o ∧ (ofText o).opened? = some g.name ∧
      g.block = Group.blockOf (ofText o) ((((lines t).take (e + 1)).drop (i + 1)).map ofText) := by
  obtain ⟨l, hl, h⟩ := Option.bind_eq_some_iff.1 h
  obtain ⟨n, hn, h⟩ := Option.bind_eq_some_iff.1 h
  obtain rfl := Option.some.inj h
  rw [Sections.linesOf, List.getElem?_map] at hl
  obtain ⟨o, ho, rfl⟩ := Option.map_eq_some_iff.1 hl
  refine ⟨o, ho, hn, ?_⟩
  rw [List.map_drop, List.map_take]
  rfl

end Line

namespace Sections

theorem forall₂_groups (t : Text) :
    List.Forall₂ (fun x g => x ∈ Line.blocks (linesOf t) ∧ Line.group? (linesOf t) x = some g)
      (Line.blocks (linesOf t)) (ofChart t).groups := by
  refine (List.forall₂_and_left _ _).2 ⟨fun _ => id, ?_⟩
  rw [← List.forall₂_map_left_iff (R := fun a g => a = some g),
    ← List.forall₂_map_right_iff (R := Eq), ← groups_eq]
  exact List.forall₂_refl _

theorem mem_groups_of_group? {t : Text} {x : Nat × Nat} {g : Group}
    (hx : x ∈ Line.blocks (linesOf t)) (hg : Line.group? (linesOf t) x = some g) :
    g ∈ (ofChart t).groups := by
  have h : some g ∈ (ofChart t).groups.map some := by
    rw [groups_eq, ← hg]
    exact List.mem_map_of_mem hx
  obtain ⟨k, hk, he⟩ := List.mem_map.1 h
  exact Option.some.inj he ▸ hk

theorem holds_of_mem_blocks {t : Text} {i e : Nat} {g : Group}
    (hx : (i, e) ∈ Line.blocks (linesOf t)) (hg : Line.group? (linesOf t) (i, e) = some g) :
    ∃ w o body, ((lines t).take (e + 1)).drop i = o :: body ∧ g.Holds w o body ∧
      g.block.length = e - i + 1 := by
  obtain ⟨o, ho, hn, hb⟩ := Line.exists_of_group?_linesOf hg
  have hp : Line.Pair (linesOf t) i e := (Line.mem_blocks.1 hx).1
  have hlt := hp.lt
  have hlen : e < (lines t).length := by
    have := hp.lt_length
    rwa [linesOf, List.length_map] at this
  have hi : ((lines t).take (e + 1))[i]? = some o := by
    rw [List.getElem?_take_of_lt (by omega), ho]
  have hstretch : ((lines t).take (e + 1)).drop i =
      o :: ((lines t).take (e + 1)).drop (i + 1) := by
    obtain ⟨hlt, rfl⟩ := List.getElem?_eq_some_iff.1 hi
    exact List.drop_eq_getElem_cons hlt
  obtain ⟨w, hw⟩ := Group.exists_holds_blockOf hn (((lines t).take (e + 1)).drop (i + 1))
  rw [← hb] at hw
  refine ⟨w, o, _, hstretch, hw, ?_⟩
  have hcount := hw.outdented.lines.length_eq
  rw [List.length_cons, List.length_drop, List.length_take] at hcount
  dsimp only at hcount
  omega

/-- Blocks and groups go together, one by one: a group has as many lines as its block, and holds
the lines of it. -/
theorem forall₂_holds (t : Text) :
    List.Forall₂
      (fun x g => Line.Pair (linesOf t) x.1 x.2 ∧ split '\n' g.text = g.block ∧
        g.block.length = x.2 - x.1 + 1 ∧
        ∃ w o body, ((lines t).take (x.2 + 1)).drop x.1 = o :: body ∧ g.Holds w o body)
      (Line.blocks (linesOf t)) (ofChart t).groups := by
  refine (forall₂_groups t).imp ?_
  rintro ⟨i, e⟩ g ⟨hx, hg⟩
  obtain ⟨w, o, body, hstretch, hholds, hlen⟩ := holds_of_mem_blocks hx hg
  have hmem : g ∈ (ofChart t).groups := mem_groups_of_group? hx hg
  exact ⟨(Line.mem_blocks.1 hx).1, (Group.settled_of_mem hmem).split_text, hlen, w, o, body,
    hstretch, hholds⟩

/-- The blocks of a chart are its outermost pairs, found in one pass. Each of them makes one group,
in order: the group has the name of the opener, and as many lines as the block, each as it is
written there but for the white space at its end and one margin. Every line outside the blocks is
taken once: as an opener without an end, a style, a relationship or not at all. -/
theorem ofChart_partition (t : Text) :
    let ls := linesOf t
    (∀ i e, (i, e) ∈ Line.matchEnds ls ↔ Line.Pair ls i e) ∧
      (∀ i e, (i, e) ∈ Line.blocks ls ↔
        Line.Pair ls i e ∧ ∀ j f, Line.Pair ls j f → ¬ (j < i ∧ e < f)) ∧
      ((Line.blocks ls).Pairwise fun x y => x.2 < y.1) ∧
      List.Forall₂
        (fun x g => split '\n' g.text = g.block ∧ g.block.length = x.2 - x.1 + 1 ∧
          ∃ w o body, ((lines t).take (x.2 + 1)).drop x.1 = o :: body ∧ g.Holds w o body)
        (Line.blocks ls) (ofChart t).groups ∧
      (ofChart t).unterminated = (ls.zipIdx.filterMap fun x =>
        if (Line.matchEnds ls).any (·.1 == x.2) then none else x.1.opened?) ∧
      (ofChart t).styles = (Line.outside ls).filterMap Line.style? ∧
      (ofChart t).relationships = (Line.outside ls).filterMap Line.relationship? := by
  refine ⟨fun _ _ => Line.mem_matchEnds, fun _ _ => Line.mem_blocks, Line.blocks_sorted _, ?_,
    unterminated_eq t, styles_eq t, relationships_eq t⟩
  exact (forall₂_holds t).imp fun _ _ h => h.2

end Sections

namespace Chart

/-- Every group of a chart holds the lines of its block, each without the white space at its end and
without the longest margin that they share. A merge writes the blocks that it keeps one after
another, with four blanks in front of every line that is not empty. -/
theorem groups_hold_lines :
    (∀ t, List.Forall₂
      (fun x g => Line.Pair (Sections.linesOf t) x.1 x.2 ∧ split '\n' g.text = g.block ∧
        g.block.length = x.2 - x.1 + 1 ∧
        ∃ w o body, ((lines t).take (x.2 + 1)).drop x.1 = o :: body ∧ g.Holds w o body)
      (Line.blocks (Sections.linesOf t)) (Sections.ofChart t).groups) ∧
    ∀ ds : List Text, 2 ≤ ds.length →
      let m := Merged.ofCharts ds
      (∀ g ∈ m.groups, ∃ d ∈ ds, g ∈ (Sections.ofChart d).groups) ∧
        lines (merge ds) = m.header.line ::
          ((m.groups.flatMap fun g => shift "    ".toList g.block ++ [[]]) ++
            m.relationships.map ("    ".toList ++ ·) ++
              [] :: m.styles.map ("    ".toList ++ ·)) := by
  constructor
  · exact Sections.forall₂_holds
  · intro ds hds m
    refine ⟨fun g hg => Merged.exists_source hg, ?_⟩
    have hgroups : m.groups.flatMap Merged.groupLines =
        m.groups.flatMap fun g => shift "    ".toList g.block ++ [[]] := by
      apply List.flatMap_congr
      intro g hg
      rw [Merged.groupLines, indent_of_tidy (Merged.settled_of_mem_groups hg).tidy]
      rfl
    rw [merge_of_two_le hds, Merged.lines_text_ofCharts, Merged.linesOf, hgroups]
    rfl

/-- A group on the line of a declaration, and one with a margin, a line of white space and an inner
group. -/
theorem groups_hold_lines_margin :
    let d := "graph LR; subgraph p\n\tx[X]\n end".toList
    let e := "\t subgraph q \n\u3000\n\t \tsubgraph r\n\t end\n\t end;\na --> b".toList
    2 ≤ [d, e].length ∧
      (∃ g w o body, (Sections.ofChart e).groups = [g] ∧ (lines e).take 5 = o :: body ∧
        g.Holds w o body ∧ split '\n' g.text = g.block ∧ g.block.length = 5) ∧
      lines (merge [d, e]) = ["graph LR", "    subgraph p", "    \tx[X]", "     end", "",
        "    subgraph q", "", "    \tsubgraph r", "    end", "    end;", "", "    a --> b",
        ""].map String.toList := by
  intro d e
  obtain ⟨hblocks, hmerge⟩ := groups_hold_lines
  refine ⟨by decide, ?_, ?_⟩
  · have he : Line.blocks (Sections.linesOf e) = [(0, 4)] := by decide +kernel
    have h := hblocks e
    rw [he] at h
    obtain ⟨g, gs, ⟨-, hsplit, hlen, w, o, body, hstretch, hholds⟩, hgs, hg⟩ :=
      List.forall₂_cons_left_iff.1 h
    rw [List.forall₂_nil_left_iff.1 hgs] at hg
    exact ⟨g, w, o, body, hg, hstretch, hholds, hsplit, hlen⟩
  · rw [(hmerge [d, e] (by decide)).2]
    decide +kernel

end Chart
end CaseChart
