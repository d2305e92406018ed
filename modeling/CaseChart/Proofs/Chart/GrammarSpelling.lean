import CaseChart.Proofs.Chart.Content
import CaseChart.Proofs.Chart.Facts
import CaseChart.Proofs.Chart.GrammarLines
import CaseChart.Proofs.Chart.Validity

namespace CaseChart
open Text Lexeme

namespace Text

/-- The lines of a text without the white space around them, empty ones left out. -/
def statements (t : Text) : List Text := ((lines t).map trim).filter (· ≠ [])

theorem visible_statements (t : Text) : (statements t).flatMap visible = visible t := by
  have hfilter : ∀ ls : List Text, (ls.filter (· ≠ [])).flatMap visible = ls.flatMap visible := by
    intro ls
    induction ls with
    | nil => rfl
    | cons l ls ih =>
      cases l with
      | nil => rw [List.filter_cons_of_neg (by simp), ih, List.flatMap_cons, visible_nil]; rfl
      | cons c l => rw [List.filter_cons_of_pos (by simp), List.flatMap_cons, ih, List.flatMap_cons]
  rw [statements, hfilter, List.flatMap_map]
  simp only [visible_trim]
  exact visible_lines t

/-- The first statement stands behind white space only, and is followed by white space, if by
anything. -/
theorem exists_append_of_statements {t s : Text} {ss : List Text} (h : statements t = s :: ss) :
    ∃ p r, t = p ++ (s ++ r) ∧ isBlankText p = true ∧ ∀ c ∈ r.head?, isBlank c = true := by
  induction hl : lines t generalizing t with
  | nil => simp [statements, hl] at h
  | cons l ls ih =>
    obtain ⟨sep, r, ht, hbreak, hr, hend⟩ := exists_append_of_lines hl
    have hsep : isBlankText sep = true := isBlankText_of_isBreak hbreak
    obtain ⟨p, b, he, hp, hb⟩ := exists_eq_append_trim_append l
    by_cases hblank : trim l = []
    · -- the line is empty or white space
      have hs : statements r = s :: ss := by
        rw [statements, hl, List.map_cons, List.filter_cons_of_neg (by simp [hblank]), ← hr] at h
        exact h
      obtain ⟨q, r', rfl, hq, hhead⟩ := ih hs hr
      refine ⟨l ++ (sep ++ q), r', by rw [ht]; simp, ?_, hhead⟩
      rw [hblank, List.nil_append] at he
      rw [he]
      exact isBlankText_append.2 ⟨isBlankText_append.2 ⟨hp, hb⟩, isBlankText_append.2 ⟨hsep, hq⟩⟩
    · rw [statements, hl, List.map_cons, List.filter_cons_of_pos (by simp [hblank])] at h
      obtain ⟨rfl, -⟩ := List.cons.inj h
      refine ⟨p, b ++ (sep ++ r), ?_, hp, ?_⟩
      · conv_lhs => rw [ht, he]
        simp
      · intro c hc
        have hbs : isBlankText (b ++ sep) = true := isBlankText_append.2 ⟨hb, hsep⟩
        rw [← List.append_assoc] at hc
        cases hcase : b ++ sep with
        | nil =>
          rw [hcase, hend (List.append_eq_nil_iff.1 hcase).2] at hc
          cases hc
        | cons d ds =>
          rw [hcase] at hc hbs
          cases hc
          exact List.all_eq_true.1 hbs _ List.mem_cons_self

end Text

namespace Lexeme

theorem text_infix_of_mem {l : Lexeme} {t : Text} (h : l ∈ ofText t) : l.text <:+: t := by
  obtain ⟨as, bs, he⟩ := List.append_of_mem h
  have ht := flatMap_text_ofText t
  rw [he, List.flatMap_append, List.flatMap_cons] at ht
  exact ⟨as.flatMap text, bs.flatMap text, by rw [← ht, List.append_assoc]⟩

theorem content_nil : content [] = [] := by rw [content, ofText, List.filter_nil]

theorem content_append_cons {c : Char} (hc : Text.isBlank c = true) (a b : Text) :
    content (a ++ c :: b) = content a ++ content b := by
  rw [← filter_visible, visible_append_cons hc, List.filter_append, filter_visible, filter_visible]

theorem content_bracket {c : Char} (hc : c = '[' ∨ c = ']') (a b : Text) :
    content (a ++ c :: b) = content a ++ .mark c :: content b := by
  have halone : standsAlone c = true := by
    rcases hc with rfl | rfl
    · decide
    · decide
  have hmark : isContent (.mark c) = true := by
    rcases hc with rfl | rfl
    · rfl
    · rfl
  rw [content, ofText_append_cons halone, List.filter_append, List.filter_cons_of_pos hmark]
  rfl

/-- A text without brackets and without what tags and markers begin with. -/
structure Bare (t : Text) : Prop where
  no_open : '[' ∉ t
  no_close : ']' ∉ t
  no_tag : ¬ [':', ':', ':'] <:+: t
  no_arrow : ¬ ['-', '-'] <:+: t

theorem content_of_bare {t : Text} (h : Bare t) : content t = [] := by
  rw [content, List.filter_eq_nil_iff]
  intro l hl hc
  have hpart := text_infix_of_mem hl
  cases l with
  | tag n =>
    have hcolons : [':', ':', ':'] <+: (tag n).text := List.prefix_append _ n
    exact h.no_tag (hcolons.isInfix.trans hpart)
  | marker c =>
    have hhyphens : ['-', '-'] <+: (marker c).text := List.prefix_append _ [c]
    exact h.no_arrow (hhyphens.isInfix.trans hpart)
  | word w => cases hc
  | mark c =>
    have hmem : c ∈ t := hpart.subset List.mem_cons_self
    rcases Bool.or_eq_true _ _ ▸ hc with hc | hc
    · exact h.no_open (beq_iff_eq.1 hc ▸ hmem)
    · exact h.no_close (beq_iff_eq.1 hc ▸ hmem)

theorem bare_cons {c : Char} (hc : c ∉ [':', '-', '[', ']']) {t : Text} :
    Bare (c :: t) ↔ Bare t := by
  simp only [List.mem_cons, List.not_mem_nil, or_false, not_or] at hc
  obtain ⟨hcolon, hhyphen, ho, hcl⟩ := hc
  have hskip : ∀ {d : Char} {w : Text}, c ≠ d → (d :: w <:+: c :: t ↔ d :: w <:+: t) := by
    intro d w hd
    rw [List.infix_cons_iff, List.cons_prefix_cons]
    exact or_iff_right fun hp => hd hp.1.symm
  constructor
  · intro h
    exact ⟨fun hm => h.no_open (List.mem_cons_of_mem c hm),
      fun hm => h.no_close (List.mem_cons_of_mem c hm),
      fun hi => h.no_tag ((hskip hcolon).2 hi), fun hi => h.no_arrow ((hskip hhyphen).2 hi)⟩
  · intro h
    refine ⟨?_, ?_, fun hi => h.no_tag ((hskip hcolon).1 hi),
      fun hi => h.no_arrow ((hskip hhyphen).1 hi)⟩
    · rw [List.mem_cons, not_or]
      exact ⟨Ne.symm ho, h.no_open⟩
    · rw [List.mem_cons, not_or]
      exact ⟨Ne.symm hcl, h.no_close⟩

theorem bare_reverse {t : Text} : Bare t.reverse ↔ Bare t := by
  have hback : ∀ {w : Text}, w.reverse = w → (w <:+: t.reverse ↔ w <:+: t) := by
    intro w hw
    rw [← List.reverse_infix, List.reverse_reverse, hw]
  constructor
  · intro h
    exact ⟨fun hm => h.no_open (List.mem_reverse.2 hm),
      fun hm => h.no_close (List.mem_reverse.2 hm),
      fun hi => h.no_tag ((hback rfl).2 hi), fun hi => h.no_arrow ((hback rfl).2 hi)⟩
  · intro h
    exact ⟨fun hm => h.no_open (List.mem_reverse.1 hm),
      fun hm => h.no_close (List.mem_reverse.1 hm),
      fun hi => h.no_tag ((hback rfl).1 hi), fun hi => h.no_arrow ((hback rfl).1 hi)⟩

theorem bare_append_left {b : Text} (hb : ∀ c ∈ b, c ∉ [':', '-', '[', ']']) {t : Text} :
    Bare (b ++ t) ↔ Bare t := by
  induction b with
  | nil => rfl
  | cons c b ih =>
    rw [List.cons_append, bare_cons (hb c List.mem_cons_self),
      ih fun d hd => hb d (List.mem_cons_of_mem c hd)]

theorem bare_append_right {b : Text} (hb : ∀ c ∈ b, c ∉ [':', '-', '[', ']']) {t : Text} :
    Bare (t ++ b) ↔ Bare t := by
  rw [← bare_reverse, List.reverse_append,
    bare_append_left fun c hc => hb c (List.mem_reverse.1 hc), bare_reverse]

theorem not_mem_of_isBlankText {b : Text} (hb : isBlankText b = true) :
    ∀ c ∈ b, c ∉ [':', '-', '[', ']'] := by
  intro c hc hm
  have hblank := List.all_eq_true.1 hb c hc
  have hno : ∀ d ∈ [':', '-', '[', ']'], Text.isBlank d = false := by decide
  rw [hno c hm] at hblank
  cases hblank

theorem bare_trim (t : Text) : Bare (trim t) ↔ Bare t :=
  iff_of_eq (apply_trim (f := Bare)
    (fun _ _ hb => propext (bare_append_left (not_mem_of_isBlankText hb)))
    (fun _ _ hb => propext (bare_append_right (not_mem_of_isBlankText hb))) t)

end Lexeme

namespace Grammar

theorem Phrase.bare (l : Phrase) : Bare l.text where
  no_open hm := (l.plain _ hm).1 rfl
  no_close hm := (l.plain _ hm).2.1 rfl
  no_tag := l.no_tag
  no_arrow := l.no_arrow

/-- How a node is written: white space around its label belongs to no label. -/
def Node.Spelled (n : Node) (s : Text) : Prop :=
  ∃ label, trim label = n.label.text ∧
    s = n.id.letters ++ '[' :: (label ++ ']' :: categoryText n.category)

def ArrowSpelled : Option Phrase → Text → Prop
  | none, a => a = []
  | some l, a => ∃ label, trim label = l.text ∧ a = '|' :: (label ++ ['|'])

def Relationship.Spelled (r : Relationship) (s : Text) : Prop :=
  ∃ a, ArrowSpelled r.label a ∧
    s = r.source.letters ++ ' ' :: ('-' :: '-' :: '>' :: (a ++ ' ' :: r.target.letters))

def Style.Spelled (c : Style) (s : Text) : Prop :=
  ∃ attributes, trim attributes = c.attributes.text ∧
    s = definer ++ ' ' :: (c.name.letters ++ ' ' :: attributes)

inductive Construct.Spelled : Construct → List Text → Prop
  | group {g : Group} {ns : List Text} (h : List.Forall₂ Node.Spelled g.nodes ns) :
      Spelled (.group g) (g.opening :: (ns ++ [ending]))
  | relationship {r : Relationship} {s : Text} (h : r.Spelled s) : Spelled (.relationship r) [s]
  | style {c : Style} {s : Text} (h : c.Spelled s) : Spelled (.style c) [s]

/-- The texts of a chart: a statement on each line, the declaration first, with any white space
around them. -/
def Diagram.Spelled (d : Diagram) (t : Text) : Prop :=
  ∃ gap sss, Header.IsGap gap ∧ List.Forall₂ Construct.Spelled d.body sss ∧
    statements t = d.header.written gap :: sss.flatten

def Diagram.nodes (d : Diagram) : List Node := d.groups.flatMap Group.nodes

def Node.content (n : Node) : List Lexeme :=
  .mark '[' :: .mark ']' :: n.category.toList.map fun c => .tag c.letters

def Construct.content : Construct → List Lexeme
  | group g => g.nodes.flatMap Node.content
  | relationship _ => [.marker '>']
  | style _ => []

theorem Identifier.content_letters (i : Identifier) : content i.letters = [] :=
  content_of_isWord i.isWord

theorem content_of_trim {label : Text} {l : Phrase} (h : trim label = l.text) :
    content label = [] := by
  rw [← content_congr (visible_trim label), h, content_of_bare l.bare]

theorem content_categoryText (c : Option Identifier) :
    content (categoryText c) = c.toList.map fun c => .tag c.letters := by
  cases c with
  | none => exact content_nil
  | some c =>
    have hl : Leads [] (.tag c.letters) := .tag c.ne_nil c.isWord (by simp)
    have ht := hl.ofText_append
    rw [List.append_nil] at ht
    have htext : (Lexeme.tag c.letters).text = categoryText (some c) := rfl
    rw [htext] at ht
    rw [content, ht, List.filter_cons_of_pos rfl, ofText, List.filter_nil]
    rfl

theorem Node.Spelled.content_eq {n : Node} {s : Text} (h : n.Spelled s) :
    Lexeme.content s = n.content := by
  obtain ⟨label, hl, rfl⟩ := h
  rw [content_bracket (.inl rfl), content_bracket (.inr rfl), n.id.content_letters,
    content_of_trim hl, content_categoryText, Node.content]
  rfl

theorem ArrowSpelled.content_eq {l : Option Phrase} {a : Text} (h : ArrowSpelled l a) :
    content a = [] := by
  cases l with
  | none =>
    obtain rfl : a = [] := h
    exact content_nil
  | some l =>
    obtain ⟨label, hl, rfl⟩ := h
    have hbar : ∀ c ∈ ['|'], c ∉ [':', '-', '[', ']'] := by decide
    have hbare : Bare label := (bare_trim label).1 (hl ▸ l.bare)
    have hclosed : Bare (label ++ ['|']) := (bare_append_right hbar).2 hbare
    exact content_of_bare ((bare_append_left (b := ['|']) hbar).2 hclosed)

theorem Relationship.Spelled.content_eq {r : Relationship} {s : Text} (h : r.Spelled s) :
    content s = [.marker '>'] := by
  obtain ⟨a, ha, rfl⟩ := h
  have hl : Leads (a ++ ' ' :: r.target.letters) (.marker '>') := .marker rfl
  have ht := hl.ofText_append
  have htext : (Lexeme.marker '>').text ++ (a ++ ' ' :: r.target.letters) =
      '-' :: '-' :: '>' :: (a ++ ' ' :: r.target.letters) := rfl
  rw [htext] at ht
  have hrest : content (a ++ ' ' :: r.target.letters) = [] := by
    rw [content_append_cons (by decide), ha.content_eq, r.target.content_letters]
    rfl
  have harrow : content ('-' :: '-' :: '>' :: (a ++ ' ' :: r.target.letters)) = [.marker '>'] := by
    rw [Lexeme.content, ht, List.filter_cons_of_pos rfl]
    exact congrArg _ hrest
  rw [content_append_cons (by decide), r.source.content_letters, harrow]
  rfl

theorem Style.Spelled.content_eq {c : Style} {s : Text} (h : c.Spelled s) : content s = [] := by
  obtain ⟨attributes, ha, rfl⟩ := h
  rw [content_append_cons (by decide), content_append_cons (by decide),
    content_of_isWord (by decide +kernel), c.name.content_letters, content_of_trim ha]
  rfl

theorem Group.content_opening (g : Group) : Lexeme.content g.opening = [] := by
  rw [opening, content_append_cons (by decide), content_of_isWord (by decide +kernel),
    g.name.content_letters]
  rfl

theorem flatMap_content_of_spelled {ns : List Node} {ss : List Text}
    (h : List.Forall₂ Node.Spelled ns ss) :
    ss.flatMap Lexeme.content = ns.flatMap Node.content := by
  induction h with
  | nil => rfl
  | cons hn _ ih => rw [List.flatMap_cons, List.flatMap_cons, hn.content_eq, ih]

theorem Construct.Spelled.content_eq {c : Construct} {ss : List Text} (h : c.Spelled ss) :
    ss.flatMap Lexeme.content = c.content := by
  cases h with
  | group hn =>
    rw [List.flatMap_cons, List.flatMap_append, flatMap_content_of_spelled hn,
      Group.content_opening, List.flatMap_singleton, content_of_isWord (by decide +kernel),
      List.append_nil, List.nil_append, Construct.content]
  | relationship hr => rw [List.flatMap_singleton, hr.content_eq, Construct.content]
  | style hs => rw [List.flatMap_singleton, hs.content_eq, Construct.content]

namespace Diagram

/-- What counts in a chart is what counts in its constructs. -/
theorem Spelled.content_eq {d : Diagram} {t : Text} (h : d.Spelled t) :
    content t = d.body.flatMap Construct.content := by
  obtain ⟨gap, sss, hgap, hbody, hs⟩ := h
  have hflat : sss.flatten.flatMap content = d.body.flatMap Construct.content := by
    clear hs
    generalize d.body = cs at hbody
    induction hbody with
    | nil => rfl
    | cons hc _ ih =>
      rw [List.flatten_cons, List.flatMap_append, List.flatMap_cons, hc.content_eq, ih]
  rw [content_eq_flatMap (visible_statements t).symm, hs, List.flatMap_cons,
    Header.content_written d.proper hgap, hflat, List.nil_append]

theorem Spelled.declared {d : Diagram} {t : Text} (h : d.Spelled t) :
    (Header.ofChart? (trim t)).isSome := by
  obtain ⟨gap, sss, hgap, -, hs⟩ := h
  obtain ⟨p, r, rfl, hp, hr⟩ := exists_append_of_statements hs
  rw [trim_append_of_isBlankText hp, Header.ofChart?_trim_written_append d.proper hgap
    (Header.continuesWord_of_isBlank hr)]
  rfl

end Diagram
end Grammar
end CaseChart
