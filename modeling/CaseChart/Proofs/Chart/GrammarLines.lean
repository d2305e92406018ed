import CaseChart.Proofs.Chart.Grammar
import CaseChart.Proofs.Chart.Readback

namespace CaseChart.Grammar
open Text

/-- Blanks, if any, and then a mark that is neither white space nor a semicolon and goes on no
identifier. -/
def Punctuated (u : Text) : Prop :=
  ∃ gap p r, u = gap ++ p :: r ∧ (∀ c ∈ gap, isTabOrSpace c = true) ∧ isWord p = false ∧
    isBlank p = false ∧ p ≠ ';'

theorem Punctuated.isWord_head {u : Text} (h : Punctuated u) : ∀ c ∈ u.head?, isWord c = false := by
  obtain ⟨gap, p, r, rfl, hgap, hp, -⟩ := h
  cases gap with
  | nil =>
    rintro c ⟨⟩
    exact hp
  | cons g gap =>
    rintro c ⟨⟩
    exact isWord_eq_false_of_isBlank (isBlank_of_isTabOrSpace (hgap g List.mem_cons_self))

theorem Punctuated.dropWhile_isBlank {u : Text} (h : Punctuated u) :
    ∃ p r, u.dropWhile isBlank = p :: r ∧ isWord p = false ∧ p ≠ ';' := by
  obtain ⟨gap, p, r, rfl, hgap, hp, hb, hs⟩ := h
  refine ⟨p, r, ?_, hp, hs⟩
  apply dropWhile_append_of_head fun c hc => isBlank_of_isTabOrSpace (hgap c hc)
  rintro c ⟨⟩
  exact hb

/-- What is taken from an identifier at the front leaves the rest of it in front of what follows. -/
theorem exists_append_of_word_append {w t v u : Text} (hw : ∀ c ∈ w, isWord c = true)
    (hu : ∀ c ∈ u.head?, isWord c = false) (h : w ++ t = v ++ u) :
    ∃ a, v = w ++ a ∧ t = a ++ u := by
  rcases List.append_eq_append_iff.1 h with ⟨a, hv, ht⟩ | ⟨a, hwa, hua⟩
  · exact ⟨a, hv, ht⟩
  · cases a with
    | nil => exact ⟨[], by rw [List.append_nil, hwa, List.append_nil], hua.symm⟩
    | cons c a =>
      have hc : isWord c = true := hw c (hwa ▸ List.mem_append_right v List.mem_cons_self)
      have hc' : isWord c = false := hu c (by rw [hua]; rfl)
      exact absurd hc (by simp [hc'])

section
variable {v u : Text} (hv : ∀ c ∈ v, isWord c = true) (hu : Punctuated u)
include hv hu

/-- Behind a keyword comes the rest of the identifier, or what is after it. -/
theorem exists_append_of_dropWord? {keyword t : Text} (hk : ∀ k ∈ keyword, k.isLower = true)
    (h : dropWord? Statement.matchesLetter keyword (v ++ u) = some t) :
    ∃ a, (∀ c ∈ a, isWord c = true) ∧ t = a ++ u := by
  obtain ⟨w, he, hw⟩ := dropWord?_eq_some_iff.1 h
  obtain ⟨a, rfl, rfl⟩ :=
    exists_append_of_word_append (Statement.isWord_of_forall₂_matchesLetter hk hw) hu.isWord_head
      he.symm
  exact ⟨a, fun c hc => hv c (List.mem_append_right w hc), rfl⟩

theorem nameAfter?_eq_none {keyword : Text} (hk : ∀ k ∈ keyword, k.isLower = true) :
    Statement.nameAfter? keyword (v ++ u) = none := by
  cases h : dropWord? Statement.matchesLetter keyword (v ++ u) with
  | none => rw [Statement.nameAfter?, h]; rfl
  | some t =>
    obtain ⟨a, ha, rfl⟩ := exists_append_of_dropWord? hv hu hk h
    rw [Statement.nameAfter?, h]
    -- either the keyword is the whole identifier and no name follows, or there is no gap after it
    cases a with
    | nil =>
      obtain ⟨p, r, hd, hp, -⟩ := hu.dropWhile_isBlank
      simp [hd, hp]
    | cons c a =>
      have hc : isBlank c = false := isBlank_eq_false_of_isWord (ha c List.mem_cons_self)
      simp [hc]

theorem isEnd_eq_false : Statement.isEnd (v ++ u) = false := by
  rw [Statement.isEnd]
  split
  · next t h =>
    obtain ⟨a, ha, rfl⟩ := exists_append_of_dropWord? hv hu (by decide) h
    cases a with
    | nil =>
      obtain ⟨p, r, hd, -, hs⟩ := hu.dropWhile_isBlank
      simp [hd, hs]
    | cons c a =>
      have hw := ha c List.mem_cons_self
      have hs : c ≠ ';' := by
        rintro rfl
        exact absurd hw (by decide)
      simp [isBlank_eq_false_of_isWord hw, hs]
  · rfl

theorem read?_eq_none : Header.read? (v ++ u) = none := by
  rw [Option.eq_none_iff_forall_ne_some]
  intro d hd
  obtain ⟨hp, he, hne, hgap, -⟩ := Header.eq_append_of_read? hd
  -- what is left of the identifier would have to be the gap or the direction
  obtain ⟨a, rfl, ht⟩ := exists_append_of_word_append hp.isWord_keyword hu.isWord_head he.symm
  obtain ⟨o, os, ho⟩ := List.exists_cons_of_ne_nil hp.orientation_ne_nil
  have how : isWord o = true := hp.isWord_orientation o (ho ▸ List.mem_cons_self)
  have hdrop : (a ++ u).dropWhile isBlank = o :: (os ++ d.rest) := by
    rw [← ht, dropWhile_append_of_head (fun c hc => isBlank_of_isTabOrSpace (hgap c hc))
      (isBlank_of_mem_head?_append hp.orientation_ne_nil hp.isWord_orientation), ho,
      List.cons_append]
  cases a with
  | nil =>
    obtain ⟨p, r, hd', hpw, -⟩ := hu.dropWhile_isBlank
    rw [List.nil_append, hd'] at hdrop
    rw [(List.cons.inj hdrop).1, how] at hpw
    exact absurd hpw (by simp)
  | cons c a =>
    -- the gap of a declaration cannot begin inside an identifier
    obtain ⟨g, gs, hg⟩ := List.exists_cons_of_ne_nil hne
    rw [hg] at ht hgap
    obtain ⟨rfl, -⟩ := List.cons.inj ht
    have hw : isWord g = true := hv g (by simp)
    have hb := isBlank_of_isTabOrSpace (hgap g List.mem_cons_self)
    exact absurd hw (by simp [isWord_eq_false_of_isBlank hb])

/-- An identifier with a mark after it, whatever its letters: a relationship if a marker follows. -/
theorem statement_of_punctuated :
    Statement.ofText (v ++ u) =
      if Statement.hasMarker (v ++ u) then .relationship else .other := by
  rw [Statement.ofText, nameAfter?_eq_none hv hu (by decide), isEnd_eq_false hv hu,
    nameAfter?_eq_none hv hu (by decide)]
  simp

end

namespace Identifier

theorem trimRight_letters (i : Identifier) : trimRight i.letters = i.letters :=
  trimRight_of_isWord i.isWord

theorem trimRight_append_letters (i : Identifier) (t : Text) :
    trimRight (t ++ i.letters) = t ++ i.letters :=
  trimRight_append_eq_self i.ne_nil i.trimRight_letters

theorem unbroken_letters (i : Identifier) : Unbroken i.letters := unbroken_of_isWord i.isWord

theorem trim_letters_append (i : Identifier) {t : Text}
    (h : trimRight (i.letters ++ t) = i.letters ++ t) : trim (i.letters ++ t) = i.letters ++ t :=
  trim_append_of_isWord i.ne_nil i.isWord h

end Identifier

/-- Reading an identifier off the front of two equal texts. -/
theorem Identifier.append_inj {i j : Identifier} {s t : Text} (h : i.letters ++ s = j.letters ++ t)
    (hs : ∀ c ∈ s.head?, Text.isWord c = false) (ht : ∀ c ∈ t.head?, Text.isWord c = false) :
    i = j ∧ s = t := by
  have hl := congrArg (List.takeWhile Text.isWord) h
  rw [takeWhile_append_of_head i.isWord hs, takeWhile_append_of_head j.isWord ht] at hl
  obtain rfl := Identifier.ext hl
  exact ⟨rfl, List.append_cancel_left h⟩

namespace Phrase

theorem ne_nil (l : Phrase) : l.text ≠ [] := by
  intro h
  have hv := l.visible
  rw [h] at hv
  exact absurd hv (by decide)

theorem trimRight_text (l : Phrase) : trimRight l.text = l.text := by
  have h := trimRight_trim l.text
  rwa [l.trimmed] at h

end Phrase

namespace Node

theorem statement_punctuated (n : Node) :
    Punctuated ('[' :: (n.label.text ++ ']' :: categoryText n.category)) :=
  ⟨[], '[', _, rfl, by simp, by decide, by decide, by decide⟩

theorem trimRight_statement (n : Node) : trimRight n.statement = n.statement := by
  have he : n.statement =
      (n.id.letters ++ '[' :: n.label.text) ++ ']' :: categoryText n.category := by
    simp [statement]
  rw [he]
  apply trimRight_append_eq_self (List.cons_ne_nil _ _)
  cases n.category with
  | none => decide
  | some c => exact c.trimRight_append_letters [']', ':', ':', ':']

theorem unbroken_statement (n : Node) : Unbroken n.statement := by
  have hc : Unbroken (categoryText n.category) := by
    cases n.category with
    | none => decide
    | some c =>
      have hm : Unbroken [':', ':', ':'] := by decide
      exact unbroken_append.2 ⟨hm, c.unbroken_letters⟩
  exact unbroken_append.2 ⟨n.id.unbroken_letters, unbroken_cons.2 ⟨by decide,
    unbroken_append.2 ⟨n.label.unbroken, unbroken_cons.2 ⟨by decide, hc⟩⟩⟩⟩

/-- A node neither opens nor closes a group. -/
theorem depthAfter?_statement (n : Node) {p : Text} (hp : isBlankText p = true) (depth : Nat) :
    (Line.ofText (p ++ n.statement)).statement.depthAfter? depth = some depth := by
  have hu := n.statement_punctuated
  have ht : trim n.statement = n.statement := n.id.trim_letters_append n.trimRight_statement
  rw [Line.statement_ofText, trim_append_of_isBlankText hp, ht, statement,
    Header.strip_of_read?_eq_none (read?_eq_none n.id.isWord hu),
    statement_of_punctuated n.id.isWord hu]
  split <;> rfl

end Node

namespace Relationship

theorem statement_eq (r : Relationship) :
    r.statement = r.source.letters ++ ([' '] ++ '-' :: ('-' :: '>' :: (arrowLabel r.label ++
      ' ' :: r.target.letters))) := by
  simp [statement]

theorem statement_punctuated (r : Relationship) :
    Punctuated ([' '] ++ '-' :: ('-' :: '>' :: (arrowLabel r.label ++ ' ' :: r.target.letters))) :=
  ⟨[' '], '-', _, rfl, by decide, by decide, by decide, by decide⟩

theorem trimRight_statement (r : Relationship) : trimRight r.statement = r.statement := by
  have he : r.statement =
      (r.source.letters ++ " -->".toList ++ arrowLabel r.label ++ [' ']) ++ r.target.letters := by
    simp [statement]
  rw [he, r.target.trimRight_append_letters]

theorem stands_statement (r : Relationship) : Line.Stands .relationship r.statement where
  unbroken := by
    have hl : Unbroken (arrowLabel r.label) := by
      cases r.label with
      | none => decide
      | some l => exact unbroken_cons.2 ⟨by decide, unbroken_append.2 ⟨l.unbroken, by decide⟩⟩
    have hs : Unbroken (r.source.letters ++ " -->".toList) :=
      unbroken_append.2 ⟨r.source.unbroken_letters, by decide⟩
    exact unbroken_append.2
      ⟨unbroken_append.2 ⟨hs, hl⟩, unbroken_cons.2 ⟨by decide, r.target.unbroken_letters⟩⟩
  strip_trim := by
    have ht : trim r.statement = r.statement := by
      have := r.trimRight_statement
      rw [statement_eq] at this ⊢
      exact r.source.trim_letters_append this
    rw [ht, statement_eq, Header.strip_of_read?_eq_none
      (read?_eq_none r.source.isWord r.statement_punctuated)]
  statement := by
    rw [statement_eq, statement_of_punctuated r.source.isWord r.statement_punctuated, if_pos]
    rw [← List.append_assoc]
    exact Statement.hasMarker_append rfl _

end Relationship

/-- A keyword, a blank and an identifier: what is read of them is the identifier. -/
theorem nameAfter?_append {keyword k : Text}
    (hk : List.Forall₂ (fun a c => Statement.matchesLetter a c = true) keyword k) (i : Identifier)
    {t : Text} (ht : ∀ c ∈ t.head?, isWord c = false) :
    Statement.nameAfter? keyword (k ++ ' ' :: (i.letters ++ t)) = some i.letters := by
  have hd : dropWord? Statement.matchesLetter keyword (k ++ ' ' :: (i.letters ++ t)) =
      some (' ' :: (i.letters ++ t)) := dropWord?_eq_some_iff.2 ⟨k, rfl, hk⟩
  have hb : (' ' :: (i.letters ++ t)).dropWhile isBlank = i.letters ++ t :=
    dropWhile_append_of_head (w := [' ']) (by decide)
      (isBlank_of_mem_head?_append i.ne_nil i.isWord)
  have hn : (i.letters ++ t).takeWhile isWord = i.letters := takeWhile_append_of_head i.isWord ht
  have hg : ((' ' :: (i.letters ++ t)).takeWhile isBlank).isEmpty = false := rfl
  have hi : i.letters.isEmpty = false := List.isEmpty_eq_false_iff.2 i.ne_nil
  rw [Statement.nameAfter?, hd]
  simp only [Option.bind_eq_bind, Option.bind_some]
  rw [hb, hn, hg, hi]
  rfl

namespace Style

theorem trimRight_statement (s : Style) : trimRight s.statement = s.statement := by
  have he : s.statement = (definer ++ ' ' :: (s.name.letters ++ [' '])) ++
      s.attributes.text := by
    simp only [statement, List.append_assoc, List.cons_append, List.nil_append]
  rw [he]
  exact trimRight_append_eq_self s.attributes.ne_nil s.attributes.trimRight_text

theorem ofText_statement (s : Style) : Statement.ofText s.statement = .style := by
  have hs : Statement.nameAfter? "subgraph".toList s.statement = none := by
    rw [Option.eq_none_iff_forall_ne_some]
    intro n hn
    obtain ⟨c, r, he, hc⟩ := Statement.exists_head_of_nameAfter? hn
    obtain ⟨rfl, -⟩ := List.cons.inj he
    exact absurd hc (by decide)
  have hk : List.Forall₂ (fun a c => Statement.matchesLetter a c = true) "classdef".toList
      definer := by decide +kernel
  have hn : Statement.nameAfter? "classdef".toList s.statement = some s.name.letters :=
    nameAfter?_append hk s.name (by rintro c ⟨⟩; decide)
  rw [Statement.ofText, hs, hn, show Statement.isEnd s.statement = false from rfl]
  rfl

theorem stands_statement (s : Style) : Line.Stands .style s.statement where
  unbroken := unbroken_append.2 ⟨by decide +kernel, unbroken_cons.2 ⟨by decide,
    unbroken_append.2 ⟨s.name.unbroken_letters, unbroken_cons.2 ⟨by decide,
      s.attributes.unbroken⟩⟩⟩⟩
  strip_trim := by
    obtain ⟨ht, hs⟩ := Statement.strip_trim_of_style s.ofText_statement s.trimRight_statement
    rw [ht, hs]
  statement := s.ofText_statement

end Style

namespace Group

theorem trimRight_opening (g : Group) : trimRight g.opening = g.opening := by
  have he : g.opening = (opener ++ [' ']) ++ g.name.letters := by
    simp only [opening, List.append_assoc, List.singleton_append]
  rw [he, g.name.trimRight_append_letters]

theorem ofText_opening (g : Group) : Statement.ofText g.opening = .openGroup g.name.letters := by
  have hk : List.Forall₂ (fun a c => Statement.matchesLetter a c = true) "subgraph".toList
      opener := by decide +kernel
  have hn := nameAfter?_append hk g.name (t := []) (by simp)
  rw [List.append_nil] at hn
  rw [Statement.ofText, opening, hn]

def found (g : Group) : CaseChart.Group :=
  ⟨g.name.letters, g.opening :: (g.nodes.map (fun n => margin ++ n.statement) ++ [ending])⟩

theorem closed_nodes (ns : List Node) :
    Line.Closed ((ns.map (fun n => margin ++ n.statement) ++ [ending]).map Line.ofText) := by
  induction ns with
  | nil =>
    unfold Line.Closed
    decide
  | cons n ns ih =>
    rw [Line.Closed] at ih ⊢
    rw [List.map_cons, List.cons_append, List.map_cons, Line.splitBlock?,
      n.depthAfter?_statement (by decide)]
    simp only [ih, Option.map_some]

theorem mem_block_found {g : Group} {l : Text} : l ∈ g.found.block ↔
    l = g.opening ∨ (∃ n ∈ g.nodes, l = margin ++ n.statement) ∨ l = ending := by
  simp only [found, List.mem_cons, List.mem_append, List.mem_map, List.not_mem_nil, or_false,
    eq_comm]

theorem settled_found (g : Group) : g.found.Settled where
  block := by
    obtain ⟨ht, hs⟩ := Statement.strip_trim_of_openGroup g.ofText_opening g.trimRight_opening
    refine ⟨g.opening, _, rfl, ?_, ?_, closed_nodes g.nodes⟩
    · rw [Line.statement_ofText, ht, hs, g.ofText_opening]
      rfl
    · rw [Line.content_ofText, ht, hs]
  unbroken := by
    intro l hl
    rcases mem_block_found.1 hl with rfl | ⟨n, -, rfl⟩ | rfl
    · exact unbroken_append.2 ⟨by decide +kernel,
        unbroken_cons.2 ⟨by decide, g.name.unbroken_letters⟩⟩
    · exact unbroken_append.2 ⟨by decide, n.unbroken_statement⟩
    · decide
  tidy := by
    intro l hl
    rcases mem_block_found.1 hl with rfl | ⟨n, -, rfl⟩ | rfl
    · exact g.trimRight_opening
    · exact trimRight_append_eq_self (by simp [Node.statement]) n.trimRight_statement
    · decide
  flush := by
    have hp : commonMargin g.found.block <+: Text.margin g.opening :=
      commonMargin_prefix_margin List.mem_cons_self (List.cons_ne_nil _ _)
    exact List.prefix_nil.1 hp

theorem lines_eq_indent (g : Group) : g.lines = indent Merged.lead g.found.block := by
  have hi : indent Merged.lead g.found.block = g.found.block.map (margin ++ ·) := by
    apply List.map_congr_left
    intro l hl
    rw [if_neg]
    · rfl
    · intro hb
      have hl' := g.settled_found.tidy.eq_nil hl hb
      rcases mem_block_found.1 hl with rfl | ⟨n, -, rfl⟩ | rfl
      all_goals exact absurd hl' (List.cons_ne_nil _ _)
  rw [hi]
  simp only [lines, found, List.map_cons, List.map_append, List.map_map, List.map_nil,
    Function.comp_def, List.append_assoc, List.cons_append]

end Group
end CaseChart.Grammar
