import CaseChart.Proofs.Chart.Content
import CaseChart.Proofs.Chart.Pairing

namespace CaseChart
open Text Lexeme

namespace Text

/-- What counts in two texts counts in both with a separator between them, so what counts in the
lines of a text counts in the text; `p` is what there is of a first line already. -/
theorem sum_glue_lines_le {f : Text → Nat}
    (hf : ∀ a c b, isBreak c = true → f a + f b ≤ f (a ++ c :: b)) (p t : Text) :
    ((Lexeme.glue p (lines t)).map f).sum ≤ f (p ++ t) := by
  have hnil : ∀ ls : List Text, (ls.map f).sum ≤ ((Lexeme.glue [] ls).map f).sum := by
    intro ls
    cases ls with
    | nil => exact Nat.zero_le _
    | cons l ls => exact Nat.le_refl _
  fun_induction lines t generalizing p with
  | case1 => simp [Lexeme.glue]
  | case2 t ih =>
    have hr := hf p '\r' ('\n' :: t) (by decide)
    have hn := hf [] '\n' t (by decide)
    have ht := (hnil _).trans (ih [])
    rw [List.nil_append] at hn ht
    rw [Lexeme.glue, List.append_nil, List.map_cons, List.sum_cons]
    omega
  | case3 c t _ hc ih =>
    have hbreak := hf p c t hc
    have ht := (hnil _).trans (ih [])
    rw [List.nil_append] at ht
    rw [Lexeme.glue, List.append_nil, List.map_cons, List.sum_cons]
    omega
  | case4 c t _ _ ih =>
    have ht := ih (p ++ [c])
    rw [List.append_assoc, List.singleton_append] at ht
    refine Nat.le_trans ?_ ht
    cases lines t with
    | nil => exact Nat.le_refl _
    | cons l ls => rw [consLine, Lexeme.glue, Lexeme.glue, List.append_assoc, List.singleton_append]

theorem sum_lines_le {f : Text → Nat}
    (hf : ∀ a c b, isBreak c = true → f a + f b ≤ f (a ++ c :: b)) (t : Text) :
    ((lines t).map f).sum ≤ f t := by
  refine Nat.le_trans ?_ (sum_glue_lines_le hf [] t)
  cases lines t with
  | nil => exact Nat.zero_le _
  | cons l ls => exact Nat.le_refl _

theorem any_head? {α : Type} (p : α → Bool) (as : List α) :
    as.head?.any p = !(as.takeWhile p).isEmpty := by
  cases as with
  | nil => rfl
  | cons a as => cases h : p a <;> simp [h]

end Text

namespace Lexeme

theorem hasMarker_cons_of_startsMarker_eq_false {c : Char} {t : Text}
    (h : startsMarker (c :: t) = false) : Statement.hasMarker (c :: t) = Statement.hasMarker t := by
  rw [Statement.hasMarker.eq_def]
  split
  · next d s he =>
    obtain ⟨rfl, rfl⟩ := List.cons.inj he
    have hd : isTip d = false := h
    rw [hd, Bool.false_or]
  · next he => rw [(List.cons.inj he).2]
  · next he => cases he

theorem hasMarker_append_of_not_mem {w : Text} (hw : '-' ∉ w) (t : Text) :
    Statement.hasMarker (w ++ t) = Statement.hasMarker t := by
  induction w with
  | nil => rfl
  | cons c w ih =>
    rw [List.mem_cons, not_or] at hw
    rw [List.cons_append, hasMarker_cons_of_startsMarker_eq_false, ih hw.2]
    rw [Bool.eq_false_iff, ne_eq, startsMarker_iff]
    rintro ⟨d, -, hp⟩
    exact hw.1 (List.cons_prefix_cons.1 hp).1

theorem hyphen_not_mem_of_isWord {w : Text} (hw : ∀ c ∈ w, isWord c = true) : '-' ∉ w :=
  fun h => absurd (hw '-' h) (by decide)

/-- A marker that is found in a statement is read there as one. -/
theorem one_le_countP_isMarker {t : Text} (h : Statement.hasMarker t = true) :
    1 ≤ (ofText t).countP isMarker := by
  induction t using ofText_induction with
  | nil => cases h
  | cons l r hl ih =>
    rw [List.countP_cons]
    cases hl with
    | marker => exact Nat.le_add_left 1 _
    | word hne hw hr =>
      rw [text, hasMarker_append_of_not_mem (hyphen_not_mem_of_isWord hw)] at h
      exact (ih h).trans (Nat.le_add_right _ _)
    | @tag n hne hn hr =>
      have hno : '-' ∉ (Lexeme.tag n).text := by
        simpa [text] using hyphen_not_mem_of_isWord hn
      rw [hasMarker_append_of_not_mem hno] at h
      exact (ih h).trans (Nat.le_add_right _ _)
    | mark hc ht hm =>
      rw [text, List.singleton_append, hasMarker_cons_of_startsMarker_eq_false hm] at h
      exact (ih h).trans (Nat.le_add_right _ _)

end Lexeme

namespace Statement

def isLong (keyword s : Text) : Bool := (s.take keyword.length).contains 'ſ'

/-- The keyword as it is written, and what comes after it. -/
theorem exists_append_of_nameAfter? {keyword s n : Text} (h : nameAfter? keyword s = some n) :
    ∃ w t, s = w ++ t ∧ List.Forall₂ (fun k c => matchesLetter k c = true) keyword w ∧
      Facts.isNamed t = true := by
  rw [nameAfter?] at h
  obtain ⟨t, ht, hn⟩ := Option.bind_eq_some_iff.1 h
  obtain ⟨w, rfl, hw⟩ := dropWord?_eq_some_iff.1 ht
  refine ⟨w, t, rfl, hw, ?_⟩
  rw [Facts.isNamed, any_head?, any_head?]
  split at hn
  · cases hn
  · next hgap =>
    dsimp only at hn
    split at hn
    · cases hn
    · next hname => rw [Bool.eq_false_iff.2 hgap, Bool.eq_false_iff.2 hname]; rfl

theorem hasMarker_of_ofText {s : Text} (h : ofText s = relationship) : hasMarker s = true := by
  unfold ofText at h
  split at h
  · cases h
  · split_ifs at h with _ _ hm
    exact hm

theorem map_toLower_of_not_long {keyword w : Text}
    (h : List.Forall₂ (fun k c => matchesLetter k c = true) keyword w) (hw : 'ſ' ∉ w) :
    w.map Char.toLower = keyword := by
  refine forall₂_sameLetter_iff.1 ?_
  induction h with
  | nil => exact .nil
  | @cons k c keyword w hc _ ih =>
    rw [List.mem_cons, not_or] at hw
    refine .cons ?_ (ih hw.2)
    rcases Bool.or_eq_true _ _ ▸ hc with hc | hc
    · exact hc
    · exact absurd (beq_iff_eq.1 ((Bool.and_eq_true _ _ ▸ hc).2)).symm hw.1

end Statement

namespace Line

section Keyword
variable {keyword : Text} (hk : ∀ k ∈ keyword, k.isLower = true) (hne : keyword ≠ [])
include hk hne

/-- A keyword in front of a statement is one of its line. -/
theorem one_le_named {l n : Text} (hn : Statement.nameAfter? keyword (ofText l).content = some n)
    (hlong : Statement.isLong keyword (ofText l).content = false) :
    1 ≤ Lexeme.named keyword l := by
  obtain ⟨w, t, hs, hw, ht⟩ := Statement.exists_append_of_nameAfter? hn
  have hword := Statement.isWord_of_forall₂_matchesLetter hk hw
  have hlower : w.map Char.toLower = keyword := by
    refine Statement.map_toLower_of_not_long hw ?_
    rw [hs, Statement.isLong, hw.length_eq, List.take_left] at hlong
    simpa using hlong
  obtain ⟨c, w, rfl⟩ : ∃ c v, w = c :: v := by
    refine List.exists_cons_of_ne_nil ?_
    rintro rfl
    exact hne hlower.symm
  have hascii : isAsciiWord c = true :=
    isAsciiWord_of_isLower_toLower (hk _ (hlower ▸ List.mem_cons_self))
  calc 1 ≤ Lexeme.named keyword (c :: w ++ t) :=
        Lexeme.one_le_named hlower (List.cons_ne_nil c w) hword ht
    _ = Lexeme.named keyword (Header.strip (trim l)) := by rw [← hs, content_ofText]
    _ ≤ Lexeme.named keyword (trim l) := Lexeme.named_strip_le keyword hs hascii
    _ = Lexeme.named keyword l := Lexeme.named_trim keyword l

end Keyword

end Line

namespace Piece

inductive StartsOn : Piece → Line → Prop
  | group {l : Line} {g : Group} (h : l.statement = .openGroup g.name) : StartsOn (.group g) l
  | unterminated {l : Line} {n : Text} (h : l.statement = .openGroup n) :
      StartsOn (.unterminated n) l
  | relationship {l : Line} (h : l.statement = .relationship) :
      StartsOn (.relationship l.content) l
  | style {l : Line} (h : l.statement = .style) : StartsOn (.style l.content) l

/-- Every part starts on a line of its own, in the order of the lines. -/
theorem exists_starts (ls : List Line) :
    ∃ starts, starts.Sublist ls ∧ List.Forall₂ StartsOn (ofLines ls) starts := by
  fun_induction ofLines ls with
  | case1 => exact ⟨[], .slnil, .nil⟩
  | case2 l ls n hl body rest hs ih =>
    obtain ⟨starts, hsub, hstarts⟩ := ih
    rw [Line.eq_append_of_splitBlock? hs]
    exact ⟨l :: starts, (hsub.trans (List.sublist_append_right body rest)).cons_cons l,
      .cons (.group hl) hstarts⟩
  | case3 l ls n hl hs ih =>
    obtain ⟨starts, hsub, hstarts⟩ := ih
    exact ⟨l :: starts, hsub.cons_cons l, .cons (.unterminated hl) hstarts⟩
  | case4 l ls hl ih =>
    obtain ⟨starts, hsub, hstarts⟩ := ih
    exact ⟨l :: starts, hsub.cons_cons l, .cons (.style hl) hstarts⟩
  | case5 l ls hl ih =>
    obtain ⟨starts, hsub, hstarts⟩ := ih
    exact ⟨l :: starts, hsub.cons_cons l, .cons (.relationship hl) hstarts⟩
  | case6 l ls _ _ _ ih =>
    obtain ⟨starts, hsub, hstarts⟩ := ih
    exact ⟨starts, hsub.cons l, hstarts⟩

theorem countP_ofLines_le {p : Piece → Bool} {q : Line → Bool}
    (h : ∀ x l, StartsOn x l → p x = true → q l = true) (ls : List Line) :
    (ofLines ls).countP p ≤ ls.countP q := by
  obtain ⟨starts, hsub, hstarts⟩ := exists_starts ls
  refine Nat.le_trans ?_ hsub.countP_le
  generalize ofLines ls = pieces at hstarts
  clear hsub
  induction hstarts with
  | nil => exact Nat.le_refl _
  | @cons x l pieces starts hx _ ih =>
    rw [List.countP_cons, List.countP_cons]
    refine Nat.add_le_add ih ?_
    split
    · next hp => rw [if_pos (h x l hx hp)]
    · exact Nat.zero_le _

def isGroup : Piece → Bool
  | group _ => true
  | unterminated _ => true
  | _ => false

def isRelationship : Piece → Bool
  | relationship _ => true
  | _ => false

def isStyle : Piece → Bool
  | style _ => true
  | _ => false

end Piece

namespace Sections

theorem length_groups_add (ps : List Piece) :
    (ofPieces ps).groups.length + (ofPieces ps).unterminated.length =
      ps.countP Piece.isGroup := by
  induction ps with
  | nil => rfl
  | cons p ps ih =>
    cases p with
    | group g =>
      rw [List.countP_cons_of_pos rfl, ← ih]
      exact Nat.add_right_comm _ 1 _
    | unterminated n =>
      rw [List.countP_cons_of_pos rfl, ← ih]
      rfl
    | relationship l =>
      rw [List.countP_cons_of_neg Bool.false_ne_true, ← ih]
      rfl
    | style l =>
      rw [List.countP_cons_of_neg Bool.false_ne_true, ← ih]
      rfl

theorem length_relationships (ps : List Piece) :
    (ofPieces ps).relationships.length = ps.countP Piece.isRelationship := by
  rw [ofPieces, List.length_filterMap_eq_countP]
  exact List.countP_congr fun p _ => by cases p <;> simp [Piece.isRelationship]

theorem length_styles (ps : List Piece) :
    (ofPieces ps).styles.length = ps.countP Piece.isStyle := by
  rw [ofPieces, List.length_filterMap_eq_countP]
  exact List.countP_congr fun p _ => by cases p <;> simp [Piece.isStyle]

/-- The lines with a long s in the keyword by which they do something. -/
def longSpelled (keyword : Text) (does : Line → Bool) (t : Text) : Nat :=
  (linesOf t).countP fun l => does l && Statement.isLong keyword l.content

theorem countP_le_sum_add_countP {α : Type} {p r : α → Bool} {f : α → Nat} {as : List α}
    (h : ∀ a ∈ as, p a = true → r a = false → 1 ≤ f a) :
    as.countP p ≤ (as.map f).sum + as.countP fun a => p a && r a := by
  induction as with
  | nil => exact Nat.zero_le _
  | cons a as ih =>
    have htail := ih fun b hb => h b (List.mem_cons_of_mem a hb)
    have ha := h a List.mem_cons_self
    rw [List.countP_cons, List.countP_cons, List.map_cons, List.sum_cons]
    cases hp : p a with
    | false =>
      rw [if_neg Bool.false_ne_true]
      omega
    | true =>
      cases hr : r a with
      | false =>
        have := ha hp hr
        rw [if_pos rfl]
        omega
      | true =>
        rw [if_pos rfl, Bool.and_self, if_pos rfl]
        omega

/-- Every line that a keyword makes a statement of its kind has the keyword, as the facts count it,
unless it is written with a long s. -/
theorem countP_linesOf_le {keyword : Text} (hk : ∀ k ∈ keyword, k.isLower = true)
    (hne : keyword ≠ []) {does : Line → Bool}
    (hdoes : ∀ l : Text, does (Line.ofText l) = true →
      ∃ n, Statement.nameAfter? keyword (Line.ofText l).content = some n) (t : Text) :
    (linesOf t).countP does ≤ named keyword t + longSpelled keyword does t := by
  have hlines : ((linesOf t).map fun l => named keyword l.source).sum ≤ named keyword t := by
    rw [linesOf, List.map_map]
    refine sum_lines_le (fun a c b hc => ?_) t
    exact named_append_cons_le (standsAlone_of_isBlank (isBlank_of_isBreak hc)) keyword a b
  refine (countP_le_sum_add_countP ?_).trans (Nat.add_le_add_right hlines _)
  intro l hl hd hlong
  obtain ⟨-, he⟩ := exists_of_mem_linesOf hl
  rw [he] at hd hlong
  obtain ⟨n, hn⟩ := hdoes _ hd
  exact Line.one_le_named hk hne hn hlong

def longGroups (t : Text) : Nat :=
  longSpelled "subgraph".toList (fun l => l.opened?.isSome) t

def longStyles (t : Text) : Nat :=
  longSpelled "classdef".toList (fun l => l.statement == .style) t

theorem countP_opened?_le (t : Text) : (linesOf t).countP (fun l => l.opened?.isSome) ≤
    (Facts.ofText t).groups + longGroups t := by
  refine countP_linesOf_le (by decide) (by decide) (fun l hl => ?_) t
  obtain ⟨n, hn⟩ := Option.isSome_iff_exists.1 hl
  exact ⟨n, Statement.nameAfter?_of_ofText_eq_openGroup (Line.statement_of_opened? hn)⟩

theorem countP_style_le (t : Text) : (linesOf t).countP (fun l => l.statement == .style) ≤
    (Facts.ofText t).styles + longStyles t := by
  refine countP_linesOf_le (by decide) (by decide) (fun l hl => ?_) t
  exact Statement.nameAfter?_of_ofText_eq_style (beq_iff_eq.1 hl)

theorem countP_relationship_le (t : Text) :
    (linesOf t).countP (fun l => l.statement == .relationship) ≤ (Facts.ofText t).markers := by
  have hsum := (Facts.sum_of_content (content_eq_flatMap (visible_lines t).symm)).2.1
  have hlines : (lines t).map (fun s => (Facts.ofText s).markers) =
      (linesOf t).map fun l => (Facts.ofText l.source).markers := by
    rw [linesOf, List.map_map]
    rfl
  have hno : (linesOf t).countP (fun l => l.statement == .relationship && false) = 0 := by simp
  rw [hsum, hlines, ← Nat.add_zero (List.sum _), ← hno]
  refine countP_le_sum_add_countP fun l hl hd _ => ?_
  obtain ⟨-, he⟩ := exists_of_mem_linesOf hl
  have hs : Statement.ofText l.content = .relationship := by
    rw [he] at hd ⊢
    exact beq_iff_eq.1 hd
  rw [Facts.markers_ofText, ← Line.content_statement he, ← Facts.markers_ofText]
  exact one_le_countP_isMarker (Statement.hasMarker_of_ofText hs)

theorem length_groups_le (t : Text) :
    (ofChart t).groups.length + (ofChart t).unterminated.length ≤
      (Facts.ofText t).groups + longGroups t := by
  rw [ofChart_eq_ofPieces, length_groups_add]
  refine (Piece.countP_ofLines_le (fun x l hx hp => ?_) _).trans (countP_opened?_le t)
  cases hx with
  | group h => rw [Line.opened?_of_statement h]; rfl
  | unterminated h => rw [Line.opened?_of_statement h]; rfl
  | relationship h => cases hp
  | style h => cases hp

theorem length_styles_le (t : Text) :
    (ofChart t).styles.length ≤ (Facts.ofText t).styles + longStyles t := by
  rw [ofChart_eq_ofPieces, length_styles]
  refine (Piece.countP_ofLines_le (fun x l hx hp => ?_) _).trans (countP_style_le t)
  cases hx with
  | group h => cases hp
  | unterminated h => cases hp
  | relationship h => cases hp
  | style h => exact beq_iff_eq.2 h

theorem length_relationships_le (t : Text) :
    (ofChart t).relationships.length ≤ (Facts.ofText t).markers := by
  rw [ofChart_eq_ofPieces, length_relationships]
  refine (Piece.countP_ofLines_le (fun x l hx hp => ?_) _).trans (countP_relationship_le t)
  cases hx with
  | group h => cases hp
  | unterminated h => cases hp
  | relationship h => exact beq_iff_eq.2 h
  | style h => cases hp

end Sections

namespace Chart

/-- A merge takes no more groups, styles and relationships from a chart than the facts count, but
for groups and styles whose keyword has a long s. So a hint that a chart lacks groups or styles
leaves a merge only those to take, and a hint that it lacks relationships leaves none. -/
theorem parts_le_facts (t : Text) :
    let parts := Sections.ofChart t
    let facts := Facts.ofText t
    parts.groups.length + parts.unterminated.length ≤ facts.groups + Sections.longGroups t ∧
      parts.styles.length ≤ facts.styles + Sections.longStyles t ∧
      parts.relationships.length ≤ facts.markers ∧
      (Hint.noGroups.message ∈ (validate t).warnings →
        parts.groups.length + parts.unterminated.length ≤ Sections.longGroups t) ∧
      (Hint.noStyles.message ∈ (validate t).warnings →
        parts.styles.length ≤ Sections.longStyles t) ∧
      (Hint.noRelationships.message ∈ (validate t).warnings → parts.relationships = []) := by
  intro parts facts
  have hgroups := Sections.length_groups_le t
  have hstyles := Sections.length_styles_le t
  have hrelationships := Sections.length_relationships_le t
  refine ⟨hgroups, hstyles, hrelationships, ?_, ?_, ?_⟩
  · intro h
    rwa [(mem_warnings_iff.1 h).2, Nat.zero_add] at hgroups
  · intro h
    rwa [(mem_warnings_iff.1 h).2, Nat.zero_add] at hstyles
  · intro h
    rw [(mem_warnings_iff.1 h).2] at hrelationships
    exact List.eq_nil_of_length_eq_zero (Nat.le_zero.1 hrelationships)

/-- The chart of the next two theorems: its keywords have a long s, and it has no relationship. -/
def longChart : Text := "graph TD\nſubgraph g\nx[X]\nend\nclaſſdef c d".toList

theorem parts_le_facts_long_s :
    (Hint.noGroups.message ∈ (validate longChart).warnings ∧
      (Sections.ofChart longChart).groups.length +
        (Sections.ofChart longChart).unterminated.length ≤ 1) ∧
    (Hint.noStyles.message ∈ (validate longChart).warnings ∧
      (Sections.ofChart longChart).styles.length ≤ 1) ∧
    Hint.noRelationships.message ∈ (validate longChart).warnings ∧
      (Sections.ofChart longChart).relationships = [] := by
  have hgroups : Hint.noGroups.message ∈ (validate longChart).warnings := by decide +kernel
  have hstyles : Hint.noStyles.message ∈ (validate longChart).warnings := by decide +kernel
  have hrelationships : Hint.noRelationships.message ∈ (validate longChart).warnings := by
    decide +kernel
  have hlongGroups : Sections.longGroups longChart = 1 := by decide +kernel
  have hlongStyles : Sections.longStyles longChart = 1 := by decide +kernel
  obtain ⟨-, -, -, h1, h2, h3⟩ := parts_le_facts longChart
  exact ⟨⟨hgroups, hlongGroups ▸ h1 hgroups⟩, ⟨hstyles, hlongStyles ▸ h2 hstyles⟩,
    hrelationships, h3 hrelationships⟩

/-- A merge takes a group and a style from a chart that is said to have neither. -/
theorem parts_without_facts :
    (Facts.ofText longChart).groups = 0 ∧ (Facts.ofText longChart).styles = 0 ∧
      Hint.noGroups.message ∈ (validate longChart).warnings ∧
      Hint.noStyles.message ∈ (validate longChart).warnings ∧
      (Sections.ofChart longChart).groups =
        [⟨"g".toList, ["ſubgraph g".toList, "x[X]".toList, "end".toList]⟩] ∧
      (Sections.ofChart longChart).styles = ["claſſdef c d".toList] := by
  decide +kernel

end Chart
end CaseChart
