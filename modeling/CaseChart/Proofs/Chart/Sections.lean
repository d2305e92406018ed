import CaseChart.Chart.Sections
import CaseChart.Proofs.Chart.Statement
import CaseChart.Proofs.Text.Margin

namespace CaseChart
open Text

namespace Line

/-- Where a block ends depends on what its lines do, and not on what follows it. -/
theorem splitBlock?_append_of_statements {depth : Nat} {ls b r : List Line}
    (h : splitBlock? depth ls = some (b, r)) {b' : List Line}
    (hb : b'.map Line.statement = b.map Line.statement) (r' : List Line) :
    splitBlock? depth (b' ++ r') = some (b', r') := by
  induction ls generalizing depth b r b' with
  | nil => simp [splitBlock?] at h
  | cons l ls ih =>
    rw [splitBlock?] at h
    split at h
    · next hd =>
      obtain ⟨rfl, rfl⟩ := Prod.mk.inj (Option.some.inj h)
      obtain ⟨l', hl', hs⟩ := List.map_eq_singleton_iff.1 hb
      rw [hl', List.singleton_append, splitBlock?, hs, hd]
    · next d hd =>
      obtain ⟨⟨c, s⟩, hc, he⟩ := Option.map_eq_some_iff.1 h
      obtain ⟨rfl, rfl⟩ := Prod.mk.inj he
      obtain ⟨l', c', rfl, hs, hc'⟩ := List.map_eq_cons_iff.1 hb
      rw [List.cons_append, splitBlock?, hs, hd]
      simp only [ih hc hc', Option.map_some]

/-- The lines of a block, the end that closes it among them. -/
def Closed (body : List Line) : Prop := splitBlock? 0 body = some (body, [])

theorem Closed.of_splitBlock? {ls b r : List Line} (h : splitBlock? 0 ls = some (b, r)) :
    Closed b := by
  have hb := splitBlock?_append_of_statements h rfl []
  rwa [List.append_nil] at hb

theorem Closed.congr {b b' : List Line} (h : Closed b)
    (hb : b'.map Line.statement = b.map Line.statement) : Closed b' := by
  have hb' := splitBlock?_append_of_statements h hb []
  rwa [List.append_nil] at hb'

/-- White space around its lines does not matter to a block. -/
theorem Closed.map_of_trim {ts : List Text} (h : Closed (ts.map ofText)) {f : Text → Text}
    (hf : ∀ t ∈ ts, trim (f t) = trim t) : Closed ((ts.map f).map ofText) := by
  apply h.congr
  rw [List.map_map, List.map_map, List.map_map]
  exact List.map_congr_left fun t ht => statement_ofText_congr (hf t ht)

theorem Closed.splitBlock?_append {b : List Line} (h : Closed b) (r : List Line) :
    splitBlock? 0 (b ++ r) = some (b, r) := splitBlock?_append_of_statements h rfl r

end Line

namespace Piece

theorem ofLines_nil : ofLines [] = [] := by rw [ofLines]

theorem ofLines_cons_group {l : Line} {n : Text} (hl : l.statement = .openGroup n)
    {body : List Line} (hb : Line.Closed body) (rest : List Line) :
    ofLines (l :: (body ++ rest)) = .group ⟨n, Group.blockOf l body⟩ :: ofLines rest := by
  have hs := hb.splitBlock?_append rest
  rw [ofLines, hl]
  dsimp only
  split
  · next b r h =>
    obtain ⟨rfl, rfl⟩ := Prod.mk.inj (Option.some.inj (h.symm.trans hs))
    rfl
  · next h => exact absurd (h.symm.trans hs) (by simp)

theorem ofLines_cons_unterminated {l : Line} {n : Text} (hl : l.statement = .openGroup n)
    {ls : List Line} (h : Line.splitBlock? 0 ls = none) :
    ofLines (l :: ls) = .unterminated n :: ofLines ls := by
  rw [ofLines, hl]
  dsimp only
  split
  · next b r hs => exact absurd (h.symm.trans hs) (by simp)
  · rfl

theorem ofLines_cons_style {l : Line} (hl : l.statement = .style) (ls : List Line) :
    ofLines (l :: ls) = .style l.content :: ofLines ls := by
  rw [ofLines, hl]

theorem ofLines_cons_relationship {l : Line} (hl : l.statement = .relationship) (ls : List Line) :
    ofLines (l :: ls) = .relationship l.content :: ofLines ls := by
  rw [ofLines, hl]

theorem ofLines_cons_closeGroup {l : Line} (hl : l.statement = .closeGroup) (ls : List Line) :
    ofLines (l :: ls) = ofLines ls := by
  rw [ofLines, hl]

theorem ofLines_cons_other {l : Line} (hl : l.statement = .other) (ls : List Line) :
    ofLines (l :: ls) = ofLines ls := by
  rw [ofLines, hl]

/-- Lines that are read part by part, whatever follows. -/
theorem ofLines_flatMap_append {α : Type} {lines : α → List Line} {piece : α → Piece} {as : List α}
    (h : ∀ a ∈ as, ∀ rest, ofLines (lines a ++ rest) = piece a :: ofLines rest) (rest : List Line) :
    ofLines (as.flatMap lines ++ rest) = as.map piece ++ ofLines rest := by
  induction as with
  | nil => rfl
  | cons a as ih =>
    rw [List.flatMap_cons, List.append_assoc, h a List.mem_cons_self,
      ih fun b hb => h b (List.mem_cons_of_mem a hb), List.map_cons, List.cons_append]

inductive From (ls : List Line) : Piece → Prop
  | group {l : Line} {n : Text} {body : List Line} (hl : l ∈ ls) (hb : body ⊆ ls)
      (h : l.statement = .openGroup n) (hc : Line.Closed body) :
      From ls (.group ⟨n, Group.blockOf l body⟩)
  | unterminated {l : Line} {n : Text} (hl : l ∈ ls) (h : l.statement = .openGroup n) :
      From ls (.unterminated n)
  | relationship {l : Line} (hl : l ∈ ls) (h : l.statement = .relationship) :
      From ls (.relationship l.content)
  | style {l : Line} (hl : l ∈ ls) (h : l.statement = .style) : From ls (.style l.content)

theorem From.mono {ls ms : List Line} (hs : ls ⊆ ms) {p : Piece} (h : From ls p) : From ms p := by
  cases h with
  | group hl hb h hc => exact .group (hs hl) (List.Subset.trans hb hs) h hc
  | unterminated hl h => exact .unterminated (hs hl) h
  | relationship hl h => exact .relationship (hs hl) h
  | style hl h => exact .style (hs hl) h

theorem from_of_mem_ofLines {p : Piece} {ls : List Line} (h : p ∈ ofLines ls) : From ls p := by
  fun_induction ofLines ls with
  | case1 => simp at h
  -- the lines of a block and those behind it are all lines of the chart
  | case2 l ls n hl body rest hs ih =>
    have he : ls = body ++ rest := Line.eq_append_of_splitBlock? hs
    rcases List.mem_cons.1 h with rfl | h
    · apply From.group List.mem_cons_self _ hl (.of_splitBlock? hs)
      exact fun x hx => List.mem_cons_of_mem l (he ▸ List.mem_append_left rest hx)
    · apply (ih h).mono
      exact fun x hx => List.mem_cons_of_mem l (he ▸ List.mem_append_right body hx)
  | case3 l ls n hl hs ih =>
    rcases List.mem_cons.1 h with rfl | h
    · exact .unterminated List.mem_cons_self hl
    · exact (ih h).mono (List.subset_cons_self l ls)
  | case4 l ls hl ih =>
    rcases List.mem_cons.1 h with rfl | h
    · exact .style List.mem_cons_self hl
    · exact (ih h).mono (List.subset_cons_self l ls)
  | case5 l ls hl ih =>
    rcases List.mem_cons.1 h with rfl | h
    · exact .relationship List.mem_cons_self hl
    · exact (ih h).mono (List.subset_cons_self l ls)
  | case6 l ls _ _ _ ih => exact (ih h).mono (List.subset_cons_self l ls)

end Piece

namespace Sections

/-- Groups, then relationships, then styles are sorted already. -/
theorem ofPieces_of_kinds (gs : List Group) (rs ss : List Text) :
    ofPieces (gs.map .group ++ rs.map .relationship ++ ss.map .style) = ⟨gs, rs, ss, []⟩ := by
  simp [ofPieces, List.filterMap_append, List.filterMap_map]

theorem mem_filterMap_iff {α β : Type} {part : α → Option β} {whole : β → α}
    (h : ∀ a b, part a = some b ↔ a = whole b) {as : List α} {b : β} :
    b ∈ as.filterMap part ↔ whole b ∈ as := by
  simp only [List.mem_filterMap, h]
  constructor
  · rintro ⟨a, ha, rfl⟩
    exact ha
  · exact fun hb => ⟨whole b, hb, rfl⟩

theorem group_mem_iff {g : Group} {ps : List Piece} : g ∈ (ofPieces ps).groups ↔ .group g ∈ ps :=
  mem_filterMap_iff fun p _ => by cases p <;> simp

theorem relationship_mem_iff {r : Text} {ps : List Piece} :
    r ∈ (ofPieces ps).relationships ↔ .relationship r ∈ ps :=
  mem_filterMap_iff fun p _ => by cases p <;> simp

theorem style_mem_iff {s : Text} {ps : List Piece} : s ∈ (ofPieces ps).styles ↔ .style s ∈ ps :=
  mem_filterMap_iff fun p _ => by cases p <;> simp

def linesOf (t : Text) : List Line := (lines t).map Line.ofText

theorem ofChart_eq_ofPieces (t : Text) : ofChart t = ofPieces (Piece.ofLines (linesOf t)) := rfl

theorem exists_of_mem_linesOf {t : Text} {l : Line} (h : l ∈ linesOf t) :
    Unbroken l.source ∧ l = Line.ofText l.source := by
  obtain ⟨s, hs, rfl⟩ := List.mem_map.1 h
  exact ⟨unbroken_of_mem_lines hs, rfl⟩

end Sections
end CaseChart
