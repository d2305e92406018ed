import CaseChart.Proofs.Chart.Pairing
import CaseChart.Proofs.Chart.Sections
import Mathlib.Data.List.Sort

namespace CaseChart
open Text

namespace Statement

theorem mem_of_hasMarker {s : Text} (h : hasMarker s = true) : '-' ∈ s := by
  fun_induction hasMarker s with
  | case1 => exact List.mem_cons_self
  | case2 _ _ _ ih => exact List.mem_cons_of_mem _ (ih h)
  | case3 => exact absurd h (by simp)

theorem toLower_of_matchesLetter_ne {k c : Char} (hk : k ≠ 's') (h : matchesLetter k c = true) :
    c.toLower = k := by
  simpa [matchesLetter, sameLetter, hk] using h

/-- The letters of an end, then white space, then at most a semicolon. -/
theorem exists_append_of_isEnd {s : Text} (h : isEnd s = true) :
    ∃ w t, s = w ++ t ∧ List.Forall₂ (fun k c => matchesLetter k c = true) "end".toList w ∧
      ∀ c ∈ t, isBlank c = true ∨ c = ';' := by
  unfold isEnd at h
  split at h
  · next t ht =>
    obtain ⟨w, rfl, hw⟩ := dropWord?_eq_some_iff.1 ht
    refine ⟨w, t, rfl, hw, ?_⟩
    intro c hc
    rw [← List.takeWhile_append_dropWhile (p := isBlank) (l := t)] at hc
    rcases List.mem_append.1 hc with hc | hc
    · exact .inl (List.mem_takeWhile_imp hc)
    · split at h
      · next hd => simp [hd] at hc
      · next d r hd =>
        simp only [Bool.and_eq_true, beq_iff_eq, List.isEmpty_iff] at h
        rw [hd, h.1, h.2, List.mem_singleton] at hc
        exact .inr hc
  · exact absurd h (by simp)

theorem nameAfter?_classdef_of_isEnd {s : Text} (h : isEnd s = true) :
    nameAfter? "classdef".toList s = none := by
  obtain ⟨w, t, rfl, hw, -⟩ := exists_append_of_isEnd h
  obtain ⟨e, w, he, -, rfl⟩ := List.forall₂_cons_left_iff.1 hw
  rw [Option.eq_none_iff_forall_ne_some]
  intro n hn
  obtain ⟨c, r, hc, hcl⟩ := exists_head_of_nameAfter? hn
  obtain ⟨rfl, -⟩ := List.cons.inj hc
  have hc' := toLower_of_matchesLetter_ne (by decide) hcl
  rw [toLower_of_matchesLetter_ne (by decide) he] at hc'
  exact absurd hc' (by decide)

theorem hasMarker_of_isEnd {s : Text} (h : isEnd s = true) : hasMarker s = false := by
  obtain ⟨w, t, rfl, hw, ht⟩ := exists_append_of_isEnd h
  rw [Bool.eq_false_iff]
  intro hm
  rcases List.mem_append.1 (mem_of_hasMarker hm) with hc | hc
  · exact absurd (isWord_of_forall₂_matchesLetter (by decide) hw _ hc) (by decide)
  · rcases ht _ hc with hb | hb
    · exact absurd hb (by decide)
    · exact absurd hb (by decide)

end Statement

/-- The part that a line makes up which opens no group. -/
def Line.standing? (l : Line) : Option Piece :=
  if (Statement.nameAfter? "classdef".toList l.content).isSome then some (.style l.content)
  else if Statement.hasMarker l.content then some (.relationship l.content)
  else none

namespace Piece

theorem ofLines_cons_standing {l : Line} (hl : l = Line.ofText l.source) (ho : l.opened? = none)
    (ls : List Line) : ofLines (l :: ls) = l.standing?.toList ++ ofLines ls := by
  have hs : l.statement = Statement.ofText l.content := by rw [hl]; rfl
  have hname : Statement.nameAfter? "subgraph".toList l.content = none := by
    rw [Option.eq_none_iff_forall_ne_some]
    intro n hn
    have hopen : l.statement = .openGroup n := by rw [hs, Statement.ofText, hn]
    exact absurd (Line.opened?_of_statement hopen) (by simp [ho])
  unfold Statement.ofText at hs
  rw [hname] at hs
  dsimp only at hs
  split_ifs at hs with he hst hm
  · rw [ofLines_cons_closeGroup hs, Line.standing?, Statement.nameAfter?_classdef_of_isEnd he,
      Statement.hasMarker_of_isEnd he]
    rfl
  · rw [ofLines_cons_style hs, Line.standing?, if_pos hst]
    rfl
  · rw [ofLines_cons_relationship hs, Line.standing?, if_neg hst, if_pos hm]
    rfl
  · rw [ofLines_cons_other hs, Line.standing?, if_neg hst, if_neg hm]
    rfl

/-- Whether the line at `k` stands behind the opener of one of some pairs and not behind its
end. -/
def isWithin (ps : List (Nat × Nat)) (k : Nat) : Bool := ps.any fun x => x.1 < k && k ≤ x.2

/-- The part that the line `x.1`, at `x.2` among `ls`, begins. -/
def at? (ls : List Line) (x : Line × Nat) : Option Piece :=
  if isWithin (Line.matchEnds ls) x.2 then none
  else
    match x.1.opened? with
    | some n =>
      match (Line.matchEnds ls).find? (·.1 == x.2) with
      | some y => some (.group ⟨n, Group.blockOf x.1 ((ls.take (y.2 + 1)).drop (x.2 + 1))⟩)
      | none => some (.unterminated n)
    | none => x.1.standing?

theorem isWithin_iff {ls : List Line} {k : Nat} :
    isWithin (Line.matchEnds ls) k = true ↔ ∃ i e, Line.Pair ls i e ∧ i < k ∧ k ≤ e := by
  simp only [isWithin, List.any_eq_true, Bool.and_eq_true, decide_eq_true_eq, Line.mem_matchEnds,
    Prod.exists]

theorem find?_matchEnds {ls : List Line} {i e : Nat} (h : Line.Pair ls i e) :
    (Line.matchEnds ls).find? (·.1 == i) = some (i, e) := by
  cases hf : (Line.matchEnds ls).find? (·.1 == i) with
  | none =>
    have := List.find?_eq_none.1 hf (i, e) (Line.mem_matchEnds.2 h)
    simp at this
  | some y =>
    obtain ⟨j, f⟩ := y
    have hj : j = i := by simpa using List.find?_some hf
    have hp : Line.Pair ls j f := Line.mem_matchEnds.1 (List.mem_of_find?_eq_some hf)
    rw [hj] at hp ⊢
    rw [h.end_unique hp]

theorem find?_matchEnds_eq_none {ls : List Line} {i : Nat} (h : ∀ e, ¬ Line.Pair ls i e) :
    (Line.matchEnds ls).find? (·.1 == i) = none := by
  rw [List.find?_eq_none]
  rintro ⟨j, f⟩ hx hj
  have hj : j = i := by simpa using hj
  exact h f (hj ▸ Line.mem_matchEnds.1 hx)

theorem isWithin_succ {ls : List Line} {k : Nat}
    (h : isWithin (Line.matchEnds ls) k = false) (hk : ∀ e, ¬ Line.Pair ls k e) :
    isWithin (Line.matchEnds ls) (k + 1) = false := by
  rw [Bool.eq_false_iff, ne_eq, isWithin_iff] at h ⊢
  rintro ⟨i, e, hp, hi, he⟩
  by_cases hik : i = k
  · exact hk e (hik ▸ hp)
  · exact h ⟨i, e, hp, by omega, by omega⟩

theorem isWithin_after_end {ls : List Line} {k e : Nat}
    (h : isWithin (Line.matchEnds ls) k = false) (hk : Line.Pair ls k e) :
    isWithin (Line.matchEnds ls) (e + 1) = false := by
  rw [Bool.eq_false_iff, ne_eq, isWithin_iff] at h ⊢
  rintro ⟨i, f, hp, hi, hf⟩
  by_cases hik : i < k
  · have := hk.lt
    exact h ⟨i, f, hp, hik, by omega⟩
  · by_cases hieq : i = k
    · have := hk.end_unique (hieq ▸ hp)
      omega
    · -- a pair that begins inside ends inside
      have := hk.nested hp (by omega) (by omega)
      omega

theorem at?_standing {ls : List Line} {l : Line} {k : Nat}
    (hk : isWithin (Line.matchEnds ls) k = false) (ho : l.opened? = none) :
    at? ls (l, k) = l.standing? := by
  simp only [at?, hk, ho, Bool.false_eq_true, if_false]

theorem at?_group {ls : List Line} {l : Line} {n : Text} {k e : Nat}
    (hk : isWithin (Line.matchEnds ls) k = false) (ho : l.opened? = some n)
    (hp : Line.Pair ls k e) :
    at? ls (l, k) = some (.group ⟨n, Group.blockOf l ((ls.take (e + 1)).drop (k + 1))⟩) := by
  simp only [at?, hk, ho, find?_matchEnds hp, Bool.false_eq_true, if_false]

theorem at?_unterminated {ls : List Line} {l : Line} {n : Text} {k : Nat}
    (hk : isWithin (Line.matchEnds ls) k = false) (ho : l.opened? = some n)
    (hp : ∀ e, ¬ Line.Pair ls k e) : at? ls (l, k) = some (.unterminated n) := by
  simp only [at?, hk, ho, find?_matchEnds_eq_none hp, Bool.false_eq_true, if_false]

/-- The lines behind the opener of a pair, up to its end, begin nothing. -/
theorem filterMap_at?_inner {ls : List Line} {k e : Nat} (h : Line.Pair ls k e) {b : List Line}
    (hb : k + b.length ≤ e) : (b.zipIdx (k + 1)).filterMap (at? ls) = [] := by
  rw [List.filterMap_eq_nil_iff]
  rintro ⟨m, j⟩ hm
  obtain ⟨hj, hlt, -⟩ := List.mem_zipIdx hm
  have hin := isWithin_iff.2 ⟨k, e, h, (by omega : k < j), by omega⟩
  simp only [at?, hin, if_true]

/-- So behind the opener of a pair the next part begins behind its end. -/
theorem filterMap_at?_behind {ls : List Line} {k e : Nat} (h : Line.Pair ls k e) :
    ((ls.drop (k + 1)).zipIdx (k + 1)).filterMap (at? ls) =
      ((ls.drop (e + 1)).zipIdx (e + 1)).filterMap (at? ls) := by
  have hke := h.lt
  have hlen := h.lt_length
  have hblock : ((ls.take (e + 1)).drop (k + 1)).length = e - k := by
    rw [List.length_drop, List.length_take]
    omega
  have hnext : k + 1 + (e - k) = e + 1 := by omega
  have hinner : (((ls.take (e + 1)).drop (k + 1)).zipIdx (k + 1)).filterMap (at? ls) = [] :=
    filterMap_at?_inner h (by omega)
  have hsplit := Line.eq_append_of_splitBlock? h.splitBlock?
  conv_lhs => rw [hsplit, List.zipIdx_append, List.filterMap_append, hinner, hblock, hnext]
  rw [List.nil_append]

theorem ofLines_drop_group {ls : List Line} {k e : Nat} (h : Line.Pair ls k e) {l : Line} {n : Text}
    (hl : l.statement = .openGroup n) :
    ofLines (l :: ls.drop (k + 1)) =
      .group ⟨n, Group.blockOf l ((ls.take (e + 1)).drop (k + 1))⟩ ::
        ofLines (ls.drop (e + 1)) := by
  have hsplit := h.splitBlock?
  conv_lhs => rw [Line.eq_append_of_splitBlock? hsplit]
  exact ofLines_cons_group hl (.of_splitBlock? hsplit) _

/-- Reading goes on with the first line behind a block or with the next line, and that line is again
in no block. -/
theorem ofLines_drop {ls : List Line} (hls : ∀ l ∈ ls, l = Line.ofText l.source) {k : Nat}
    (hk : isWithin (Line.matchEnds ls) k = false) :
    ofLines (ls.drop k) = ((ls.drop k).zipIdx k).filterMap (at? ls) := by
  induction hn : ls.length - k using Nat.strongRecOn generalizing k with
  | ind n ih =>
    by_cases hlt : k < ls.length
    · have hnext : (∀ e, ¬ Line.Pair ls k e) →
          ofLines (ls.drop (k + 1)) = ((ls.drop (k + 1)).zipIdx (k + 1)).filterMap (at? ls) :=
        fun hno => ih (ls.length - (k + 1)) (by omega) (isWithin_succ hk hno) rfl
      have hl : ls[k]? = some ls[k] := List.getElem?_eq_getElem hlt
      have hread : ls[k] = Line.ofText ls[k].source := hls _ (List.getElem_mem hlt)
      rw [List.drop_eq_getElem_cons hlt, List.zipIdx_cons]
      generalize ls[k] = l at hl hread ⊢
      cases ho : l.opened? with
      | none =>
        rw [ofLines_cons_standing hread ho, hnext (Line.not_pair_of_opened? hl ho)]
        cases hst : l.standing? with
        | none => rw [List.filterMap_cons_none (by rw [at?_standing hk ho, hst])]; rfl
        | some q => rw [List.filterMap_cons_some (by rw [at?_standing hk ho, hst])]; rfl
      | some m =>
        have hst := Line.statement_of_opened? ho
        by_cases hp : ∃ e, Line.Pair ls k e
        · obtain ⟨e, hp⟩ := hp
          have hke := hp.lt
          have hrest := ih (ls.length - (e + 1)) (by omega) (isWithin_after_end hk hp) rfl
          rw [ofLines_drop_group hp hst, List.filterMap_cons_some (at?_group hk ho hp),
            filterMap_at?_behind hp, hrest]
        · rw [not_exists] at hp
          have hb : Line.splitBlock? 0 (ls.drop (k + 1)) = none := by
            rw [Option.eq_none_iff_forall_ne_some]
            rintro ⟨b, r⟩ hb
            obtain ⟨e, he⟩ := Line.exists_pair_of_splitBlock? hl (by rw [ho, Option.isSome_some]) hb
            exact hp e he
          rw [ofLines_cons_unterminated hst hb,
            List.filterMap_cons_some (at?_unterminated hk ho hp), hnext hp]
    · rw [List.drop_eq_nil_of_le (by omega)]
      exact ofLines_nil

end Piece

namespace Line

/-- The pairs that lie inside no other pair. -/
def blocks (ls : List Line) : List (Nat × Nat) :=
  (matchEnds ls).filter fun x => !(matchEnds ls).any fun y => y.1 < x.1 && x.2 < y.2

def outside (ls : List Line) : List Line :=
  ls.zipIdx.filterMap fun x =>
    if (blocks ls).any fun y => y.1 ≤ x.2 && x.2 ≤ y.2 then none else some x.1

/-- The group whose lines are those from `x.1` to `x.2`, named by the first of them. -/
def group? (ls : List Line) (x : Nat × Nat) : Option Group := do
  let o ← ls[x.1]?
  let name ← o.opened?
  return ⟨name, Group.blockOf o ((ls.take (x.2 + 1)).drop (x.1 + 1))⟩

def style? (l : Line) : Option Text :=
  if l.opened?.isNone && (Statement.nameAfter? "classdef".toList l.content).isSome then
    some l.content
  else none

/-- The relationship on a line which opens no group and defines no style. -/
def relationship? (l : Line) : Option Text :=
  if l.opened?.isNone && (Statement.nameAfter? "classdef".toList l.content).isNone &&
    Statement.hasMarker l.content then some l.content
  else none

theorem mem_blocks {ls : List Line} {i e : Nat} :
    (i, e) ∈ blocks ls ↔ Pair ls i e ∧ ∀ j f, Pair ls j f → ¬ (j < i ∧ e < f) := by
  rw [blocks, List.mem_filter, mem_matchEnds]
  simp only [Bool.not_eq_true', List.any_eq_false, Bool.and_eq_true, decide_eq_true_eq,
    mem_matchEnds, Prod.forall]

/-- The blocks follow one another, and no two have a line in common. -/
theorem blocks_sorted (ls : List Line) : (blocks ls).Pairwise fun x y => x.2 < y.1 := by
  apply ((matchEnds_sorted ls).sublist List.filter_sublist).imp_of_mem
  rintro ⟨i, e⟩ ⟨j, f⟩ hx hy hef
  obtain ⟨hx, hout⟩ := mem_blocks.1 hx
  obtain ⟨hy, -⟩ := mem_blocks.1 hy
  dsimp only at hef ⊢
  by_contra hle
  rcases Nat.lt_trichotomy i j with hij | rfl | hij
  · have := hx.nested hy hij (by omega)
    omega
  · have := hx.end_unique hy
    omega
  · exact hout j f hy ⟨hij, hef⟩

theorem exists_block {ls : List Line} {i e k : Nat} (h : Pair ls i e) (hi : i < k) (he : k ≤ e) :
    ∃ j f, (j, f) ∈ blocks ls ∧ j < k ∧ k ≤ f := by
  induction i using Nat.strongRecOn generalizing e with
  | ind i ih =>
    by_cases hout : ∀ j f, Pair ls j f → ¬ (j < i ∧ e < f)
    · exact ⟨i, e, mem_blocks.2 ⟨h, hout⟩, hi, he⟩
    · push Not at hout
      obtain ⟨j, f, hp, hj, hf⟩ := hout
      exact ih j hj hp (by omega) (by omega)

theorem not_isWithin_of_mem_blocks {ls : List Line} {i e : Nat} (h : (i, e) ∈ blocks ls) :
    Piece.isWithin (matchEnds ls) i = false := by
  obtain ⟨hp, hout⟩ := mem_blocks.1 h
  rw [Bool.eq_false_iff, ne_eq, Piece.isWithin_iff]
  rintro ⟨j, f, hp', hj, hf⟩
  exact hout j f hp' ⟨hj, hp'.nested hp hj hf⟩

def blockAt? (ls : List Line) (k : Nat) : Option (Nat × Nat) :=
  if Piece.isWithin (matchEnds ls) k then none else (matchEnds ls).find? (·.1 == k)

theorem blockAt?_eq_some_iff {ls : List Line} {k : Nat} {x : Nat × Nat} :
    blockAt? ls k = some x ↔ x ∈ blocks ls ∧ x.1 = k := by
  obtain ⟨i, e⟩ := x
  unfold blockAt?
  constructor
  · intro h
    split_ifs at h with hw
    have hi : i = k := by simpa using List.find?_some h
    have hp : Pair ls i e := mem_matchEnds.1 (List.mem_of_find?_eq_some h)
    refine ⟨mem_blocks.2 ⟨hp, ?_⟩, hi⟩
    -- an outer pair would have the opener within it
    rintro j f hp' ⟨hj, hf⟩
    have := hp.lt
    exact hw (hi ▸ Piece.isWithin_iff.2 ⟨j, f, hp', hj, by omega⟩)
  · rintro ⟨h, rfl⟩
    rw [if_neg (by simp [not_isWithin_of_mem_blocks h]),
      Piece.find?_matchEnds (mem_blocks.1 h).1]

/-- Going through the lines, blocks are met in their order. -/
theorem filterMap_blockAt? (ls : List Line) :
    ls.zipIdx.filterMap (fun x => blockAt? ls x.2) = blocks ls := by
  have : Std.Antisymm fun x y : Nat × Nat => x.1 < y.1 :=
    ⟨fun x y h h' => absurd h (Nat.lt_asymm h')⟩
  have : Std.Irrefl fun x y : Nat × Nat => x.1 < y.1 := ⟨fun x => Nat.lt_irrefl x.1⟩
  apply List.Pairwise.eq_of_mem_iff (r := fun x y : Nat × Nat => x.1 < y.1)
  · have hidx : ls.zipIdx.Pairwise fun x y => x.2 < y.2 := by
      rw [← List.pairwise_map, List.zipIdx_map_snd]
      exact List.pairwise_lt_range'
    apply hidx.filterMap
    intro x y hxy b hb c hc
    rw [(blockAt?_eq_some_iff.1 hb).2, (blockAt?_eq_some_iff.1 hc).2]
    exact hxy
  · apply (blocks_sorted ls).imp_of_mem
    rintro ⟨i, e⟩ ⟨j, f⟩ hx - hlt
    exact (mem_blocks.1 hx).1.lt.trans hlt
  · intro x
    rw [List.mem_filterMap]
    constructor
    · rintro ⟨y, -, hy⟩
      exact (blockAt?_eq_some_iff.1 hy).1
    · intro hx
      obtain ⟨o, ho, -⟩ := (mem_blocks.1 hx).1.opener
      exact ⟨(o, x.1), List.mem_zipIdx_iff_getElem?.2 ho, blockAt?_eq_some_iff.2 ⟨hx, rfl⟩⟩

theorem isSome_group? {ls : List Line} {x : Nat × Nat} (h : x ∈ blocks ls) :
    (group? ls x).isSome := by
  obtain ⟨o, ho, hos⟩ := (mem_blocks.1 h).1.opener
  obtain ⟨n, hn⟩ := Option.isSome_iff_exists.1 hos
  simp [group?, ho, hn]

/-- A line that opens nothing stands in a block exactly if it is within a pair. -/
theorem any_blocks_of_opened? {ls : List Line} {l : Line} {k : Nat} (hk : ls[k]? = some l)
    (ho : l.opened? = none) :
    ((blocks ls).any fun y => y.1 ≤ k && k ≤ y.2) = Piece.isWithin (matchEnds ls) k := by
  rw [Bool.eq_iff_iff, Piece.isWithin_iff, List.any_eq_true]
  simp only [Bool.and_eq_true, decide_eq_true_eq, Prod.exists]
  constructor
  · rintro ⟨i, e, hb, hi, he⟩
    have hp := (mem_blocks.1 hb).1
    have hne : i ≠ k := by
      rintro rfl
      exact not_pair_of_opened? hk ho e hp
    exact ⟨i, e, hp, by omega, he⟩
  · rintro ⟨i, e, hp, hi, he⟩
    obtain ⟨j, f, hb, hj, hf⟩ := exists_block hp hi he
    exact ⟨j, f, hb, by omega, hf⟩

end Line

namespace Sections

theorem pieces_eq (t : Text) :
    Piece.ofLines (linesOf t) = (linesOf t).zipIdx.filterMap (Piece.at? (linesOf t)) := by
  have hfirst : Piece.isWithin (Line.matchEnds (linesOf t)) 0 = false := by
    rw [Bool.eq_false_iff, ne_eq, Piece.isWithin_iff]
    rintro ⟨i, e, -, hi, -⟩
    exact Nat.not_lt_zero i hi
  have h := Piece.ofLines_drop (fun l hl => (exists_of_mem_linesOf hl).2) hfirst
  rwa [List.drop_zero] at h

/-- One group for every block, in order: its lines are those of the block. -/
theorem groups_eq (t : Text) :
    (ofChart t).groups.map some =
      (Line.blocks (linesOf t)).map (Line.group? (linesOf t)) := by
  have hg : (ofChart t).groups =
      (Line.blocks (linesOf t)).filterMap (Line.group? (linesOf t)) := by
    rw [ofChart_eq_ofPieces, pieces_eq, ← Line.filterMap_blockAt?, List.filterMap_filterMap]
    unfold ofPieces
    dsimp only
    rw [List.filterMap_filterMap]
    apply List.filterMap_congr
    rintro ⟨l, k⟩ hx
    have hk : (linesOf t)[k]? = some l := List.mem_zipIdx_iff_getElem?.1 hx
    unfold Piece.at? Line.blockAt?
    dsimp only
    split
    · rfl
    · cases ho : l.opened? with
      | none =>
        rw [Piece.find?_matchEnds_eq_none (Line.not_pair_of_opened? hk ho)]
        unfold Line.standing?
        split_ifs
        · rfl
        · rfl
        · rfl
      | some n =>
        cases hf : (Line.matchEnds (linesOf t)).find? (·.1 == k) with
        | none => rfl
        | some y =>
          have hy : y.1 = k := by simpa using List.find?_some hf
          simp [Line.group?, hy, hk, ho]
  rw [hg, List.map_filterMap_some_eq_filter_map_isSome, List.filter_eq_self]
  intro g hg
  obtain ⟨x, hx, rfl⟩ := List.mem_map.1 hg
  exact Line.isSome_group? hx

/-- The openers without an end, in order, by their names. -/
theorem unterminated_eq (t : Text) :
    (ofChart t).unterminated = (linesOf t).zipIdx.filterMap fun x =>
      if (Line.matchEnds (linesOf t)).any (·.1 == x.2) then none else x.1.opened? := by
  rw [ofChart_eq_ofPieces, pieces_eq]
  unfold ofPieces
  dsimp only
  rw [List.filterMap_filterMap]
  apply List.filterMap_congr
  rintro ⟨l, k⟩ hx
  have hk : (linesOf t)[k]? = some l := List.mem_zipIdx_iff_getElem?.1 hx
  unfold Piece.at?
  dsimp only
  cases ho : l.opened? with
  | none =>
    unfold Line.standing?
    split_ifs <;> rfl
  | some n =>
    split
    · -- an opener within a pair has an end
      next hw =>
      obtain ⟨i, e, hp, hi, he⟩ := Piece.isWithin_iff.1 hw
      obtain ⟨f, -, hf⟩ := hp.exists_inner hi he hk (by rw [ho, Option.isSome_some])
      rw [if_pos (List.any_eq_true.2 ⟨(k, f), Line.mem_matchEnds.2 hf, by simp⟩)]
      rfl
    · cases hf : (Line.matchEnds (linesOf t)).find? (·.1 == k) with
      | none =>
        rw [if_neg]
        · rfl
        · rw [List.find?_eq_none] at hf
          rw [List.any_eq_true]
          rintro ⟨y, hy, hyk⟩
          exact hf y hy hyk
      | some y =>
        rw [if_pos (List.any_eq_true.2 ⟨y, List.mem_of_find?_eq_some hf, List.find?_some hf⟩)]
        rfl

/-- What is read off a chart one line at a time, outside its blocks. -/
theorem filterMap_outside (t : Text) {part : Piece → Option Text} {item : Line → Option Text}
    (hgroup : ∀ g, part (.group g) = none) (hname : ∀ n, part (.unterminated n) = none)
    (hopen : ∀ l : Line, l.opened?.isSome → item l = none)
    (hitem : ∀ l : Line, l.opened? = none → l.standing?.bind part = item l) :
    (Piece.ofLines (linesOf t)).filterMap part = (Line.outside (linesOf t)).filterMap item := by
  rw [pieces_eq, List.filterMap_filterMap, Line.outside, List.filterMap_filterMap]
  apply List.filterMap_congr
  rintro ⟨l, k⟩ hx
  have hk : (linesOf t)[k]? = some l := List.mem_zipIdx_iff_getElem?.1 hx
  unfold Piece.at?
  dsimp only
  cases ho : l.opened? with
  | none =>
    rw [Line.any_blocks_of_opened? hk ho]
    split
    · rfl
    · exact hitem l ho
  | some n =>
    have hl : item l = none := hopen l (by rw [ho, Option.isSome_some])
    have hr : ∀ b : Bool, (if b then none else some l).bind item = none := by
      intro b
      cases b with
      | true => rfl
      | false => exact hl
    rw [hr]
    split
    · rfl
    · cases (Line.matchEnds (linesOf t)).find? (·.1 == k) with
      | some y => exact hgroup _
      | none => exact hname n

theorem styles_eq (t : Text) :
    (ofChart t).styles = (Line.outside (linesOf t)).filterMap Line.style? := by
  apply filterMap_outside
  · intro g
    rfl
  · intro n
    rfl
  · intro l ho
    obtain ⟨n, hn⟩ := Option.isSome_iff_exists.1 ho
    simp [Line.style?, hn]
  · intro l ho
    unfold Line.standing? Line.style?
    cases hs : (Statement.nameAfter? "classdef".toList l.content).isSome with
    | true => simp [ho]
    | false =>
      cases hm : Statement.hasMarker l.content with
      | true => simp [ho]
      | false => simp [ho]

theorem relationships_eq (t : Text) :
    (ofChart t).relationships = (Line.outside (linesOf t)).filterMap Line.relationship? := by
  apply filterMap_outside
  · intro g
    rfl
  · intro n
    rfl
  · intro l ho
    obtain ⟨n, hn⟩ := Option.isSome_iff_exists.1 ho
    simp [Line.relationship?, hn]
  · intro l ho
    unfold Line.standing? Line.relationship?
    cases hs : Statement.nameAfter? "classdef".toList l.content with
    | some n => simp [ho]
    | none =>
      cases hm : Statement.hasMarker l.content with
      | true => simp [ho]
      | false => simp [ho]

end Sections

end CaseChart
