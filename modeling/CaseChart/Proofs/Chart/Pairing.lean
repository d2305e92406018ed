import CaseChart.Chart.Sections
import Mathlib.Data.List.Basic

namespace CaseChart.Line

def opened? (l : Line) : Option Text :=
  match l.statement with
  | .openGroup name => some name
  | _ => none

def isEnd (l : Line) : Bool := l.statement == .closeGroup

theorem statement_of_opened? {l : Line} {n : Text} (h : l.opened? = some n) :
    l.statement = .openGroup n := by
  unfold opened? at h
  split at h
  · next m hm => rw [hm, Option.some.inj h]
  · exact absurd h (by simp)

theorem opened?_of_statement {l : Line} {n : Text} (h : l.statement = .openGroup n) :
    l.opened? = some n := by
  rw [opened?, h]

theorem isEnd_iff {l : Line} : l.isEnd = true ↔ l.statement = .closeGroup := by
  rw [isEnd, beq_iff_eq]

theorem opened?_of_isEnd {l : Line} (h : l.isEnd = true) : l.opened? = none := by
  rw [opened?, isEnd_iff.1 h]

/-- Lines in which every end closes an opener among them, and every opener is closed. -/
inductive Balanced : List Line → Prop
  | nil : Balanced []
  | plain {l : Line} {ls : List Line} (ho : l.opened? = none) (he : l.isEnd = false)
      (h : Balanced ls) : Balanced (l :: ls)
  | group {o c : Line} {body ls : List Line} (ho : o.opened?.isSome) (hc : c.isEnd = true)
      (hb : Balanced body) (h : Balanced ls) : Balanced (o :: (body ++ c :: ls))

theorem Balanced.append {s t : List Line} (hs : Balanced s) (ht : Balanced t) :
    Balanced (s ++ t) := by
  induction hs with
  | nil => exact ht
  | plain ho he _ ih => exact .plain ho he ih
  | group ho hc hb _ _ ih =>
    rw [List.cons_append, List.append_assoc, List.cons_append]
    exact .group ho hc hb ih

section Depth

theorem depthAfter?_opener {l : Line} (h : l.opened?.isSome) (depth : Nat) :
    l.statement.depthAfter? depth = some (depth + 1) := by
  obtain ⟨n, hn⟩ := Option.isSome_iff_exists.1 h
  rw [statement_of_opened? hn, Statement.depthAfter?]

theorem depthAfter?_end {l : Line} (h : l.isEnd = true) (depth : Nat) :
    l.statement.depthAfter? depth = if depth = 0 then none else some (depth - 1) := by
  rw [isEnd_iff.1 h, Statement.depthAfter?]

theorem depthAfter?_plain {l : Line} (ho : l.opened? = none) (he : l.isEnd = false) (depth : Nat) :
    l.statement.depthAfter? depth = some depth := by
  rw [Statement.depthAfter?.eq_def]
  split
  · next n hn => exact absurd (opened?_of_statement hn) (by simp [ho])
  · next hn => exact absurd (isEnd_iff.2 hn) (by simp [he])
  · rfl

/-- A balanced stretch in front only adds its lines to a block. -/
theorem Balanced.splitBlock?_append {s : List Line} (hs : Balanced s) (depth : Nat)
    (t : List Line) :
    splitBlock? depth (s ++ t) = (splitBlock? depth t).map fun p => (s ++ p.1, p.2) := by
  induction hs generalizing depth t with
  | nil => simp
  | plain ho he _ ih =>
    rw [List.cons_append, splitBlock?, depthAfter?_plain ho he]
    simp only [ih, Option.map_map, Function.comp_def, List.cons_append]
  | @group o c body ls ho hc _ _ ihb ih =>
    have hend : splitBlock? (depth + 1) (c :: (ls ++ t)) =
        (splitBlock? depth t).map fun p => (c :: (ls ++ p.1), p.2) := by
      rw [splitBlock?, depthAfter?_end hc, if_neg (by omega), Nat.add_sub_cancel]
      simp only [ih, Option.map_map, Function.comp_def]
    rw [List.cons_append, splitBlock?, depthAfter?_opener ho, List.append_assoc, List.cons_append]
    simp only [ihb, hend, Option.map_map, Function.comp_def, List.append_assoc, List.cons_append]

theorem Balanced.splitBlock?_end {s : List Line} (hs : Balanced s) {c : Line}
    (hc : c.isEnd = true) (t : List Line) :
    splitBlock? 0 (s ++ c :: t) = some (s ++ [c], t) := by
  rw [hs.splitBlock?_append, splitBlock?, depthAfter?_end hc, if_pos rfl]
  rfl

/-- Wherever a block ends, there is a first end that closes nothing before it. -/
theorem exists_balanced_of_splitBlock? {depth : Nat} {ls : List Line}
    (h : (splitBlock? depth ls).isSome) :
    ∃ s c t, ls = s ++ c :: t ∧ Balanced s ∧ c.isEnd = true := by
  -- the lines behind an inner group are fewer, but they are not a tail of `ls` by one line
  induction hn : ls.length using Nat.strongRecOn generalizing depth ls with
  | ind n ih =>
    cases ls with
    | nil => simp [splitBlock?] at h
    | cons l ls =>
      rw [List.length_cons] at hn
      by_cases he : l.isEnd = true
      · exact ⟨[], l, ls, rfl, .nil, he⟩
      · rw [Bool.not_eq_true] at he
        rw [splitBlock?] at h
        by_cases ho : l.opened?.isSome
        · rw [depthAfter?_opener ho, Option.isSome_map] at h
          obtain ⟨s, c, t, rfl, hs, hc⟩ := ih ls.length (by omega) h rfl
          -- behind the inner group the depth is what it was
          rw [hs.splitBlock?_append, Option.isSome_map, splitBlock?, depthAfter?_end hc,
            if_neg (by omega), Nat.add_sub_cancel, Option.isSome_map] at h
          have hlt : t.length < n := by
            rw [← hn, List.length_append, List.length_cons]
            omega
          obtain ⟨s', c', t', rfl, hs', hc'⟩ := ih t.length hlt h rfl
          refine ⟨l :: (s ++ c :: s'), c', t', ?_, .group ho hc hs hs', hc'⟩
          simp
        · have hp : l.opened? = none := by simpa using ho
          rw [depthAfter?_plain hp he, Option.isSome_map] at h
          obtain ⟨s, c, t, rfl, hs, hc⟩ := ih ls.length (by omega) h rfl
          exact ⟨l :: s, c, t, rfl, .plain hp he hs, hc⟩

theorem splitBlock?_eq_some_iff {ls b r : List Line} :
    splitBlock? 0 ls = some (b, r) ↔
      ∃ s c, b = s ++ [c] ∧ ls = s ++ c :: r ∧ Balanced s ∧ c.isEnd = true := by
  constructor
  · intro h
    have hsome : (splitBlock? 0 ls).isSome := by rw [h, Option.isSome_some]
    obtain ⟨s, c, t, rfl, hs, hc⟩ := exists_balanced_of_splitBlock? hsome
    have hend := hs.splitBlock?_end hc t
    rw [h] at hend
    obtain ⟨rfl, rfl⟩ := Prod.mk.inj (Option.some.inj hend)
    exact ⟨s, c, rfl, rfl, hs, hc⟩
  · rintro ⟨s, c, rfl, rfl, hs, hc⟩
    exact hs.splitBlock?_end hc r

end Depth

section Pair

/-- The line at `i` opens a group that the line at `e` ends. -/
structure Pair (ls : List Line) (i e : Nat) : Prop where
  lt : i < e
  opener : ∃ o, ls[i]? = some o ∧ o.opened?.isSome
  ending : ∃ c, ls[e]? = some c ∧ c.isEnd = true
  between : Balanced ((ls.take e).drop (i + 1))

/-- A pair in the lines before and after it. -/
theorem Pair.mk_append {o c : Line} {s : List Line} (ho : o.opened?.isSome) (hc : c.isEnd = true)
    (hs : Balanced s) (p r : List Line) :
    Pair (p ++ o :: (s ++ c :: r)) p.length (p.length + (s.length + 1)) where
  lt := by omega
  opener := ⟨o, by simp, ho⟩
  ending := by
    refine ⟨c, ?_, hc⟩
    rw [List.getElem?_append_right (by omega), Nat.add_sub_cancel_left, List.getElem?_cons_succ,
      List.getElem?_append_right (by omega), Nat.sub_self, List.getElem?_cons_zero]
  between := by
    have h : ((p ++ o :: (s ++ c :: r)).take (p.length + (s.length + 1))).drop (p.length + 1) =
        s := by
      rw [List.take_append, List.drop_append]
      simp
    rw [h]
    exact hs

theorem eq_take_append_cons {α : Type} {as : List α} {i : Nat} {a : α} (h : as[i]? = some a) :
    as = as.take i ++ a :: as.drop (i + 1) := by
  obtain ⟨hi, rfl⟩ := List.getElem?_eq_some_iff.1 h
  rw [← List.drop_eq_getElem_cons hi, List.take_append_drop]

theorem Pair.exists_append {ls : List Line} {i e : Nat} (h : Pair ls i e) :
    ∃ p o s c r, ls = p ++ o :: (s ++ c :: r) ∧ p.length = i ∧ e = i + (s.length + 1) ∧
      o.opened?.isSome ∧ Balanced s ∧ c.isEnd = true := by
  obtain ⟨o, ho, hos⟩ := h.opener
  obtain ⟨c, hc, hce⟩ := h.ending
  have hlt := h.lt
  have hlen : e < ls.length := (List.getElem?_eq_some_iff.1 hc).1
  have ho' : (ls.take e)[i]? = some o := by rw [List.getElem?_take_of_lt hlt, ho]
  refine ⟨ls.take i, o, (ls.take e).drop (i + 1), c, ls.drop (e + 1), ?_, ?_, ?_, hos, h.between,
    hce⟩
  · have hle := eq_take_append_cons ho'
    rw [List.take_take, Nat.min_eq_left (by omega)] at hle
    calc ls = ls.take e ++ c :: ls.drop (e + 1) := eq_take_append_cons hc
      _ = (ls.take i ++ o :: (ls.take e).drop (i + 1)) ++ c :: ls.drop (e + 1) := by rw [← hle]
      _ = _ := by rw [List.append_assoc, List.cons_append]
  · rw [List.length_take]
    omega
  · rw [List.length_drop, List.length_take]
    omega

theorem Pair.lt_length {ls : List Line} {i e : Nat} (h : Pair ls i e) : e < ls.length := by
  obtain ⟨c, hc, -⟩ := h.ending
  exact (List.getElem?_eq_some_iff.1 hc).1

/-- A pair stays one wherever its lines are put. -/
theorem Pair.append {ls : List Line} {i e : Nat} (h : Pair ls i e) (p r : List Line) :
    Pair (p ++ (ls ++ r)) (p.length + i) (p.length + e) := by
  obtain ⟨q, o, s, c, t, rfl, rfl, rfl, ho, hs, hc⟩ := h.exists_append
  have hp := Pair.mk_append ho hc hs (p ++ q) (t ++ r)
  rw [List.length_append, Nat.add_assoc] at hp
  have he : p ++ ((q ++ o :: (s ++ c :: t)) ++ r) = p ++ q ++ o :: (s ++ c :: (t ++ r)) := by simp
  rw [he]
  exact hp

/-- The block behind an opener is read up to the end that is paired with it. -/
theorem Pair.splitBlock? {ls : List Line} {i e : Nat} (h : Pair ls i e) :
    Line.splitBlock? 0 (ls.drop (i + 1)) =
      some ((ls.take (e + 1)).drop (i + 1), ls.drop (e + 1)) := by
  obtain ⟨p, o, s, c, r, rfl, rfl, rfl, -, hs, hc⟩ := h.exists_append
  have hd : (p ++ o :: (s ++ c :: r)).drop (p.length + 1) = s ++ c :: r := by
    rw [List.drop_length_add_append, List.drop_succ_cons, List.drop_zero]
  have hr : (p ++ o :: (s ++ c :: r)).drop (p.length + (s.length + 1) + 1) = r := by
    rw [Nat.add_assoc, List.drop_length_add_append, List.drop_succ_cons,
      List.drop_length_add_append, List.drop_succ_cons, List.drop_zero]
  have hb : ((p ++ o :: (s ++ c :: r)).take (p.length + (s.length + 1) + 1)).drop (p.length + 1) =
      s ++ [c] := by
    rw [Nat.add_assoc, List.take_length_add_append, List.drop_length_add_append,
      List.take_succ_cons, List.take_length_add_append, List.drop_succ_cons, List.drop_zero]
    rfl
  rw [hd, hr, hb]
  exact hs.splitBlock?_end hc r

theorem Pair.end_unique {ls : List Line} {i e f : Nat} (he : Pair ls i e) (hf : Pair ls i f) :
    e = f := by
  have h := he.splitBlock?.symm.trans hf.splitBlock?
  have hlen := congrArg List.length (Prod.mk.inj (Option.some.inj h)).2
  have := he.lt_length
  have := hf.lt_length
  rw [List.length_drop, List.length_drop] at hlen
  omega

/-- The end that closes the block behind an opener makes a pair with it. -/
theorem exists_pair_of_splitBlock? {ls b r : List Line} {i : Nat} {o : Line} (hi : ls[i]? = some o)
    (ho : o.opened?.isSome) (h : splitBlock? 0 (ls.drop (i + 1)) = some (b, r)) :
    ∃ e, Pair ls i e := by
  obtain ⟨s, c, -, hs, hbal, hc⟩ := splitBlock?_eq_some_iff.1 h
  have hlen : (ls.take i).length = i := by
    have hlt := (List.getElem?_eq_some_iff.1 hi).1
    rw [List.length_take]
    omega
  have hp := Pair.mk_append ho hc hbal (ls.take i) r
  rw [← hs, ← eq_take_append_cons hi, hlen] at hp
  exact ⟨_, hp⟩

theorem not_pair_of_opened? {ls : List Line} {i : Nat} {l : Line} (hi : ls[i]? = some l)
    (ho : l.opened? = none) (e : Nat) : ¬ Pair ls i e := by
  intro hp
  obtain ⟨o, hoi, hos⟩ := hp.opener
  have hlo : l = o := Option.some.inj (hi.symm.trans hoi)
  simp [← hlo, ho] at hos

theorem Balanced.exists_pair {s : List Line} (hs : Balanced s) {k : Nat} {o : Line}
    (hk : s[k]? = some o) (ho : o.opened?.isSome) : ∃ e, Pair s k e := by
  induction hs generalizing k with
  | nil => simp at hk
  | @plain l ls hl _ _ ih =>
    cases k with
    | zero =>
      rw [List.getElem?_cons_zero, Option.some.injEq] at hk
      rw [hk] at hl
      simp [hl] at ho
    | succ k =>
      obtain ⟨e, he⟩ := ih hk
      have hp := he.append [l] []
      rw [List.append_nil, List.singleton_append, List.length_singleton, Nat.add_comm 1] at hp
      exact ⟨_, hp⟩
  | @group o' c body ls ho' hc hb _ ihb ih =>
    cases k with
    | zero => exact ⟨_, Pair.mk_append ho' hc hb [] ls⟩
    | succ k =>
      rw [List.getElem?_cons_succ] at hk
      by_cases hlt : k < body.length
      · rw [List.getElem?_append_left hlt] at hk
        obtain ⟨e, he⟩ := ihb hk
        have hp := he.append [o'] (c :: ls)
        rw [List.singleton_append, List.length_singleton, Nat.add_comm 1] at hp
        exact ⟨_, hp⟩
      · rw [List.getElem?_append_right (by omega)] at hk
        obtain ⟨m, hm⟩ := Nat.exists_eq_add_of_le (Nat.le_of_not_lt hlt)
        rw [hm, Nat.add_sub_cancel_left] at hk
        cases m with
        | zero =>
          rw [List.getElem?_cons_zero, Option.some.injEq] at hk
          rw [hk] at hc
          simp [opened?_of_isEnd hc] at ho
        | succ m =>
          obtain ⟨e, he⟩ := ih hk
          have hp := he.append (o' :: (body ++ [c])) []
          have hlen : (o' :: (body ++ [c])).length + m = k + 1 := by
            rw [List.length_cons, List.length_append, List.length_singleton]
            omega
          rw [List.append_nil, hlen, List.cons_append, List.append_assoc,
            List.singleton_append] at hp
          exact ⟨_, hp⟩

/-- An opener between the lines of a pair has an end there. -/
theorem Pair.exists_inner {ls : List Line} {i e k : Nat} (h : Pair ls i e) (hi : i < k)
    (he : k ≤ e) {o : Line} (hk : ls[k]? = some o) (ho : o.opened?.isSome) :
    ∃ f, f < e ∧ Pair ls k f := by
  obtain ⟨p, o', s, c, r, rfl, rfl, rfl, ho', hs, hc⟩ := h.exists_append
  obtain ⟨m, rfl⟩ := Nat.exists_eq_add_of_lt hi
  have hm : (s ++ c :: r)[m]? = some o := by
    rw [List.getElem?_append_right (by omega), Nat.add_assoc, Nat.add_sub_cancel_left,
      List.getElem?_cons_succ] at hk
    exact hk
  by_cases hlt : m < s.length
  · rw [List.getElem?_append_left hlt] at hm
    obtain ⟨f, hf⟩ := hs.exists_pair hm ho
    have hlen := hf.lt_length
    have hp := hf.append (p ++ [o']) (c :: r)
    rw [List.append_assoc, List.singleton_append, List.length_append, List.length_singleton] at hp
    refine ⟨p.length + 1 + f, by omega, ?_⟩
    have hk' : p.length + m + 1 = p.length + 1 + m := by omega
    rw [hk']
    exact hp
  · -- the end itself opens nothing
    have hm' : m = s.length := by omega
    rw [hm', List.getElem?_append_right (by omega), Nat.sub_self, List.getElem?_cons_zero,
      Option.some.injEq] at hm
    rw [hm] at hc
    simp [opened?_of_isEnd hc] at ho

/-- Two pairs are nested or apart. -/
theorem Pair.nested {ls : List Line} {i e j f : Nat} (h : Pair ls i e) (h' : Pair ls j f)
    (hi : i < j) (hj : j ≤ e) : f < e := by
  obtain ⟨o, ho, hos⟩ := h'.opener
  obtain ⟨g, hg, hp⟩ := h.exists_inner hi hj ho hos
  exact h'.end_unique hp ▸ hg

end Pair

section Stack

/-- The positions of the openers that are still open, innermost first, and the pairs so far. -/
structure Matching where
  opened : List Nat
  pairs : List (Nat × Nat)

/-- What the line at `k` does: it is left open, or ends the innermost group that is open. An end
with no open group is passed over. -/
def Matching.step (m : Matching) (k : Nat) (l : Line) : Matching :=
  if l.opened?.isSome then ⟨k :: m.opened, m.pairs⟩
  else if l.isEnd then
    match m.opened with
    | [] => m
    | i :: opened => ⟨opened, m.pairs ++ [(i, k)]⟩
  else m

def Matching.run (m : Matching) (k : Nat) : List Line → Matching
  | [] => m
  | l :: ls => (m.step k l).run (k + 1) ls

def matchEnds (ls : List Line) : List (Nat × Nat) := (Matching.run ⟨[], []⟩ 0 ls).pairs

namespace Matching

theorem step_opener {l : Line} (h : l.opened?.isSome) (m : Matching) (k : Nat) :
    m.step k l = ⟨k :: m.opened, m.pairs⟩ := if_pos h

theorem step_plain {l : Line} (ho : l.opened? = none) (he : l.isEnd = false) (m : Matching)
    (k : Nat) : m.step k l = m := by
  simp [step, ho, he]

theorem step_end {l : Line} (h : l.isEnd = true) {i : Nat} {opened : List Nat}
    (ps : List (Nat × Nat)) (k : Nat) :
    step ⟨i :: opened, ps⟩ k l = ⟨opened, ps ++ [(i, k)]⟩ := by
  simp [step, opened?_of_isEnd h, h]

theorem step_stray_end {l : Line} (h : l.isEnd = true) (ps : List (Nat × Nat)) (k : Nat) :
    step ⟨[], ps⟩ k l = ⟨[], ps⟩ := by
  simp [step, opened?_of_isEnd h, h]

theorem run_append (m : Matching) (k : Nat) (s t : List Line) :
    m.run k (s ++ t) = (m.run k s).run (k + s.length) t := by
  induction s generalizing m k with
  | nil => rfl
  | cons l s ih =>
    rw [List.cons_append, run, ih, run, List.length_cons, Nat.add_right_comm, Nat.add_assoc]

theorem pairs_prefix_step (m : Matching) (k : Nat) (l : Line) : m.pairs <+: (m.step k l).pairs := by
  unfold step
  split
  · exact List.prefix_rfl
  · split
    · split
      · exact List.prefix_rfl
      · exact List.prefix_append _ _
    · exact List.prefix_rfl

theorem pairs_prefix_run (m : Matching) (k : Nat) (ls : List Line) :
    m.pairs <+: (m.run k ls).pairs := by
  induction ls generalizing m k with
  | nil => exact List.prefix_rfl
  | cons l ls ih => exact (m.pairs_prefix_step k l).trans (ih _ _)

/-- A balanced stretch leaves the same groups open. -/
theorem opened_run_of_balanced {s : List Line} (hs : Balanced s) (m : Matching) (k : Nat) :
    (m.run k s).opened = m.opened := by
  induction hs generalizing m k with
  | nil => rfl
  | plain ho he _ ih => rw [run, step_plain ho he, ih]
  | group ho hc _ _ ihb ih =>
    rw [run, step_opener ho, run_append, run]
    generalize hm : run ⟨k :: m.opened, m.pairs⟩ (k + 1) _ = m'
    have hopen : m'.opened = k :: m.opened := hm ▸ ihb _ _
    obtain ⟨opened, ps⟩ := m'
    dsimp only at hopen
    rw [hopen, step_end hc, ih]

theorem mem_pairs_run_of_pair {ls : List Line} {i e : Nat} (h : Pair ls i e) (m : Matching)
    (k : Nat) : (k + i, k + e) ∈ (m.run k ls).pairs := by
  obtain ⟨p, o, s, c, r, rfl, rfl, rfl, ho, hs, hc⟩ := h.exists_append
  rw [run_append, run, step_opener ho, run_append, run]
  apply (pairs_prefix_run _ _ _).mem
  generalize hm : run ⟨_ :: _, _⟩ _ s = m'
  have hopen : m'.opened = (k + p.length) :: (m.run k p).opened :=
    hm ▸ opened_run_of_balanced hs _ _
  obtain ⟨opened, ps⟩ := m'
  dsimp only at hopen
  rw [hopen, step_end hc]
  simp [Nat.add_assoc, Nat.add_comm 1]

/-- The groups open behind some lines: balanced stretches lie between their openers. -/
inductive Open : List Line → List Nat → Prop
  | nil (p : List Line) : Open p []
  | cons {p s : List Line} {o : Line} {opened : List Nat} (h : Open p opened)
      (ho : o.opened?.isSome) (hs : Balanced s) : Open (p ++ o :: s) (p.length :: opened)

theorem Open.append {p s : List Line} {opened : List Nat} (h : Open p opened) (hs : Balanced s) :
    Open (p ++ s) opened := by
  cases h with
  | nil => exact .nil _
  | cons h ho hs' =>
    rw [List.append_assoc, List.cons_append]
    exact .cons h ho (hs'.append hs)

structure Holds (p : List Line) (m : Matching) : Prop where
  opened : Open p m.opened
  pairs : ∀ x ∈ m.pairs, Pair p x.1 x.2
  sorted : m.pairs.Pairwise fun x y => x.2 < y.2

theorem pair_concat {p : List Line} {i e : Nat} (h : Pair p i e) (l : Line) :
    Pair (p ++ [l]) i e := by
  have hp := h.append [] [l]
  simpa using hp

theorem Holds.step {p : List Line} {m : Matching} (h : Holds p m) (l : Line) :
    Holds (p ++ [l]) (m.step p.length l) := by
  have hold : ∀ x ∈ m.pairs, Pair (p ++ [l]) x.1 x.2 := fun x hx => pair_concat (h.pairs x hx) l
  by_cases ho : l.opened?.isSome
  · rw [step_opener ho]
    exact ⟨.cons h.opened ho .nil, hold, h.sorted⟩
  · have hno : l.opened? = none := by simpa using ho
    cases he : l.isEnd with
    | false =>
      rw [step_plain hno he]
      exact ⟨h.opened.append (.plain hno he .nil), hold, h.sorted⟩
    | true =>
      obtain ⟨opened, ps⟩ := m
      obtain ⟨hopen, hpairs, hsorted⟩ := h
      cases hopen with
      | nil =>
        rw [step_stray_end he]
        exact ⟨.nil _, hold, hsorted⟩
      | @cons q s o opened hq ho' hs =>
        rw [step_end he]
        have hnew : Pair (q ++ o :: s ++ [l]) q.length (q ++ o :: s).length := by
          have hp := Pair.mk_append ho' he hs q []
          simpa using hp
        refine ⟨?_, ?_, ?_⟩
        · rw [List.append_assoc, List.cons_append]
          exact hq.append (.group ho' he hs .nil)
        · intro x hx
          rcases List.mem_append.1 hx with hx | hx
          · exact hold x hx
          · rw [List.mem_singleton.1 hx]
            exact hnew
        · -- every end so far stands before this line
          rw [List.pairwise_append]
          refine ⟨hsorted, List.pairwise_singleton _ _, ?_⟩
          intro x hx y hy
          rw [List.mem_singleton.1 hy]
          exact (hpairs x hx).lt_length

theorem Holds.run {p : List Line} {m : Matching} (h : Holds p m) (ls : List Line) :
    Holds (p ++ ls) (m.run p.length ls) := by
  induction ls generalizing p m with
  | nil => rwa [List.append_nil]
  | cons l ls ih =>
    have hl := ih (h.step l)
    rw [List.append_assoc, List.singleton_append, List.length_append, List.length_singleton] at hl
    exact hl

theorem holds_run (ls : List Line) : Holds ls (run ⟨[], []⟩ 0 ls) := by
  have h : Holds [] ⟨[], []⟩ := ⟨.nil _, by simp, .nil⟩
  exact h.run ls

end Matching

/-- The pass with a stack finds the pairs, and nothing else. -/
theorem mem_matchEnds {ls : List Line} {x : Nat × Nat} : x ∈ matchEnds ls ↔ Pair ls x.1 x.2 := by
  constructor
  · exact (Matching.holds_run ls).pairs x
  · intro h
    have hm := Matching.mem_pairs_run_of_pair h ⟨[], []⟩ 0
    rwa [Nat.zero_add, Nat.zero_add] at hm

/-- A stray end, a group in a group, and an opener that is never closed. -/
example : matchEnds (["end", "subgraph a", "subgraph b", "end", "end", "subgraph c"].map fun l =>
    ofText l.toList) = [(2, 3), (1, 4)] := by decide +kernel

theorem matchEnds_sorted (ls : List Line) : (matchEnds ls).Pairwise fun x y => x.2 < y.2 :=
  (Matching.holds_run ls).sorted

end Stack

end CaseChart.Line
