import CaseChart.Chart.Facts
import CaseChart.Proofs.Chart.Lexeme
import CaseChart.Proofs.Text.Case
import CaseChart.Proofs.Text.Runs
import Mathlib.Algebra.Ring.Nat
import Mathlib.Data.List.Infix

namespace CaseChart.Facts
open Text

def isTagged (x : Place) : Bool := [':', ':', ':'].isSuffixOf x.before

def isNamed (t : Text) : Bool := t.head?.any isBlank && (t.dropWhile isBlank).head?.any isWord

theorem isNamed_iff {t : Text} : isNamed t = true ↔
    ∃ gap c r, t = gap ++ c :: r ∧ gap ≠ [] ∧ isBlankText gap = true ∧ isWord c = true := by
  rw [isNamed, Bool.and_eq_true, any_isWord_dropWhile_iff]
  constructor
  · rintro ⟨hb, gap, c, r, rfl, hgap, hc⟩
    refine ⟨gap, c, r, rfl, ?_, hgap, hc⟩
    rintro rfl
    simp [isBlank_eq_false_of_isWord hc] at hb
  · rintro ⟨gap, c, r, rfl, hne, hgap, hc⟩
    obtain ⟨g, gs, rfl⟩ := List.exists_cons_of_ne_nil hne
    exact ⟨List.all_eq_true.1 hgap g List.mem_cons_self, _, c, r, rfl, hgap, hc⟩

/-- The relationship markers in `n` hyphens with `t` after them. -/
def markersIn (n : Nat) (t : Text) : Nat :=
  n / 3 + if n % 3 = 2 ∧ (t.head? = some '>' ∨ t.head? = some '|') then 1 else 0

def isHyphen (c : Char) : Bool := c == '-'

def markersAt (t : Text) : Nat :=
  markersIn (t.takeWhile isHyphen).length (t.dropWhile isHyphen)

def markersOf (t : Text) : Nat := ((runs isHyphen t).map fun x => markersAt x.after).sum

def isInside (c : Char) : Bool := c != '[' && c != ']'

theorem isInside_iff {c : Char} : isInside c = true ↔ c ≠ '[' ∧ c ≠ ']' := by simp [isInside]

/-- A bracket is closed before another one opens, and something visible is `seen` or inside. -/
def labelEnds (seen : Bool) (t : Text) : Bool :=
  (t.dropWhile isInside).head? == some ']' && (seen || !isBlankText (t.takeWhile isInside))

theorem labelEnds_iff {seen : Bool} {t : Text} : labelEnds seen t = true ↔
    ∃ v r, t = v ++ ']' :: r ∧ (∀ c ∈ v, isInside c = true) ∧ (seen || !isBlankText v) = true := by
  constructor
  · intro h
    obtain ⟨hclose, hseen⟩ := (Bool.and_eq_true _ _).mp h
    obtain ⟨r, hr⟩ := List.head?_eq_some_iff.1 (beq_iff_eq.1 hclose)
    refine ⟨t.takeWhile isInside, r, ?_, fun c hc => List.mem_takeWhile_imp hc, hseen⟩
    rw [← hr, List.takeWhile_append_dropWhile]
  · rintro ⟨v, r, rfl, hv, hseen⟩
    have hr : ∀ c ∈ (']' :: r).head?, isInside c = false := by
      rintro c ⟨⟩
      decide
    rw [labelEnds, takeWhile_append_of_head hv hr, dropWhile_append_of_head hv hr, hseen]
    rfl

/-- A closed label that is not blank comes first. -/
def isLabel : Text → Bool
  | '[' :: t => labelEnds false t
  | _ => false

theorem isLabel_iff {t : Text} : isLabel t = true ↔
    ∃ inside r, t = '[' :: (inside ++ ']' :: r) ∧ (∀ c ∈ inside, c ≠ '[' ∧ c ≠ ']') ∧
      isBlankText inside = false := by
  simp only [← isInside_iff]
  constructor
  · intro h
    rw [isLabel.eq_def] at h
    split at h
    · obtain ⟨v, r, rfl, hv, hb⟩ := labelEnds_iff.1 h
      exact ⟨v, r, rfl, hv, by simpa using hb⟩
    · exact absurd h (by simp)
  · rintro ⟨v, r, rfl, hv, hb⟩
    exact labelEnds_iff.2 ⟨v, r, rfl, hv, by simpa using hb⟩

/-- An identifier that is no tag, reads `keyword` in small letters and has a name after it. -/
def declares (keyword : Text) (x : Place) : Bool :=
  !isTagged x && lower (x.run isWord) == keyword && isNamed (x.rest isWord)

def observed (t : Text) : Facts where
  tags := ((runs isWord t).filter isTagged).map (Place.run isWord)
  markers := markersOf t
  opens := t.count '['
  closes := t.count ']'
  labels := t.tails.countP isLabel
  groups := (runs isWord t).countP (declares "subgraph".toList)
  styles := (runs isWord t).countP (declares "classdef".toList)

end CaseChart.Facts
