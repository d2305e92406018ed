import CaseChart.Decimal.Layout
import CaseChart.Proofs.Text.Lines
import Mathlib.Algebra.Order.Group.Int
import Mathlib.Algebra.Ring.Nat

namespace CaseChart.Decimal

open Text

theorem isBreak_of_isDigit {c : Char} (h : c.isDigit = true) : isBreak c = false := by
  have hrange : 48 ≤ c.toNat ∧ c.toNat ≤ 57 := Char.isDigit_iff_toNat.1 h
  simp only [isBreak, Bool.or_eq_false_iff, Bool.and_eq_false_iff, decide_eq_false_iff_not,
    beq_eq_false_iff_ne]
  omega

theorem unbroken_toDigits (n : Nat) : Unbroken (Nat.toDigits 10 n) :=
  fun _ hc => isBreak_of_isDigit (Nat.isDigit_of_mem_toDigits (by decide) (by decide) hc)

theorem unbroken_dropZeros {ds : List Char} (h : Unbroken ds) : Unbroken (dropZeros ds) := by
  have hkept : Unbroken (ds.reverse.dropWhile (· == '0')).reverse := by
    intro c hc
    exact h c (List.mem_reverse.1 ((List.dropWhile_sublist _).mem (List.mem_reverse.1 hc)))
  rw [dropZeros]
  split
  · decide
  · exact hkept

theorem unbroken_exponentText (e : Int) : Unbroken (exponentText e) := by
  have hsign : isBreak (if e < 0 then '-' else '+') = false := by split <;> decide
  have hzeros (n : Nat) : Unbroken (List.replicate n '0') := unbroken_replicate (by decide) n
  rw [exponentText, unbroken_cons, unbroken_cons, unbroken_append]
  exact ⟨by decide, hsign, hzeros _, unbroken_toDigits _⟩

theorem unbroken_place (l : Layout) {ds : List Char} (h : Unbroken ds) (point : Int) :
    Unbroken (l.place ds point) := by
  have hzeros (n : Nat) : Unbroken (List.replicate n '0') := unbroken_replicate (by decide) n
  have htake (n : Nat) : Unbroken (ds.take n) := h.of_start (List.take_prefix n ds)
  have hdrop (n : Nat) : Unbroken (ds.drop n) := h.of_suffix (List.drop_suffix n ds)
  have hpoint : isBreak '.' = false := by decide
  rw [Layout.place]
  split
  · split
    · exact unbroken_cons.2 ⟨by decide, unbroken_cons.2 ⟨hpoint, unbroken_append.2 ⟨hzeros _, h⟩⟩⟩
    · split
      · refine unbroken_append.2 ⟨unbroken_append.2 ⟨h, hzeros _⟩, ?_⟩
        split
        · decide
        · exact unbroken_nil
      · exact unbroken_append.2 ⟨htake _, unbroken_cons.2 ⟨hpoint, hdrop _⟩⟩
  · refine unbroken_append.2 ⟨unbroken_append.2 ⟨htake 1, ?_⟩, unbroken_exponentText _⟩
    split
    · exact unbroken_nil
    · exact unbroken_cons.2 ⟨hpoint, hdrop 1⟩

theorem unbroken_render (l : Layout) (negative : Bool) (s : Scientific) :
    Unbroken (l.render negative s).toList := by
  rw [Layout.render, String.toList_ofList]
  have hnumber := unbroken_place l (unbroken_dropZeros (unbroken_toDigits s.digits))
    ((Nat.toDigits 10 s.digits).length + s.exponent)
  split
  · exact unbroken_cons.2 ⟨by decide, hnumber⟩
  · exact hnumber

theorem unbroken_of_special {x : Float} {s : String} (h : special? x = some s) :
    Unbroken s.toList := by
  rw [special?] at h
  split at h
  · cases h
    decide
  · split at h
    · cases h
      split <;> decide
    · cases h

theorem unbroken_text (x : Float) : Unbroken (text x).toList := by
  rw [text]
  cases h : special? x with
  | some s => exact unbroken_of_special h
  | none => exact unbroken_render _ _ _

theorem integerText_of_lt {n : Int} (h : n.natAbs < 10 ^ integerDigits) :
    integerText n = .ok (toString n) := by
  refine if_neg (Nat.not_lt.2 ?_)
  exact (Nat.length_toDigits_le_iff (by decide) (by decide)).2 h

theorem integerText_of_le {n : Int} (h : 10 ^ integerDigits ≤ n.natAbs) :
    integerText n = .error .tooLong := by
  refine if_pos (Nat.not_le.1 fun hle => ?_)
  exact Nat.not_lt.2 h ((Nat.length_toDigits_le_iff (by decide) (by decide)).1 hle)

theorem unbroken_repr (n : Nat) : Unbroken n.repr.toList := by
  rw [Nat.toList_repr]
  exact unbroken_toDigits n

theorem unbroken_intRepr (n : Int) : Unbroken n.repr.toList := by
  cases n with
  | ofNat m => exact unbroken_repr m
  | negSucc m =>
    rw [Int.repr, String.toList_append, unbroken_append]
    exact ⟨by decide, unbroken_repr (m + 1)⟩

end CaseChart.Decimal
