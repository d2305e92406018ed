import CaseChart.Journal.Line
import CaseChart.Proofs.Decimal.Layout

namespace CaseChart.Item

open Text

/-- A separator of lines that is not escaped: neither a line feed nor a carriage return. -/
def IsLoose (c : Char) : Prop := isBreak c = true ∧ c ≠ '\n' ∧ c ≠ '\r'

instance (c : Char) : Decidable (IsLoose c) := inferInstanceAs (Decidable (_ ∧ _ ∧ _))

def lengthNote (n : Nat) : Text := "... (".toList ++ (Nat.toDigits 10 n ++ " chars)".toList)

theorem unbroken_lengthNote (n : Nat) : Unbroken (lengthNote n) := by
  rw [lengthNote, unbroken_append, unbroken_append]
  exact ⟨by decide, Decimal.unbroken_toDigits n, by decide⟩

theorem toList_count (n : Nat) (unit : String) :
    (toString n ++ unit).toList = Nat.toDigits 10 n ++ unit.toList := by
  rw [String.toList_append]
  exact congrArg (· ++ unit.toList) Nat.toList_repr

theorem unbroken_count (n : Nat) {unit : String} (h : Unbroken unit.toList) :
    Unbroken (toString n ++ unit).toList := by
  rw [toList_count, unbroken_append]
  exact ⟨Decimal.unbroken_toDigits n, h⟩

theorem mem_escapeBreak {c d : Char} (h : c ∈ escapeBreak d) (hc : isBreak c = true) :
    c = d ∧ IsLoose c := by
  rw [escapeBreak] at h
  split at h
  · have hescaped : Unbroken ['\\', 'r'] := by decide
    exact absurd h (hescaped.not_mem hc)
  · next hreturn =>
    split at h
    · have hescaped : Unbroken ['\\', 'n'] := by decide
      exact absurd h (hescaped.not_mem hc)
    · next hfeed =>
      obtain rfl := List.mem_singleton.1 h
      exact ⟨rfl, hc, hfeed, hreturn⟩

/-- An integer that is not written: it has more digits than may be. -/
def TooLong : Item → Prop
  | .data (.int n) => 10 ^ Decimal.integerDigits ≤ n.natAbs
  | _ => False

theorem text_of_tooLong {item : Item} (h : item.TooLong) : item.text = .error .tooLong := by
  unfold TooLong at h
  split at h
  · rw [text, Value.written, Decimal.integerText_of_le h]
    · rfl
    · nofun
    · nofun
    · nofun
  · exact h.elim

theorem exists_text {item : Item} (h : ¬item.TooLong) : ∃ t, item.text = .ok t := by
  cases item with
  | category k => exact ⟨_, rfl⟩
  | data v =>
    cases v with
    | int n => exact ⟨_, congrArg (Except.map String.toList)
        (Decimal.integerText_of_lt (Nat.not_le.1 h))⟩
    | _ => exact ⟨_, rfl⟩

/-- The separators in the text of an item are those of a text that is logged, but for line feeds
and carriage returns. -/
theorem exists_of_isBreak {item : Item} {t : Text} (ht : item.text = .ok t) {c : Char} (h : c ∈ t)
    (hc : isBreak c = true) : ∃ s, item = .data (.text s) ∧ c ∈ s.toList ∧ IsLoose c := by
  have hnone {u : Text} (hu : Unbroken u) (htext : item.text = .ok u) : False := by
    obtain rfl : t = u := Except.ok.inj (ht.symm.trans htext)
    exact hu.not_mem hc h
  cases item with
  | category k => exact (hnone (by cases k <;> decide) rfl).elim
  | data v =>
    cases v with
    | null => exact (hnone (u := "None".toList) (by decide) rfl).elim
    | bool b =>
      exact (hnone (u := (if b then "True" else "False").toList) (by cases b <;> decide) rfl).elim
    | int n =>
      by_cases hlong : (Item.data (.int n)).TooLong
      · rw [text_of_tooLong hlong] at ht
        cases ht
      · refine (hnone (Decimal.unbroken_intRepr n) ?_).elim
        exact congrArg (Except.map String.toList) (Decimal.integerText_of_lt (Nat.not_le.1 hlong))
    | real x => exact (hnone (Decimal.unbroken_text x) rfl).elim
    | text s =>
      cases ht
      obtain ⟨d, hd, hcd⟩ := List.mem_flatMap.1 h
      obtain ⟨rfl, hloose⟩ := mem_escapeBreak hcd hc
      exact ⟨s, rfl, hd, hloose⟩
    | list vs => exact (hnone (unbroken_count vs.length (by decide)) rfl).elim
    | record fs => exact (hnone (unbroken_count fs.length (by decide)) rfl).elim

theorem line_null (bound : Int) : (Item.data .null).line bound = .ok "None".toList := rfl

theorem line_eq_bounded {item : Item} (h : item ≠ .data .null) (bound : Int) :
    item.line bound = item.text.map (bounded bound) := by
  cases item with
  | category k => rfl
  | data v =>
    cases v with
    | null => exact absurd rfl h
    | _ => rfl

theorem bounded_of_le {bound : Int} {t : Text} (h : t.length ≤ bound) : bounded bound t = t :=
  if_neg (Int.not_lt.2 h)

theorem bounded_of_lt {bound : Int} (hbound : 0 ≤ bound) {t : Text} (h : bound < t.length) :
    bounded bound t = t.take bound.toNat ++ lengthNote t.length := by
  have hnote : s!"... ({t.length} chars)".toList = lengthNote t.length := by
    show ("... (" ++ toString t.length ++ " chars)").toList = _
    rw [String.append_assoc, String.toList_append, toList_count, lengthNote]
  rw [bounded, if_pos h, cut, if_pos hbound, hnote]

theorem line_of_tooLong {item : Item} (h : item.TooLong) (bound : Int) :
    item.line bound = .error .tooLong := by
  have hnull : item ≠ .data .null := by
    rintro rfl
    exact h
  rw [line_eq_bounded hnull, text_of_tooLong h]
  rfl

section
variable {bound : Int} (hbound : 0 ≤ bound) {item : Item} {t : Text} (ht : item.text = .ok t)
include hbound ht

/-- A line is the whole text of its item, or the start of it with a note of its length; but the
missing value is written in full however small the bound. -/
theorem exists_line : ∃ l, item.line bound = .ok l ∧
    (t.length ≤ bound ∧ l = t ∨
      bound < t.length ∧ item ≠ .data .null ∧ l = t.take bound.toNat ++ lengthNote t.length ∨
      bound < t.length ∧ item = .data .null ∧ l = t) := by
  by_cases hnull : item = .data .null
  · rw [hnull] at ht ⊢
    refine ⟨t, (line_null bound).trans ht, ?_⟩
    rcases Int.lt_or_le bound t.length with hlt | hle
    · exact .inr (.inr ⟨hlt, rfl, rfl⟩)
    · exact .inl ⟨hle, rfl⟩
  · refine ⟨bounded bound t, by rw [line_eq_bounded hnull, ht]; rfl, ?_⟩
    rcases Int.lt_or_le bound t.length with hlt | hle
    · exact .inr (.inl ⟨hlt, hnull, bounded_of_lt hbound hlt⟩)
    · exact .inl ⟨hle, bounded_of_le hle⟩

variable {l : Text} (hl : item.line bound = .ok l)
include hl

theorem line_cases : t.length ≤ bound ∧ l = t ∨
    bound < t.length ∧ item ≠ .data .null ∧ l = t.take bound.toNat ++ lengthNote t.length ∨
      bound < t.length ∧ item = .data .null ∧ l = t := by
  obtain ⟨l', hl', hcases⟩ := exists_line hbound ht
  obtain rfl : l = l' := Except.ok.inj (hl.symm.trans hl')
  exact hcases

/-- Whatever breaks a line stands in the text of its item. -/
theorem mem_text_of_isBreak {c : Char} (h : c ∈ l) (hc : isBreak c = true) : c ∈ t := by
  rcases line_cases hbound ht hl with ⟨-, heq⟩ | ⟨-, -, heq⟩ | ⟨-, -, heq⟩
  · exact heq ▸ h
  · rw [heq, List.mem_append] at h
    rcases h with h | h
    · exact List.mem_of_mem_take h
    · exact absurd h ((unbroken_lengthNote _).not_mem hc)
  · exact heq ▸ h

omit hbound hl in
theorem unbroken_take_iff (n : Nat) :
    Unbroken (t.take n) ↔ ∀ c ∈ t.take n, ¬IsLoose c := by
  constructor
  · intro h c hc hloose
    exact h.not_mem hloose.1 hc
  · intro h c hc
    by_contra hbreak
    obtain ⟨-, -, -, hloose⟩ :=
      exists_of_isBreak ht (List.mem_of_mem_take hc) (Bool.not_eq_false _ ▸ hbreak)
    exact h c hc hloose

/-- A line is broken exactly if a loose separator stands in the part of the text that is kept. -/
theorem unbroken_line_iff : Unbroken l ↔ ∀ c ∈ t.take bound.toNat, ¬IsLoose c := by
  rw [← unbroken_take_iff ht]
  rcases line_cases hbound ht hl with ⟨hle, heq⟩ | ⟨-, -, heq⟩ | ⟨-, hnull, heq⟩
  · rw [heq, List.take_of_length_le (by omega)]
  · rw [heq, unbroken_append, and_iff_left (unbroken_lengthNote _)]
  · have hnone : Unbroken t := by
      rw [hnull] at ht
      cases ht
      decide
    rw [heq]
    exact iff_of_true hnone (hnone.of_start (List.take_prefix _ _))

end

/-- Every value but an integer with too many digits makes a line, and such an integer makes none.
The line is one line unless a text brings a loose separator into the part that is kept. It is the
whole text of the value within the bound, or as many characters of it as the bound allows and the
full length; the missing value keeps to this only if its four letters are within the bound. -/
theorem line_of_nonneg {bound : Int} (hbound : 0 ≤ bound) (item : Item) :
    (item.TooLong → item.line bound = .error .tooLong) ∧
      (¬item.TooLong → ∃ t l, item.text = .ok t ∧ item.line bound = .ok l ∧
        (Unbroken l ↔ ∀ c ∈ t.take bound.toNat, ¬IsLoose c) ∧
        ((∀ c ∈ t.take bound.toNat, ¬IsLoose c) → (lines l).length ≤ 1) ∧
        (∀ c ∈ l, isBreak c = true → ∃ s, item = .data (.text s) ∧ c ∈ s.toList ∧ IsLoose c) ∧
        (item ≠ .data .null ∨ 4 ≤ bound →
          t.length ≤ bound ∧ l = t ∨
            bound < t.length ∧ l = t.take bound.toNat ++ lengthNote t.length) ∧
        (item = .data .null → l = "None".toList)) := by
  refine ⟨fun hlong => line_of_tooLong hlong bound, fun hshort => ?_⟩
  obtain ⟨t, ht⟩ := exists_text hshort
  obtain ⟨l, hl, hcases⟩ := exists_line hbound ht
  have hunbroken := unbroken_line_iff hbound ht hl
  refine ⟨t, l, ht, hl, hunbroken, ?_, ?_, ?_, ?_⟩
  · intro h
    exact length_lines_le_one (hunbroken.2 h)
  · intro c hc hbreak
    exact exists_of_isBreak ht (mem_text_of_isBreak hbound ht hl hc hbreak) hbreak
  · intro h
    rcases hcases with hwhole | ⟨hlt, -, heq⟩ | ⟨hlt, rfl, -⟩
    · exact .inl hwhole
    · exact .inr ⟨hlt, heq⟩
    · have hfour : 4 ≤ bound := h.resolve_left fun hnull => hnull rfl
      cases ht
      exact absurd (show bound < 4 from hlt) (Int.not_lt.2 hfour)
  · rintro rfl
    exact (Except.ok.inj hl).symm

/-- A text that is cut off between a line feed and another separator. -/
theorem line_of_nonneg_cut :
    let item : Item := .data (.text "a\nb\u2028c")
    (0 : Int) ≤ 3 ∧ ¬item.TooLong ∧ ∃ l, item.line 3 = .ok l ∧ (lines l).length ≤ 1 ∧
      l = "a\\n".toList ++ lengthNote 6 ∧ lengthNote 6 = "... (6 chars)".toList := by
  intro item
  have hbound : (0 : Int) ≤ 3 := by decide
  have hne : item ≠ .data .null := by simp [item]
  obtain ⟨t, l, ht, hl, -, hone, -, hcut, -⟩ := (line_of_nonneg hbound item).2 id
  cases ht
  refine ⟨hbound, id, l, hl, hone (by decide), ?_, by decide⟩
  rcases hcut (.inl hne) with ⟨hle, -⟩ | ⟨-, heq⟩
  · exact absurd hle (by decide)
  · exact heq

/-- A separator that is not escaped makes two lines of a short text, the missing value does not keep
to a bound, and an integer with too many digits is not written at all. -/
theorem line_not_bounded :
    (∃ l, (Item.data (.text "a\u2028b")).line 200 = .ok l ∧ lines l = [['a'], ['b']]) ∧
      ((Item.data .null).line 0 = .ok "None".toList ∧ (0 : Int) < "None".toList.length ∧
        "None".toList ≠ lengthNote 4) ∧
      (Item.data (.int (10 ^ Decimal.integerDigits))).line 200 = .error .tooLong := by
  have hpow (k : Nat) : 10 ^ k ≤ ((10 : Int) ^ k).natAbs := (Int.natAbs_pow 10 k).ge
  have hlong : (Item.data (.int (10 ^ Decimal.integerDigits))).TooLong := hpow Decimal.integerDigits
  exact ⟨⟨_, rfl, by decide⟩, ⟨rfl, by decide, by decide⟩, line_of_tooLong hlong 200⟩

end CaseChart.Item
