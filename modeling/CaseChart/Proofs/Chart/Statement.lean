import CaseChart.Chart.Line
import CaseChart.Proofs.Chart.Header

namespace CaseChart
open Text

namespace Statement

theorem isWord_of_matchesLetter {k c : Char} (hk : k.isLower = true)
    (h : matchesLetter k c = true) : isWord c = true := by
  rcases Bool.or_eq_true _ _ ▸ h with h | h
  · exact isWord_of_sameLetter hk h
  · obtain rfl := beq_iff_eq.1 ((Bool.and_eq_true _ _ ▸ h).2)
    decide +kernel

theorem isWord_of_forall₂_matchesLetter {keyword w : Text} (hk : ∀ k ∈ keyword, k.isLower = true)
    (h : List.Forall₂ (fun a c => matchesLetter a c = true) keyword w) :
    ∀ c ∈ w, isWord c = true := by
  induction h with
  | nil => simp
  | @cons a c keyword w hac _ ih =>
    intro d hd
    rcases List.mem_cons.1 hd with rfl | hd
    · exact isWord_of_matchesLetter (hk a List.mem_cons_self) hac
    · exact ih (fun k hk' => hk k (List.mem_cons_of_mem a hk')) d hd

/-- No keyword of a statement starts like one of a declaration. -/
theorem toLower_of_matchesLetter {k c : Char} (h : matchesLetter k c = true) :
    c.toLower = k ∨ c.toLower = 'ſ' := by
  rcases Bool.or_eq_true _ _ ▸ h with h | h
  · exact .inl (beq_iff_eq.1 h)
  · obtain rfl := beq_iff_eq.1 ((Bool.and_eq_true _ _ ▸ h).2)
    exact .inr (by decide)

theorem exists_head_of_nameAfter? {k : Char} {keyword s n : Text}
    (h : nameAfter? (k :: keyword) s = some n) : ∃ c r, s = c :: r ∧ matchesLetter k c = true := by
  rw [nameAfter?] at h
  obtain ⟨t, ht, -⟩ := Option.bind_eq_some_iff.1 h
  obtain ⟨w, rfl, hw⟩ := dropWord?_eq_some_iff.1 ht
  obtain ⟨c, w', hc, -, rfl⟩ := List.forall₂_cons_left_iff.1 hw
  exact ⟨c, w' ++ t, rfl, hc⟩

theorem nameAfter?_of_ofText_eq_openGroup {s n : Text} (h : ofText s = openGroup n) :
    nameAfter? "subgraph".toList s = some n := by
  rw [ofText] at h
  split at h
  · next m hm => rw [hm, openGroup.inj h]
  · split_ifs at h

theorem nameAfter?_of_ofText_eq_style {s : Text} (h : ofText s = style) :
    ∃ n, nameAfter? "classdef".toList s = some n := by
  rw [ofText] at h
  split at h
  · exact absurd h (by simp)
  · split_ifs at h with _ hs
    exact Option.isSome_iff_exists.1 hs

/-- A statement behind a keyword, once trimmed, is read as itself. -/
theorem strip_trim_of_nameAfter? {k : Char} {keyword s n : Text} (hk : k.isLower = true)
    (hg : k ≠ 'g') (hf : k ≠ 'f') (h : nameAfter? (k :: keyword) s = some n)
    (hs : trimRight s = s) : trim s = s ∧ Header.strip s = s := by
  obtain ⟨c, r, rfl, hc⟩ := exists_head_of_nameAfter? h
  -- a long s stands for an s in a keyword, and is no letter of a declaration either
  have hb : isBlank c = false := isBlank_eq_false_of_isWord (isWord_of_matchesLetter hk hc)
  refine ⟨trim_eq_self hb hs, Header.strip_of_read?_eq_none ?_⟩
  rcases toLower_of_matchesLetter hc with he | he
  · exact Header.read?_eq_none_of_head (he ▸ hg) (he ▸ hf)
  · exact Header.read?_eq_none_of_head (by rw [he]; decide) (by rw [he]; decide)

theorem strip_trim_of_openGroup {s n : Text} (h : ofText s = openGroup n) (hs : trimRight s = s) :
    trim s = s ∧ Header.strip s = s :=
  strip_trim_of_nameAfter? (by decide) (by decide) (by decide)
    (nameAfter?_of_ofText_eq_openGroup h) hs

theorem strip_trim_of_style {s : Text} (h : ofText s = style) (hs : trimRight s = s) :
    trim s = s ∧ Header.strip s = s := by
  obtain ⟨n, hn⟩ := nameAfter?_of_ofText_eq_style h
  exact strip_trim_of_nameAfter? (by decide) (by decide) (by decide) hn hs

theorem hasMarker_cons {t : Text} (h : hasMarker t = true) (c : Char) :
    hasMarker (c :: t) = true := by
  rw [hasMarker.eq_def]
  split
  · next d t' he =>
    rw [(List.cons.inj he).2] at h
    rw [h, Bool.or_true]
  · next he =>
    rw [← (List.cons.inj he).2]
    exact h
  · next he => exact absurd he (by simp)

theorem hasMarker_append {m : Text} (h : hasMarker m = true) (t : Text) :
    hasMarker (t ++ m) = true := by
  induction t with
  | nil => exact h
  | cons c t ih => exact hasMarker_cons ih c

end Statement

namespace Line

theorem content_ofText (l : Text) : (ofText l).content = Header.strip (trim l) := rfl

theorem statement_ofText (l : Text) :
    (ofText l).statement = Statement.ofText (Header.strip (trim l)) := rfl

theorem source_ofText (l : Text) : (ofText l).source = l := rfl

theorem unbroken_content {s : Text} (h : Unbroken s) : Unbroken (ofText s).content := by
  have ht : Unbroken (trimLeft s) := h.of_suffix (List.dropWhile_suffix isBlank)
  exact (ht.of_start (List.rdropWhile_prefix isBlank _)).of_suffix (Header.strip_suffix _)

theorem content_ofText_congr {l m : Text} (h : trim l = trim m) :
    (ofText l).content = (ofText m).content := by
  rw [content_ofText, content_ofText, h]

theorem statement_ofText_congr {l m : Text} (h : trim l = trim m) :
    (ofText l).statement = (ofText m).statement := by
  rw [statement_ofText, statement_ofText, h]

theorem statement_ofText_nil : (ofText []).statement = .other := by decide

theorem statement_ofText_header {h : Header} (hp : h.Proper) :
    (ofText h.line).statement = .other := by
  rw [statement_ofText, Header.trim_line hp, Header.strip_line hp]
  decide

/-- A text that, as a line with any margin, is a statement with itself as its content. -/
structure Stands (s : Statement) (r : Text) : Prop where
  unbroken : Unbroken r
  strip_trim : Header.strip (trim r) = r
  statement : Statement.ofText r = s

theorem Stands.ofText_append {s : Statement} {r : Text} (h : Stands s r) {p : Text}
    (hp : isBlankText p = true) : ofText (p ++ r) = ⟨p ++ r, r, s⟩ := by
  rw [ofText, trim_append_of_isBlankText hp, h.strip_trim, h.statement]

end Line
end CaseChart
