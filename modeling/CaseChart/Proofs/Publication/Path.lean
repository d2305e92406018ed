import CaseChart.Proofs.Publication.Payload
import CaseChart.Proofs.Text.Split
import CaseChart.Proofs.Text.Word

namespace CaseChart
open Text

namespace Moment

theorem isDigit_of_mem_padded {width n : Nat} {c : Char} (h : c ∈ padded width n) :
    c.isDigit = true := by
  rcases List.mem_append.1 h with h | h
  · rw [List.eq_of_mem_replicate h]
    rfl
  · exact Nat.isDigit_of_mem_toDigits (by decide) (by decide) h

theorem mem_slug {instant : Nat} {c : Char} (h : c ∈ slug instant) :
    c.isDigit = true ∨ c ∈ ['-', 'T', 'Z'] := by
  simp only [slug, List.mem_append, List.mem_cons, List.not_mem_nil, or_false] at h ⊢
  grind [isDigit_of_mem_padded]

theorem slash_not_mem_slug (instant : Nat) : '/' ∉ slug instant := by
  intro h
  rcases mem_slug h with h | h
  · exact absurd h (by decide)
  · exact absurd h (by decide)

end Moment

namespace Payload

theorem mem_joinWords_iff {c : Char} (hb : isBlank c = false) (hc : c ≠ '_') {t : Text} :
    c ∈ joinWords t ↔ c ∈ t := by
  have hne : ∀ {d}, isBlank d = true → c ≠ d := by
    rintro d hd rfl
    exact absurd hd (by rw [hb]; exact Bool.false_ne_true)
  fun_induction joinWords t with
  | case1 => exact Iff.rfl
  | case2 d t hd _ ih =>
    rw [List.mem_cons, or_iff_right (hne hd)]
    exact ih
  | case3 d t hd _ ih =>
    rw [List.mem_cons, List.mem_cons, or_iff_right hc, or_iff_right (hne hd)]
    exact ih
  | case4 d t _ ih =>
    rw [List.mem_cons, List.mem_cons]
    exact or_congr_right ih

theorem joinWords_append_cons {c : Char} (hc : isBlank c = false) (s t : Text) :
    joinWords (s ++ c :: t) = joinWords s ++ c :: joinWords t := by
  induction s with
  | nil => simp [joinWords, hc]
  | cons d s ih =>
    have hhead :
        ((s ++ c :: t).head?.map isBlank).getD false = (s.head?.map isBlank).getD false := by
      cases s with
      | nil => simpa using hc
      | cons e s => rfl
    rw [List.cons_append, joinWords, joinWords, hhead, ih]
    split
    · split <;> rfl
    · rfl

/-- No file name goes on behind a slash, and the slashes of a name stay. -/
theorem split_joinWords (t : Text) : split '/' (joinWords t) = (split '/' t).map joinWords :=
  split_map (fun s t => joinWords_append_cons (by decide) s t)
    (fun _ => mt (mem_joinWords_iff (by decide) (by decide)).1) t

/-- The name of the file in its directory, when `base` is what the chosen name has behind its
slashes. -/
def fileName (base : Text) (instant : Nat) : Text :=
  joinWords base ++ '_' :: Moment.slug instant ++ ".md".toList

theorem slash_mem_fileName_iff {base : Text} {instant : Nat} :
    '/' ∈ fileName base instant ↔ '/' ∈ base := by
  have hslug : '/' ∉ Moment.slug instant := Moment.slash_not_mem_slug instant
  have hend : '/' ∉ ".md".toList := by decide
  have hmark : '/' ≠ '_' := by decide
  simp only [fileName, List.mem_append, List.mem_cons, hslug, hend, hmark, or_false]
  exact mem_joinWords_iff (by decide) hmark

theorem pathFor_eq (name : Text) (instant : Nat) :
    pathFor name instant = "diagrams/".toList ++ fileName name instant := by
  show "diagrams/".toList ++ joinWords name ++ '_' :: Moment.slug instant ++ ".md".toList = _
  simp only [fileName, List.append_assoc]

theorem fileName_append_slash (folder base : Text) (instant : Nat) :
    fileName (folder ++ '/' :: base) instant =
      joinWords folder ++ '/' :: fileName base instant := by
  rw [fileName, joinWords_append_cons (by decide), fileName]
  simp

/-- The path of a file is `diagrams/` and something that ends in `.md`. That is a file name unless
the chosen name has a slash; then the file lies in the directories that the name spells before its
last slash. -/
theorem path_of_build (chart : Text) (name : Option Text) (now : Moment) (p : Payload)
    (h : build chart name now = .ok p) :
    ∃ n instant s, name = some n ∧ now.instant? = some instant ∧
      p.path = "diagrams/".toList ++ s ∧ s ≠ [] ∧ ".md".toList <:+ s ∧ ('/' ∉ s ↔ '/' ∉ n) ∧
      ∀ folder base, n = folder ++ '/' :: base → '/' ∉ base →
        split '/' p.path = "diagrams".toList :: ((split '/' (trimLeft folder)).map joinWords ++
          [fileName (trimRight base) instant]) := by
  obtain ⟨n, instant, rfl, -, hi, rfl⟩ := build_eq_ok_iff.1 h
  refine ⟨n, instant, fileName (trim n) instant, rfl, hi, ?_, ?_, List.suffix_append _ _, ?_, ?_⟩
  · exact pathFor_eq (trim n) instant
  · simp [fileName]
  · rw [slash_mem_fileName_iff, mem_trim_iff (by decide)]
  · rintro folder base rfl hbase
    have hfile : '/' ∉ fileName (trimRight base) instant := by
      rw [slash_mem_fileName_iff]
      exact fun hm => hbase ((List.rdropWhile_prefix isBlank base).sublist.mem hm)
    have hsplit : ∀ t, split '/' ("diagrams/".toList ++ t) = "diagrams".toList :: split '/' t :=
      fun t => split_append_sep "diagrams".toList t
    rw [pathFor_eq, hsplit, trim_append_cons (by decide), fileName_append_slash, split_append_sep,
      split_joinWords, split_of_not_mem hfile]

/-- A name that goes up a directory, told at a clock two hours ahead. -/
theorem path_of_build_folders :
    let name := " ../a  b/ c.txt ".toList
    let now : Moment := ⟨⟨2024, 5, 6⟩, 9, 8, 9, 123456, 7200000000⟩
    ∃ p, build [] (some name) now = .ok p ∧ split '/' p.path = ["diagrams".toList, "..".toList,
      "a_b".toList, "_c.txt_2024-05-06T07-08-09-123Z.md".toList] := by
  intro name now
  have hnow : now.instant? = some 63850576089123456 := by decide +kernel
  have hname : isBlankText name = false := by decide +kernel
  have h : build [] (some name) now = .ok _ := build_eq_ok_iff.2 ⟨name, _, rfl, hname, hnow, rfl⟩
  obtain ⟨n, instant, s, hn, hi, -, -, -, -, hparts⟩ := path_of_build [] (some name) now _ h
  obtain rfl := Option.some.inj hn
  obtain rfl := Option.some.inj (hnow.symm.trans hi)
  refine ⟨_, h, (hparts " ../a  b".toList " c.txt ".toList rfl (by decide)).trans ?_⟩
  decide +kernel

/-- Not every file lies in the directory for charts. -/
theorem path_leaves_directory :
    ¬ ∀ chart name now p, build chart name now = .ok p →
      ∃ s, p.path = "diagrams/".toList ++ s ∧ s ≠ [] ∧ '/' ∉ s ∧ ".md".toList <:+ s := by
  intro h
  let now : Moment := ⟨⟨2024, 5, 6⟩, 7, 8, 9, 123456, 0⟩
  have hnow : now.instant? = some 63850576089123456 := by decide +kernel
  have hname : isBlankText "../x".toList = false := by decide
  have hbuild : build [] (some "../x".toList) now = .ok _ :=
    build_eq_ok_iff.2 ⟨_, _, rfl, hname, hnow, rfl⟩
  obtain ⟨s, hs, -, hslash, -⟩ := h _ _ _ _ hbuild
  have hfile : s = fileName (trim "../x".toList) 63850576089123456 :=
    (List.append_cancel_left ((pathFor_eq _ _).symm.trans hs)).symm
  rw [hfile, slash_mem_fileName_iff, mem_trim_iff (by decide)] at hslash
  exact hslash (by decide)

end Payload
end CaseChart
