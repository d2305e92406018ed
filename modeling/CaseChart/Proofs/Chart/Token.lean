import CaseChart.Proofs.Chart.Spacing

namespace CaseChart.Header
open Text

/-- A keyword, tabs or blanks and a direction come first, and `r` after them. -/
def Opens (t r : Text) : Prop := ∃ h gap, h.Proper ∧ IsGap gap ∧ t = written h gap ++ r

def EndsWord (r : Text) : Prop := ∀ c ∈ r.head?, isWord c = false

/-- An identifier character that does not keep a declaration in front of it from ending: it is
beyond ASCII, and no other case of a letter of ASCII. -/
def isForeign (c : Char) : Bool := isWord c && !(isAsciiWord c || isCaseVariant c)

/-- A text is cut into `p` and `s` in the middle of an identifier. -/
def CutsWord (p s : Text) : Prop := p.getLast?.any isWord = true ∧ s.head?.any isWord = true

theorem inRanges_caseVariants :
    ∀ n ∈ [0x130, 0x131, 0x17F, 0x212A], inRanges wordRanges n = true := by decide +kernel

theorem isWord_of_isCaseVariant {c : Char} (h : isCaseVariant c = true) : isWord c = true := by
  have hmem : c.toNat ∈ [0x130, 0x131, 0x17F, 0x212A] := by
    simpa [isCaseVariant, or_assoc] using h
  have hwide : ∀ n ∈ [0x130, 0x131, 0x17F, 0x212A], ¬ n < 128 := by decide
  rw [isWord, if_neg (hwide _ hmem)]
  exact inRanges_caseVariants _ hmem

theorem isWord_of_continues {c : Char} (h : (isAsciiWord c || isCaseVariant c) = true) :
    isWord c = true := by
  rcases Bool.or_eq_true _ _ ▸ h with h | h
  · exact isWord_of_isAsciiWord h
  · exact isWord_of_isCaseVariant h

/-- A declaration ends before what is no identifier character, and before the foreign ones. -/
theorem continuesWord_eq_false_iff {r : Text} : continuesWord r = false ↔
    EndsWord r ∨ ∃ c ∈ r.head?, isForeign c = true := by
  cases r with
  | nil => simp [continuesWord, EndsWord]
  | cons c r =>
    rw [continuesWord, EndsWord]
    simp only [List.head?_cons, Option.mem_def, Option.some.injEq, forall_eq', exists_eq_left',
      isForeign]
    have hword : (isAsciiWord c || isCaseVariant c) = true → isWord c = true := isWord_of_continues
    cases hc : isAsciiWord c || isCaseVariant c with
    | true => simp [hword hc]
    | false => cases isWord c <;> simp

theorem isSome_read?_iff {t : Text} :
    (read? t).isSome = true ↔ ∃ r, Opens t r ∧ continuesWord r = false := by
  constructor
  · intro h
    obtain ⟨d, hd⟩ := Option.isSome_iff_exists.1 h
    have hheader : (read? t).map (·.header) = some d.header := by rw [hd, Option.map_some]
    obtain ⟨hp, gap, r, hgap, ht, hr⟩ := map_header_read?_eq_some_iff.1 hheader
    exact ⟨r, ⟨d.header, gap, hp, hgap, ht⟩, hr⟩
  · rintro ⟨r, ⟨h, gap, hp, hgap, rfl⟩, hr⟩
    rw [read?_written_append hp hgap hr, Option.isSome_some]

theorem isWord_getLast?_written {h : Header} (hp : h.Proper) (gap : Text) :
    (h.written gap).getLast?.any isWord = true := by
  obtain ⟨c, hc⟩ := List.getLast?_isSome.2 hp.orientation_ne_nil |> Option.isSome_iff_exists.1
  have hw : isWord c = true := hp.isWord_orientation c (List.mem_of_getLast? hc)
  rw [written, ← List.append_assoc, List.getLast?_append, hc]
  simpa using hw

/-- A declaration is cut off together with separators, and no identifier ends with one. -/
theorem exists_of_read? {t p : Text} {d : Reading} (h : read? t = some d) (ht : t = p ++ strip t) :
    ∃ s, p = d.header.written d.gap ++ s ∧ d.rest = s ++ strip t ∧ ∀ c ∈ s, isWord c = false := by
  obtain ⟨-, he, -⟩ := eq_append_of_read? h
  let s := d.rest.takeWhile fun c => isTabOrSpace c || c == ';'
  have hstrip : strip t = d.rest.dropWhile fun c => isTabOrSpace c || c == ';' := by rw [strip, h]
  have hrest : d.rest = s ++ strip t := by rw [hstrip, List.takeWhile_append_dropWhile]
  have hsep : ∀ c ∈ s, isWord c = false := by
    intro c hc
    have hs := List.mem_takeWhile_imp (p := fun c => isTabOrSpace c || c == ';') hc
    exact (Lexeme.isSeparator_plain c hs).1
  have hcut : p ++ strip t = (d.header.written d.gap ++ s) ++ strip t := by
    rw [← ht, List.append_assoc, ← hrest]
    simpa [written] using he
  exact ⟨s, List.append_cancel_right hcut, hrest, hsep⟩

theorem strip_of_read? {t r : Text} {h : Header} {gap : Text} {c : Char} (hc : isWord c = true)
    (hread : read? t = some ⟨h, gap, c :: r⟩) : strip t = c :: r := by
  rw [strip, hread]
  apply List.dropWhile_cons_of_neg
  intro hs
  exact absurd hc (by simp [(Lexeme.isSeparator_plain c hs).1])

/-- Cutting a declaration off cuts an identifier exactly if a foreign character goes on after it. -/
theorem cutsWord_strip_iff {p t : Text} (ht : t = p ++ strip t) :
    CutsWord p (strip t) ↔ ∃ c r, Opens t (c :: r) ∧ isForeign c = true := by
  constructor
  · rintro ⟨hp, hs⟩
    cases hread : read? t with
    | none =>
      -- nothing was cut off
      rw [strip_of_read?_eq_none hread, List.self_eq_append_left] at ht
      simp [ht] at hp
    | some d =>
      obtain ⟨hproper, he, hne, hblank, hcont⟩ := eq_append_of_read? hread
      obtain ⟨s, hcut, hrest, hsep⟩ := exists_of_read? hread ht
      have hnil : s = [] := by
        by_contra hne'
        have hlast := hsep _ (List.getLast_mem hne')
        rw [hcut, List.getLast?_append, List.getLast?_eq_some_getLast hne'] at hp
        simp [hlast] at hp
      obtain ⟨c, hc, hword⟩ := (Option.any_eq_true _ _).1 hs
      obtain ⟨r, hr⟩ := List.head?_eq_some_iff.1 hc
      rw [hnil, List.nil_append, hr] at hrest
      refine ⟨c, r, ⟨d.header, d.gap, hproper, ⟨hne, hblank⟩, ?_⟩, ?_⟩
      · rw [← hrest, written]
        simpa using he
      · rw [hrest] at hcont
        rcases continuesWord_eq_false_iff.1 hcont with hend | ⟨e, hmem, hforeign⟩
        · exact absurd hword (by simp [hend c rfl])
        · rwa [Option.some.inj hmem]
  · rintro ⟨c, r, ⟨h, gap, hproper, hgap, he⟩, hforeign⟩
    have hcont : continuesWord (c :: r) = false :=
      continuesWord_eq_false_iff.2 (.inr ⟨c, rfl, hforeign⟩)
    have hword : isWord c = true := ((Bool.and_eq_true _ _).mp hforeign).1
    have hread : read? t = some ⟨h, gap, c :: r⟩ := he ▸ read?_written_append hproper hgap hcont
    have hstrip : strip t = c :: r := strip_of_read? hword hread
    have hcut : p ++ strip t = h.written gap ++ strip t := by rw [← ht, hstrip, he]
    rw [List.append_cancel_right hcut, hstrip]
    exact ⟨isWord_getLast?_written hproper gap, hword⟩

/-- A chart has a declaration exactly if it begins, after white space, with a keyword, tabs or
blanks and a direction, and no identifier goes on after them or it goes on with a foreign character.
Cutting a declaration off a line cuts an identifier in two in the second case and in no other. -/
theorem declared_iff_token (t : Text) :
    ((ofChart? t).isSome = true ↔ ∃ r, Opens (trimLeft t) r ∧
      (EndsWord r ∨ ∃ c ∈ r.head?, isForeign c = true)) ∧
    ∃ p, t = p ++ strip t ∧
      (CutsWord p (strip t) ↔ ∃ c r, Opens t (c :: r) ∧ isForeign c = true) := by
  constructor
  · rw [ofChart?, isSome_read?_iff]
    simp only [continuesWord_eq_false_iff]
  · obtain ⟨p, hp⟩ := strip_suffix t
    exact ⟨p, hp.symm, cutsWord_strip_iff hp.symm⟩

/-- A declaration is read where an accented letter goes on after it, and the word with that letter
is cut in two. -/
theorem declared_within_word :
    (¬ ∀ t, (ofChart? t).isSome = true ↔ ∃ r, Opens (trimLeft t) r ∧ EndsWord r) ∧
      ¬ ∀ t p, t = p ++ strip t → ¬ CutsWord p (strip t) := by
  constructor
  · intro h
    let t : Text := "graph TDé".toList
    have hread : read? t = some ⟨top, [' '], ['é']⟩ := by decide +kernel
    have hsome : (ofChart? t).isSome = true := by decide +kernel
    obtain ⟨r, ⟨k, gap, hp, hgap, ht⟩, hr⟩ := (h t).1 hsome
    have hcont : continuesWord r = false := continuesWord_eq_false_iff.2 (.inl hr)
    have htrim : trimLeft t = t := by decide +kernel
    have hagain : read? t = some ⟨k, gap, r⟩ := by
      rw [← htrim, ht, read?_written_append hp hgap hcont]
    have hrest : r = ['é'] := (congrArg Reading.rest (Option.some.inj (hagain.symm.trans hread)))
    have hword : isWord 'é' = false := hr 'é' (by rw [hrest]; rfl)
    exact absurd hword (by decide +kernel)
  · intro h
    have hstrip : strip "graph TDé --> b".toList = "é --> b".toList := by decide +kernel
    refine h "graph TDé --> b".toList "graph TD".toList (by rw [hstrip]; rfl) ?_
    rw [hstrip]
    exact ⟨by decide +kernel, by decide +kernel⟩

end CaseChart.Header
