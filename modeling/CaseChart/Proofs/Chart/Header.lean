import CaseChart.Chart.Header
import CaseChart.Proofs.Text.Word

namespace CaseChart.Header
open Text

def PrefixFree (words : List Text) : Prop := ∀ v ∈ words, ∀ w ∈ words, v <+: w → v = w

instance (words : List Text) : Decidable (PrefixFree words) :=
  inferInstanceAs (Decidable (∀ v ∈ words, ∀ w ∈ words, v <+: w → v = w))

theorem prefixFree_keywords : PrefixFree keywords := by decide

theorem prefixFree_orientations : PrefixFree orientations := by decide

theorem eq_append_of_readWord? {words : List Text} {t k r : Text}
    (h : readWord? words t = some (k, r)) : t = k ++ r ∧ k.map Char.toLower ∈ words := by
  obtain ⟨w, hw, hf⟩ := List.exists_of_findSome?_eq_some h
  obtain ⟨s, hs, he⟩ := Option.map_eq_some_iff.1 hf
  obtain ⟨j, rfl, hj⟩ := dropWord?_eq_some_iff.1 hs
  have hjw : j.map Char.toLower = w := forall₂_sameLetter_iff.1 hj
  have hl : w.length = j.length := by rw [← hjw, List.length_map]
  rw [hl, List.take_left, Prod.mk.injEq] at he
  obtain ⟨rfl, rfl⟩ := he
  exact ⟨rfl, hjw ▸ hw⟩

theorem readWord?_append {words : List Text} (hp : PrefixFree words) {k : Text}
    (hk : k.map Char.toLower ∈ words) (r : Text) : readWord? words (k ++ r) = some (k, r) := by
  have hd : dropWord? sameLetter (k.map Char.toLower) (k ++ r) = some r :=
    dropWord?_eq_some_iff.2 ⟨k, rfl, forall₂_sameLetter_iff.2 rfl⟩
  have hs : (readWord? words (k ++ r)).isSome := by
    rw [readWord?, List.findSome?_isSome_iff]
    exact ⟨_, hk, by rw [hd, Option.isSome_map, Option.isSome_some]⟩
  obtain ⟨⟨j, s⟩, hj⟩ := Option.isSome_iff_exists.1 hs
  obtain ⟨he, hjw⟩ := eq_append_of_readWord? hj
  -- two words at one place are prefixes one of the other, so they are the same word
  have hlen : j.length = k.length := by
    rcases List.prefix_or_prefix_of_prefix ⟨s, he.symm⟩ ⟨r, rfl⟩ with h | h
    · simpa using congrArg List.length (hp _ hjw _ hk (h.map Char.toLower))
    · simpa using congrArg List.length (hp _ hk _ hjw (h.map Char.toLower)).symm
  obtain ⟨rfl, rfl⟩ := List.append_inj he hlen.symm
  exact hj

def Proper (h : Header) : Prop :=
  h.keyword.map Char.toLower ∈ keywords ∧ h.orientation.map Char.toLower ∈ orientations

instance (h : Header) : Decidable h.Proper := inferInstanceAs (Decidable (_ ∧ _))

theorem isWord_of_mem_of_map_toLower_mem {words : List Text} {k : Text}
    (hw : ∀ w ∈ words, ∀ c ∈ w, c.isLower = true) (hk : k.map Char.toLower ∈ words) {c : Char}
    (hc : c ∈ k) : isWord c = true := by
  have hl : c.toLower.isLower = true := hw _ hk _ (List.mem_map_of_mem hc)
  exact isWord_of_sameLetter hl (beq_iff_eq.2 rfl)

theorem Proper.isWord_keyword {h : Header} (hp : h.Proper) : ∀ c ∈ h.keyword, isWord c = true :=
  fun _ hc => isWord_of_mem_of_map_toLower_mem (by decide) hp.1 hc

theorem Proper.isWord_orientation {h : Header} (hp : h.Proper) :
    ∀ c ∈ h.orientation, isWord c = true :=
  fun _ hc => isWord_of_mem_of_map_toLower_mem (by decide) hp.2 hc

theorem Proper.keyword_ne_nil {h : Header} (hp : h.Proper) : h.keyword ≠ [] := by
  intro he
  have h0 := hp.1
  rw [he] at h0
  exact absurd h0 (by decide)

theorem Proper.orientation_ne_nil {h : Header} (hp : h.Proper) : h.orientation ≠ [] := by
  intro he
  have h0 := hp.2
  rw [he] at h0
  exact absurd h0 (by decide)

theorem proper_top : top.Proper := by decide

/-- The parts that a declaration was read from, in their order. -/
theorem eq_append_of_read? {t : Text} {d : Reading} (h : read? t = some d) :
    d.header.Proper ∧ t = d.header.keyword ++ (d.gap ++ (d.header.orientation ++ d.rest)) ∧
      d.gap ≠ [] ∧ (∀ c ∈ d.gap, isTabOrSpace c = true) ∧ continuesWord d.rest = false := by
  rw [read?] at h
  obtain ⟨⟨k, t'⟩, hk, hrest⟩ := Option.bind_eq_some_iff.1 h
  obtain ⟨rfl, hkw⟩ := eq_append_of_readWord? hk
  dsimp only at hrest
  split at hrest
  · exact absurd hrest (by simp)
  · next hgap =>
    obtain ⟨⟨o, r⟩, ho, hend⟩ := Option.bind_eq_some_iff.1 hrest
    obtain ⟨hr, how⟩ := eq_append_of_readWord? ho
    dsimp only at hend
    split at hend
    · exact absurd hend (by simp)
    · next hcont =>
      obtain rfl := Option.some.inj hend
      refine ⟨⟨hkw, how⟩, ?_, ?_, ?_, by simpa using hcont⟩
      · rw [← hr, List.takeWhile_append_dropWhile]
      · simpa using hgap
      · exact fun c hc => List.mem_takeWhile_imp hc

def written (h : Header) (gap : Text) : Text := h.keyword ++ (gap ++ h.orientation)

theorem line_eq_written (h : Header) : h.line = h.written [' '] := rfl

def IsGap (gap : Text) : Prop := gap ≠ [] ∧ ∀ c ∈ gap, isTabOrSpace c = true

instance (gap : Text) : Decidable (IsGap gap) := inferInstanceAs (Decidable (_ ∧ _))

theorem Proper.unbroken_written {h : Header} (hp : h.Proper) {gap : Text} (hgap : IsGap gap) :
    Unbroken (h.written gap) :=
  unbroken_append.2 ⟨unbroken_of_isWord hp.isWord_keyword,
    unbroken_append.2 ⟨unbroken_of_isTabOrSpace hgap.2, unbroken_of_isWord hp.isWord_orientation⟩⟩

theorem Proper.unbroken_line {h : Header} (hp : h.Proper) : Unbroken h.line := by
  rw [line_eq_written]
  exact hp.unbroken_written (by decide)

theorem read?_written_append {h : Header} (hp : h.Proper) {gap : Text} (hgap : IsGap gap)
    {r : Text} (hr : continuesWord r = false) : read? (h.written gap ++ r) = some ⟨h, gap, r⟩ := by
  obtain ⟨c, o, ho⟩ := List.exists_cons_of_ne_nil hp.orientation_ne_nil
  have hc : isTabOrSpace c = false := by
    have hw : isWord c = true := hp.isWord_orientation c (ho ▸ List.mem_cons_self)
    cases hb : isTabOrSpace c with
    | false => rfl
    | true => exact absurd (isBlank_of_isTabOrSpace hb) (by simp [isBlank_eq_false_of_isWord hw])
  have hwritten : h.written gap ++ r = h.keyword ++ (gap ++ (h.orientation ++ r)) := by
    simp [written]
  have hhead : ∀ d ∈ (h.orientation ++ r).head?, isTabOrSpace d = false := by
    rw [ho]
    rintro d ⟨⟩
    exact hc
  -- the direction begins with a letter, so the gap ends there
  have htake : (gap ++ (h.orientation ++ r)).takeWhile isTabOrSpace = gap :=
    takeWhile_append_of_head hgap.2 hhead
  have hdrop : (gap ++ (h.orientation ++ r)).dropWhile isTabOrSpace = h.orientation ++ r :=
    dropWhile_append_of_head hgap.2 hhead
  rw [read?, hwritten, readWord?_append prefixFree_keywords hp.1]
  simp only [Option.bind_eq_bind, Option.bind_some]
  rw [htake, hdrop, readWord?_append prefixFree_orientations hp.2]
  simp [hr, hgap.1]

theorem read?_line_append {h : Header} (hp : h.Proper) {r : Text} (hr : continuesWord r = false) :
    read? (h.line ++ r) = some ⟨h, [' '], r⟩ := by
  rw [line_eq_written, read?_written_append hp (by decide) hr]

theorem read?_eq_none_of_head {c : Char} {s : Text} (h : c.toLower ≠ 'g') (h' : c.toLower ≠ 'f') :
    read? (c :: s) = none := by
  rw [Option.eq_none_iff_forall_ne_some]
  intro d hd
  obtain ⟨hp, he, -⟩ := eq_append_of_read? hd
  obtain ⟨b, k, hb⟩ := List.exists_cons_of_ne_nil hp.keyword_ne_nil
  rw [hb] at he
  obtain ⟨rfl, -⟩ := List.cons.inj he
  have hk := hp.1
  rw [hb] at hk
  simp only [keywords, List.map_cons, List.mem_cons, List.not_mem_nil, or_false] at hk
  rcases hk with hk | hk
  · exact h (List.cons.inj hk).1
  · exact h' (List.cons.inj hk).1

theorem strip_of_read?_eq_none {t : Text} (h : read? t = none) : strip t = t := by
  rw [strip, h]

theorem strip_suffix (t : Text) : strip t <:+ t := by
  cases h : read? t with
  | none => exact ⟨[], by rw [List.nil_append, strip_of_read?_eq_none h]⟩
  | some d =>
    obtain ⟨-, he, -⟩ := eq_append_of_read? h
    have hd : strip t = d.rest.dropWhile fun c => isTabOrSpace c || c == ';' := by rw [strip, h]
    rw [hd]
    apply (List.dropWhile_suffix _).trans
    exact ⟨d.header.keyword ++ d.gap ++ d.header.orientation, by rw [he]; simp⟩

theorem length_strip_lt {s : Text} {d : Reading} (h : read? s = some d) :
    (strip s).length < s.length := by
  obtain ⟨hp, hs, hgap, -⟩ := eq_append_of_read? h
  have hrest : (strip s).length ≤ d.rest.length := by
    rw [strip, h]
    exact (List.dropWhile_sublist _).length_le
  have hpos := List.length_pos_iff.2 hgap
  have hlen := congrArg List.length hs
  simp only [List.length_append] at hlen
  omega

/-- What is left of a trimmed line has no white space at its end. -/
theorem trimRight_strip_trim (t : Text) : trimRight (strip (trim t)) = strip (trim t) :=
  trimRight_eq_self_of_suffix (strip_suffix _) (trimRight_trim t)

theorem strip_line {h : Header} (hp : h.Proper) : strip h.line = [] := by
  have hr := read?_line_append hp (r := []) rfl
  rw [List.append_nil] at hr
  rw [strip, hr]
  rfl

theorem proper_ofChart (t : Text) : (ofChart t).Proper := by
  rw [ofChart]
  cases h : ofChart? t with
  | none => exact proper_top
  | some d => exact (eq_append_of_read? h).1

/-- A declaration at the start of a text is the one that is read, if no word goes on after it. -/
theorem ofChart?_written_append {h : Header} (hp : h.Proper) {gap : Text} (hgap : IsGap gap)
    {t : Text} (ht : continuesWord t = false) :
    ofChart? (h.written gap ++ t) = some ⟨h, gap, t⟩ := by
  have hl : trimLeft (h.written gap ++ t) = h.written gap ++ t := by
    rw [written, List.append_assoc, trimLeft_append_of_isWord hp.keyword_ne_nil hp.isWord_keyword]
  rw [ofChart?, hl, read?_written_append hp hgap ht]

theorem ofChart_line_append {h : Header} (hp : h.Proper) {t : Text} (ht : continuesWord t = false) :
    ofChart (h.line ++ t) = h := by
  rw [ofChart, line_eq_written, ofChart?_written_append hp (by decide) ht]
  rfl

theorem trim_written {h : Header} (hp : h.Proper) (gap : Text) :
    trim (h.written gap) = h.written gap := by
  apply trim_append_of_isWord hp.keyword_ne_nil hp.isWord_keyword
  rw [← List.append_assoc]
  exact trimRight_append_eq_self hp.orientation_ne_nil (trimRight_of_isWord hp.isWord_orientation)

theorem trim_line {h : Header} (hp : h.Proper) : trim h.line = h.line := trim_written hp [' ']

theorem continuesWord_of_isBlank {r : Text} (h : ∀ c ∈ r.head?, isBlank c = true) :
    continuesWord r = false := by
  cases r with
  | nil => rfl
  | cons c r =>
    have hb : isBlank c = true := h c rfl
    have hw := isWord_eq_false_of_isBlank hb
    rw [continuesWord, Bool.or_eq_false_iff]
    constructor
    · exact Bool.eq_false_iff.2 fun ha => absurd (isWord_of_isAsciiWord ha) (by simp [hw])
    · simp only [isBlank, Bool.or_eq_true, Bool.and_eq_true, decide_eq_true_eq,
        beq_iff_eq] at hb
      simp only [isCaseVariant, Bool.or_eq_false_iff, beq_eq_false_iff_ne]
      omega

/-- White space ends a word as well as the end of the text does. -/
theorem continuesWord_append {u : Text} (hu : ∀ c ∈ u.head?, isBlank c = true) (r : Text) :
    continuesWord (r ++ u) = continuesWord r := by
  cases r with
  | nil => exact continuesWord_of_isBlank hu
  | cons c r => rfl

theorem continuesWord_trimRight (t : Text) : continuesWord (trimRight t) = continuesWord t := by
  obtain ⟨b, hb, ht⟩ := exists_eq_trimRight_append t
  conv_rhs => rw [ht, continuesWord_append (isBlank_of_mem_head? hb)]

theorem trimRight_written {h : Header} (hp : h.Proper) (gap : Text) :
    trimRight (h.written gap) = h.written gap :=
  trim_written hp gap ▸ trimRight_trim (h.written gap)

/-- Trimming a chart leaves its declaration in front. -/
theorem ofChart?_trim_written_append {h : Header} (hp : h.Proper) {gap : Text} (hgap : IsGap gap)
    {t : Text} (ht : continuesWord t = false) :
    ofChart? (trim (h.written gap ++ t)) = some ⟨h, gap, trimRight t⟩ := by
  have htrim : trim (h.written gap ++ t) = h.written gap ++ trimRight t := by
    rw [trim, written, List.append_assoc,
      trimLeft_append_of_isWord hp.keyword_ne_nil hp.isWord_keyword, ← List.append_assoc,
      ← written, trimRight_append (trimRight_written hp gap)]
  rw [htrim, ofChart?_written_append hp hgap ((continuesWord_trimRight t).trans ht)]

theorem ofChart?_trim_line_append {h : Header} (hp : h.Proper) {t : Text}
    (ht : continuesWord t = false) :
    ofChart? (trim (h.line ++ t)) = some ⟨h, [' '], trimRight t⟩ := by
  rw [line_eq_written, ofChart?_trim_written_append hp (by decide) ht]

theorem map_header_read?_eq_some_iff {t : Text} {h : Header} :
    (read? t).map (·.header) = some h ↔
      h.Proper ∧ ∃ gap r, IsGap gap ∧ t = h.written gap ++ r ∧ continuesWord r = false := by
  rw [Option.map_eq_some_iff]
  constructor
  · rintro ⟨d, hd, rfl⟩
    obtain ⟨hp, ht, hne, hgap, hr⟩ := eq_append_of_read? hd
    exact ⟨hp, d.gap, d.rest, ⟨hne, hgap⟩, by simpa [written] using ht, hr⟩
  · rintro ⟨hp, gap, r, hgap, rfl, hr⟩
    exact ⟨_, read?_written_append hp hgap hr, rfl⟩

/-- What begins with white space does not change the declaration in front of it, unless the
declaration reaches into it. -/
theorem map_header_read?_append {s u : Text} (hu : ∀ c ∈ u.head?, isBlank c = true)
    (hcut : ∀ w, Unbroken w → trimRight w = w → w <+: s ++ u → w <+: s) :
    (read? (s ++ u)).map (·.header) = (read? s).map (·.header) := by
  ext h
  rw [map_header_read?_eq_some_iff, map_header_read?_eq_some_iff]
  constructor
  · rintro ⟨hp, gap, r, hgap, he, hr⟩
    -- what is written of a declaration is unbroken and ends visibly
    obtain ⟨q, rfl⟩ := hcut _ (hp.unbroken_written hgap) (trimRight_written hp gap) ⟨r, he.symm⟩
    rw [List.append_assoc, List.append_cancel_left_eq] at he
    rw [← he, continuesWord_append hu] at hr
    exact ⟨hp, gap, q, hgap, rfl, hr⟩
  · rintro ⟨hp, gap, r, hgap, rfl, hr⟩
    exact ⟨hp, gap, r ++ u, hgap, List.append_assoc .., (continuesWord_append hu r).trans hr⟩

/-- A declaration does not go on in another line. -/
theorem map_header_read?_append_break {s u : Text} (hu : ∀ c ∈ u.head?, isBreak c = true) :
    (read? (s ++ u)).map (·.header) = (read? s).map (·.header) := by
  apply map_header_read?_append fun c hc => isBlank_of_isBreak (hu c hc)
  intro w hw _ hpre
  cases u with
  | nil => rwa [List.append_nil] at hpre
  | cons c u =>
    refine prefix_of_prefix_append_cons hpre fun hc => ?_
    exact absurd (hu c rfl) (by simp [hw c hc])

theorem map_header_read?_trimRight (t : Text) :
    (read? (trimRight t)).map (·.header) = (read? t).map (·.header) := by
  obtain ⟨b, hb, ht⟩ := exists_eq_trimRight_append t
  conv_rhs => rw [ht]
  have hcut : ∀ w, Unbroken w → trimRight w = w → w <+: trimRight t ++ b → w <+: trimRight t :=
    fun w _ hw => prefix_of_prefix_append_isBlankText hb hw
  rw [map_header_read?_append (isBlank_of_mem_head? hb) hcut]

/-- A chart has a declaration if it has one without the white space around it. -/
theorem ofChart?_trim_eq_none_iff (t : Text) : ofChart? (trim t) = none ↔ ofChart? t = none := by
  have h : (ofChart? (trim t)).map (·.header) = (ofChart? t).map (·.header) := by
    rw [ofChart?, trimLeft_trim, trim, map_header_read?_trimRight, ofChart?]
  rw [← Option.map_eq_none_iff, h, Option.map_eq_none_iff]

end CaseChart.Header
