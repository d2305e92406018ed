import CaseChart.Proofs.Chart.Header
import CaseChart.Proofs.Chart.Lexeme
import CaseChart.Proofs.Text.Margin

namespace CaseChart.Lexeme
open Text

/-- A lexeme that is known to come first is read first. -/
theorem Leads.ofText_append {l : Lexeme} {r : Text} (h : Leads r l) :
    ofText (l.text ++ r) = l :: ofText r := by
  cases h with
  | @tag n hne hn hr =>
    have ht : (n ++ r).takeWhile isWord = n := takeWhile_append_of_head hn hr
    have hd : (n ++ r).dropWhile isWord = r := dropWhile_append_of_head hn hr
    have htext : (Lexeme.tag n).text ++ r = ':' :: ':' :: ':' :: (n ++ r) := rfl
    rw [htext, ofText, ht, hd, if_neg (by simpa using hne)]
  | @marker tip h =>
    have htext : (Lexeme.marker tip).text ++ r = '-' :: '-' :: tip :: r := rfl
    rw [htext, ofText, if_pos h]
  | @word w hne hw hr =>
    obtain ⟨c, w, rfl⟩ := List.exists_cons_of_ne_nil hne
    have hc : isWord c = true := hw c List.mem_cons_self
    have hw' : ∀ d ∈ w, isWord d = true := fun d hd => hw d (List.mem_cons_of_mem c hd)
    have htext : (Lexeme.word (c :: w)).text ++ r = c :: (w ++ r) := rfl
    rw [htext, ofText.eq_def]
    split
    · next h => exact absurd h (by simp)
    · next h =>
      rw [(List.cons.inj h).1] at hc
      exact absurd hc (by decide)
    · next h =>
      rw [(List.cons.inj h).1] at hc
      exact absurd hc (by decide)
    · next d t _ _ h =>
      obtain ⟨rfl, rfl⟩ := List.cons.inj h
      rw [if_pos hc, takeWhile_append_of_head hw' hr, dropWhile_append_of_head hw' hr]
  | @mark c hc ht hm =>
    have htext : (Lexeme.mark c).text ++ r = c :: r := rfl
    rw [htext, ofText.eq_def]
    split
    · next h => exact absurd h (by simp)
    · next t h =>
      obtain ⟨rfl, rfl⟩ := List.cons.inj h
      rw [if_pos]
      cases t with
      | nil => rfl
      | cons d t =>
        have hd : isWord d = false := ht
        simp [hd]
    · next d t h =>
      obtain ⟨rfl, rfl⟩ := List.cons.inj h
      have hd : isTip d = false := hm
      rw [if_neg (by simp [hd])]
    · next d t _ _ h =>
      obtain ⟨rfl, rfl⟩ := List.cons.inj h
      rw [if_neg (by simp [hc])]

theorem startsTag_iff {t : Text} :
    startsTag t = true ↔ ∃ d, isWord d = true ∧ [':', ':', ':', d] <+: t := by
  constructor
  · intro h
    unfold startsTag at h
    split at h
    · next d s => exact ⟨d, h, s, rfl⟩
    · exact absurd h (by simp)
  · rintro ⟨d, hd, s, rfl⟩
    exact hd

theorem startsMarker_iff {t : Text} :
    startsMarker t = true ↔ ∃ d, isTip d = true ∧ ['-', '-', d] <+: t := by
  constructor
  · intro h
    unfold startsMarker at h
    split at h
    · next d s => exact ⟨d, h, s, rfl⟩
    · exact absurd h (by simp)
  · rintro ⟨d, hd, s, rfl⟩
    exact hd

/-- A start `w` with a character of `p` behind it does not go across a character outside both. -/
theorem exists_prefix_of_append_cons {w t b : Text} {p : Char → Bool} {c : Char} (hw : c ∉ w)
    (hp : p c = false) (h : ∃ d, p d = true ∧ w ++ [d] <+: t ++ c :: b) :
    ∃ d, p d = true ∧ w ++ [d] <+: t := by
  obtain ⟨d, hd, hpre⟩ := h
  refine ⟨d, hd, prefix_of_prefix_append_cons hpre ?_⟩
  rw [List.mem_append, List.mem_singleton]
  rintro (hc | rfl)
  · exact hw hc
  · rw [hp] at hd
    exact absurd hd (by decide)

/-- A character that is a lexeme of its own wherever it stands: it goes into no other. -/
def standsAlone (c : Char) : Bool := !isWord c && c != ':' && !isTip c

theorem standsAlone_iff {c : Char} :
    standsAlone c = true ↔ (isWord c = false ∧ c ≠ ':') ∧ isTip c = false := by
  simp only [standsAlone, Bool.and_eq_true, Bool.not_eq_true', bne_iff_ne]

theorem standsAlone_of_isBlank {c : Char} (hc : Text.isBlank c = true) : standsAlone c = true := by
  refine standsAlone_iff.2 ⟨⟨isWord_eq_false_of_isBlank hc, ?_⟩, ?_⟩
  · rintro rfl
    exact absurd hc (by decide)
  · rw [Bool.eq_false_iff]
    intro h
    rcases isTip_iff.1 h with (rfl | rfl) | rfl
    · exact absurd hc (by decide)
    · exact absurd hc (by decide)
    · exact absurd hc (by decide)

section Alone
variable {c : Char} (hc : standsAlone c = true)
include hc

theorem startsTag_append {t b : Text} (h : startsTag t = false) :
    startsTag (t ++ c :: b) = false := by
  obtain ⟨⟨hword, hcolon⟩, -⟩ := standsAlone_iff.1 hc
  rw [Bool.eq_false_iff] at h ⊢
  rw [ne_eq, startsTag_iff] at h ⊢
  have hmem : c ∉ [':', ':', ':'] := by simpa using hcolon
  exact fun ht => h (exists_prefix_of_append_cons hmem hword ht)

theorem startsMarker_append {t b : Text} (h : startsMarker t = false) :
    startsMarker (t ++ c :: b) = false := by
  obtain ⟨-, htip⟩ := standsAlone_iff.1 hc
  rw [Bool.eq_false_iff] at h ⊢
  rw [ne_eq, startsMarker_iff] at h ⊢
  have hmem : c ∉ ['-', '-'] := by
    intro hm
    rw [(by simpa using hm : c = '-')] at htip
    exact absurd htip (by decide)
  exact fun ht => h (exists_prefix_of_append_cons hmem htip ht)

theorem isWord_head?_append {r b : Text} (h : ∀ d ∈ r.head?, isWord d = false) :
    ∀ d ∈ (r ++ c :: b).head?, isWord d = false := by
  cases r with
  | nil =>
    rintro d ⟨⟩
    exact (standsAlone_iff.1 hc).1.1
  | cons e r => exact h

/-- A lexeme does not see what comes after such a character. -/
theorem Leads.append {r : Text} {l : Lexeme} (h : Leads r l) (b : Text) :
    Leads (r ++ c :: b) l := by
  cases h with
  | tag hne hn hr => exact .tag hne hn (isWord_head?_append hc hr)
  | marker h => exact .marker h
  | word hne hw hr => exact .word hne hw (isWord_head?_append hc hr)
  | mark hd ht hm => exact .mark hd (startsTag_append hc ht) (startsMarker_append hc hm)

theorem leads_of_standsAlone (b : Text) : Leads b (.mark c) := by
  apply Leads.mark (standsAlone_iff.1 hc).1.1
  · exact startsTag_append hc (t := []) rfl
  · exact startsMarker_append hc (t := []) rfl

/-- A text is cut in two there. -/
theorem ofText_append_cons (a b : Text) :
    ofText (a ++ c :: b) = ofText a ++ mark c :: ofText b := by
  induction a using ofText_induction with
  | nil => exact (leads_of_standsAlone hc b).ofText_append
  | cons l r h ih => rw [List.append_assoc, (h.append hc b).ofText_append, ih, List.cons_append]

end Alone

def visible (t : Text) : List Lexeme := (ofText t).filter (!·.isBlank)

theorem visible_nil : visible [] = [] := by
  rw [visible, ofText]
  rfl

theorem visible_append_cons {c : Char} (hc : Text.isBlank c = true) (a b : Text) :
    visible (a ++ c :: b) = visible a ++ visible b := by
  have hb : (mark c).isBlank = true := hc
  rw [visible, ofText_append_cons (standsAlone_of_isBlank hc), List.filter_append,
    List.filter_cons_of_neg (by simp [hb]), visible, visible]

theorem visible_cons {c : Char} (hc : Text.isBlank c = true) (t : Text) :
    visible (c :: t) = visible t := by
  have h := visible_append_cons hc [] t
  rwa [visible_nil] at h

theorem visible_append_of_isBlankText_left {b : Text} (hb : isBlankText b = true) (t : Text) :
    visible (b ++ t) = visible t := by
  induction b with
  | nil => rfl
  | cons c b ih =>
    obtain ⟨hc, hb⟩ : Text.isBlank c = true ∧ isBlankText b = true := by
      simpa [isBlankText] using hb
    rw [List.cons_append, visible_cons hc, ih hb]

theorem visible_of_isBlankText {b : Text} (hb : isBlankText b = true) : visible b = [] := by
  have h := visible_append_of_isBlankText_left hb []
  rwa [List.append_nil, visible_nil] at h

theorem visible_append_of_isBlankText_right {b : Text} (hb : isBlankText b = true) (t : Text) :
    visible (t ++ b) = visible t := by
  cases b with
  | nil => rw [List.append_nil]
  | cons c b =>
    obtain ⟨hc, hb⟩ : Text.isBlank c = true ∧ isBlankText b = true := by
      simpa [isBlankText] using hb
    rw [visible_append_cons hc, visible_of_isBlankText hb, List.append_nil]

theorem visible_trim (t : Text) : visible (trim t) = visible t :=
  apply_trim (fun _ t hb => visible_append_of_isBlankText_left hb t)
    (fun _ t hb => visible_append_of_isBlankText_right hb t) t

/-- Only what is left after trimming is visible. -/
theorem visible_congr {s t : Text} (h : trim s = trim t) : visible s = visible t := by
  rw [← visible_trim, h, visible_trim]

theorem visible_unlines (ls : List Text) : visible (unlines ls) = ls.flatMap visible := by
  induction ls with
  | nil => exact visible_nil
  | cons l ls ih =>
    have h : unlines (l :: ls) = l ++ '\n' :: unlines ls := by simp [unlines]
    rw [h, visible_append_cons (by decide), ih, List.flatMap_cons]

theorem visible_join_newline (ls : List Text) : visible (join ['\n'] ls) = ls.flatMap visible := by
  cases ls with
  | nil => exact visible_nil
  | cons l ls =>
    have hnl : isBlankText ['\n'] = true := by decide
    rw [← visible_append_of_isBlankText_right hnl, join_newline_append (List.cons_ne_nil l ls),
      visible_unlines]

def glue (p : Text) : List Text → List Text
  | [] => [p]
  | l :: ls => (p ++ l) :: ls

theorem flatMap_visible_glue_nil (ls : List Text) :
    (glue [] ls).flatMap visible = ls.flatMap visible := by
  cases ls with
  | nil => simp [glue, visible_nil]
  | cons l ls => rfl

/-- The recursion of `lines` puts characters in front of a first line, so what is there already has
to be part of the statement. -/
theorem visible_append_lines (p t : Text) :
    visible (p ++ t) = (glue p (lines t)).flatMap visible := by
  fun_induction lines t generalizing p with
  | case1 => simp [glue]
  | case2 t ih =>
    have ht := ih []
    rw [List.nil_append, flatMap_visible_glue_nil] at ht
    rw [visible_append_cons (by decide), visible_cons (by decide), ht, glue, List.append_nil,
      List.flatMap_cons]
  | case3 c t _ hc ih =>
    have ht := ih []
    rw [List.nil_append, flatMap_visible_glue_nil] at ht
    rw [visible_append_cons (isBlank_of_isBreak hc), ht, glue, List.append_nil, List.flatMap_cons]
  | case4 c t _ _ ih =>
    have ht := ih (p ++ [c])
    rw [List.append_assoc, List.singleton_append] at ht
    rw [ht]
    cases lines t with
    | nil => rfl
    | cons l ls => rw [consLine, glue, glue, List.append_assoc, List.singleton_append]

/-- A text shows what its lines show. -/
theorem visible_lines (t : Text) : (lines t).flatMap visible = visible t := by
  have h := visible_append_lines [] t
  rw [List.nil_append, flatMap_visible_glue_nil] at h
  exact h.symm

/-- Tags, markers and brackets: what counts in a chart wherever it stands. -/
def isContent : Lexeme → Bool
  | tag _ => true
  | marker _ => true
  | word _ => false
  | mark c => c == '[' || c == ']'

def content (t : Text) : List Lexeme := (ofText t).filter isContent

theorem isBlank_of_isContent {l : Lexeme} (h : l.isContent = true) : l.isBlank = false := by
  cases l with
  | mark c =>
    rcases Bool.or_eq_true _ _ ▸ h with h | h
    · exact beq_iff_eq.1 h ▸ rfl
    · exact beq_iff_eq.1 h ▸ rfl
  | tag n => rfl
  | marker c => rfl
  | word w => rfl

theorem filter_visible (t : Text) : (visible t).filter isContent = content t := by
  rw [visible, List.filter_filter, content]
  apply List.filter_congr
  intro l _
  cases h : l.isContent with
  | false => rfl
  | true => rw [isBlank_of_isContent h]; rfl

theorem content_congr {s t : Text} (h : visible s = visible t) : content s = content t := by
  rw [← filter_visible, h, filter_visible]

theorem content_eq_flatMap {t : Text} {ts : List Text} (h : visible t = ts.flatMap visible) :
    content t = ts.flatMap content := by
  rw [← filter_visible, h, List.filter_flatMap]
  simp only [filter_visible]

section Word
variable {w : Text} (hw : ∀ c ∈ w, isWord c = true)
include hw

theorem content_append_of_isWord_of_head {r : Text} (hr : ∀ c ∈ r.head?, isWord c = false) :
    content (w ++ r) = content r := by
  by_cases hne : w = []
  · rw [hne, List.nil_append]
  · have h := (Leads.word hne hw hr).ofText_append
    have htext : (Lexeme.word w).text = w := rfl
    rw [htext] at h
    rw [content, h, List.filter_cons_of_neg (by simp [isContent]), content]

/-- What is cut off an identifier does not count, nor does what is left of it. -/
theorem content_append_of_isWord (r : Text) : content (w ++ r) = content r := by
  have hv : ∀ c ∈ r.takeWhile isWord, isWord c = true := fun c hc => List.mem_takeWhile_imp hc
  have hr : ∀ c ∈ (r.dropWhile isWord).head?, isWord c = false :=
    fun _ => eq_false_of_mem_head?_dropWhile
  have hwv : ∀ c ∈ w ++ r.takeWhile isWord, isWord c = true := by
    intro c hc
    rcases List.mem_append.1 hc with hc | hc
    · exact hw c hc
    · exact hv c hc
  have h := (content_append_of_isWord_of_head hwv hr).trans
    (content_append_of_isWord_of_head hv hr).symm
  rwa [List.append_assoc, List.takeWhile_append_dropWhile] at h

theorem content_of_isWord : content w = [] := by
  have h := content_append_of_isWord hw []
  rwa [List.append_nil, content, content, ofText, List.filter_nil] at h

end Word

/-- A character that begins no lexeme but itself, and no bracket, does not count. -/
theorem content_cons_of_plain {c : Char} (hw : isWord c = false) (hc : c ∉ [':', '-', '[', ']'])
    (t : Text) : content (c :: t) = content t := by
  simp only [List.mem_cons, List.not_mem_nil, or_false, not_or] at hc
  obtain ⟨hcolon, hhyphen, ho, hcl⟩ := hc
  have h : Leads t (.mark c) := by
    apply Leads.mark hw
    · rw [Bool.eq_false_iff, ne_eq, startsTag_iff]
      rintro ⟨d, -, hp⟩
      exact hcolon (List.cons_prefix_cons.1 hp).1.symm
    · rw [Bool.eq_false_iff, ne_eq, startsMarker_iff]
      rintro ⟨d, -, hp⟩
      exact hhyphen (List.cons_prefix_cons.1 hp).1.symm
  have ht := h.ofText_append
  have htext : (Lexeme.mark c).text ++ t = c :: t := rfl
  rw [htext] at ht
  rw [content, ht, List.filter_cons_of_neg (by simp [isContent, ho, hcl]), content]

theorem content_dropWhile {p : Char → Bool}
    (hp : ∀ c, p c = true → isWord c = false ∧ c ∉ [':', '-', '[', ']']) (t : Text) :
    content (t.dropWhile p) = content t := by
  induction t with
  | nil => rfl
  | cons c t ih =>
    cases hc : p c with
    | false => rw [List.dropWhile_cons_of_neg (by simp [hc])]
    | true =>
      rw [List.dropWhile_cons_of_pos hc, ih, content_cons_of_plain (hp c hc).1 (hp c hc).2]

theorem isSeparator_plain (c : Char) (h : (isTabOrSpace c || c == ';') = true) :
    isWord c = false ∧ c ∉ [':', '-', '[', ']'] := by
  rcases Bool.or_eq_true _ _ ▸ h with h | h
  · rcases Bool.or_eq_true _ _ ▸ h with h | h
    · rw [beq_iff_eq.1 h]
      decide
    · rw [beq_iff_eq.1 h]
      decide
  · rw [beq_iff_eq.1 h]
    decide

/-- A declaration has no content, and cutting it off takes none away, even where an identifier goes
on after it. -/
theorem content_strip (t : Text) : content (Header.strip t) = content t := by
  cases hr : Header.read? t with
  | none => rw [Header.strip_of_read?_eq_none hr]
  | some d =>
    obtain ⟨hp, ht, hgap, hblank, -⟩ := Header.eq_append_of_read? hr
    obtain ⟨g, gap, hg⟩ := List.exists_cons_of_ne_nil hgap
    rw [hg] at ht hblank
    have hgb : Text.isBlank g = true := isBlank_of_isTabOrSpace (hblank g List.mem_cons_self)
    have hgaps : isBlankText gap = true :=
      List.all_eq_true.2 fun c hc => isBlank_of_isTabOrSpace (hblank c (List.mem_cons_of_mem g hc))
    have hs : Header.strip t = d.rest.dropWhile fun c => isTabOrSpace c || c == ';' := by
      rw [Header.strip, hr]
    have hv : visible t = visible d.header.keyword ++ visible (d.header.orientation ++ d.rest) := by
      rw [ht, List.cons_append, visible_append_cons hgb, visible_append_of_isBlankText_left hgaps]
    calc content (Header.strip t) = content d.rest := by
          rw [hs, content_dropWhile isSeparator_plain]
      _ = content (d.header.orientation ++ d.rest) :=
        (content_append_of_isWord hp.isWord_orientation _).symm
      _ = content d.header.keyword ++ content (d.header.orientation ++ d.rest) := by
        rw [content_of_isWord hp.isWord_keyword, List.nil_append]
      _ = content t := by
        rw [← filter_visible t, hv, List.filter_append, filter_visible, filter_visible]

end CaseChart.Lexeme
