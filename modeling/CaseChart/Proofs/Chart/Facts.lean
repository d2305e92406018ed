import CaseChart.Proofs.Chart.Observed

namespace CaseChart.Lexeme
open Text

/-- Neither an identifier nor a tag goes on from the end of `b` into `t`. -/
structure Clear (b t : Text) : Prop where
  word : b.getLast?.any isWord = true → t.head?.any isWord = false
  tag : ∀ v, v <:+ b → v ≠ [] → (∀ c ∈ v, c = ':') → startsTag (v ++ t) = false

theorem clear_nil (t : Text) : Clear [] t where
  word h := absurd h (by simp)
  tag v hv hne := absurd (List.suffix_nil.1 hv) hne

/-- Behind a text that ends with an identifier, or with anything but a colon, no tag has begun. -/
theorem no_colons_of_getLast {b v : Text} {c : Char} (hc : c ≠ ':') (hv : v <:+ b ++ [c])
    (hne : v ≠ []) : ¬ ∀ d ∈ v, d = ':' := by
  intro h
  have hl : v.getLast hne = c := by
    rw [hv.getLast hne, List.getLast_concat]
  exact hc (hl ▸ h _ (List.getLast_mem hne))

theorem clear_of_word {b w r : Text} (hne : w ≠ []) (hw : ∀ c ∈ w, isWord c = true)
    (hr : ∀ c ∈ r.head?, isWord c = false) : Clear (b ++ w) r where
  word _ := by
    cases r with
    | nil => rfl
    | cons c r => exact hr c rfl
  tag v hv hne' h := by
    have hc : w.getLast hne ≠ ':' := by
      intro hc
      have := hw _ (List.getLast_mem hne)
      rw [hc] at this
      exact absurd this (by decide)
    rw [← List.dropLast_append_getLast hne, ← List.append_assoc] at hv
    exact absurd h (no_colons_of_getLast hc hv hne')

/-- No run that counts is cut at the end of a lexeme. -/
theorem Leads.clear {l : Lexeme} {r : Text} (h : Leads r l) {b : Text}
    (hb : Clear b (l.text ++ r)) : Clear (b ++ l.text) r := by
  cases h with
  | word hne hw hr => exact clear_of_word hne hw hr
  | @tag n hne hn hr =>
    have he : b ++ (Lexeme.tag n).text = (b ++ [':', ':', ':']) ++ n := by simp [text]
    rw [he]
    exact clear_of_word hne hn hr
  | @marker tip htip =>
    have he : b ++ (Lexeme.marker tip).text = (b ++ ['-', '-']) ++ [tip] := by simp [text]
    have ht : isWord tip = false ∧ tip ≠ ':' := by
      rcases isTip_iff.1 htip with (rfl | rfl) | rfl <;> decide
    rw [he]
    constructor
    · intro h
      simp [ht.1] at h
    · intro v hv hne h
      exact absurd h (no_colons_of_getLast ht.2 hv hne)
  | @mark c hc ht hm =>
    constructor
    · intro h
      simp [text, hc] at h
    · intro v hv hne h
      by_cases hcolon : c = ':'
      · -- the colons before this one reach back into `b`
        subst hcolon
        obtain h0 | ⟨u, rfl, hu⟩ := List.suffix_concat_iff.1 hv
        · exact absurd h0 hne
        · rw [List.append_assoc]
          by_cases hun : u = []
          · rw [hun]
            exact ht
          · exact hb.tag u hu hun fun d hd => h d (List.mem_append_left _ hd)
      · exact absurd h (no_colons_of_getLast hcolon hv hne)

/-- The place of the identifier in a lexeme that stands between `b` and `r`. -/
def place? (b r : Text) : Lexeme → Option Place
  | tag n => some ⟨b ++ [':', ':', ':'], n ++ r⟩
  | word w => some ⟨b, w ++ r⟩
  | _ => none

/-- The runs of identifier characters in a text are those of its first lexeme and of the rest. -/
theorem Leads.runsAfter_append {l : Lexeme} {r : Text} (h : Leads r l) {b : Text}
    (hb : Clear b (l.text ++ r)) :
    runsAfter isWord b (l.text ++ r) =
      (l.place? b r).toList ++ runsAfter isWord (b ++ l.text) r := by
  cases h with
  | @word w hne hw hr =>
    -- a word that went on from `b` would not be clear of it
    have hl : b.getLast?.any isWord = false := by
      obtain ⟨c, w, rfl⟩ := List.exists_cons_of_ne_nil hne
      have hc : isWord c = true := hw c List.mem_cons_self
      by_contra hn
      have hh := hb.word (by simpa using hn)
      simp [text, hc] at hh
    exact runsAfter_append_run hne hw hl r
  | @tag n hne hn hr =>
    have ho : ∀ c ∈ [':', ':', ':'], isWord c = false := by decide
    have hl : (b ++ [':', ':', ':']).getLast?.any isWord = false := by
      rw [List.getLast?_append]
      exact (by decide : isWord ':' = false)
    have he : (Lexeme.tag n).text = [':', ':', ':'] ++ n := rfl
    rw [he, List.append_assoc, runsAfter_append_of_outside ho, runsAfter_append_run hne hn hl,
      List.append_assoc]
    rfl
  | @marker tip htip =>
    have ho : ∀ c ∈ (Lexeme.marker tip).text, isWord c = false := by
      rcases isTip_iff.1 htip with (rfl | rfl) | rfl <;> decide
    exact runsAfter_append_of_outside ho b r
  | @mark c hc _ _ =>
    have ho : ∀ d ∈ (Lexeme.mark c).text, isWord d = false := by simp [text, hc]
    exact runsAfter_append_of_outside ho b r

/-- The identifiers of words are not tagged. -/
theorem isTagged_word {b r w : Text} (h : Leads r (.word w)) (hb : Clear b (w ++ r)) :
    Facts.isTagged ⟨b, w ++ r⟩ = false := by
  cases h with
  | word hne hw hr =>
    obtain ⟨c, w, rfl⟩ := List.exists_cons_of_ne_nil hne
    rw [Facts.isTagged, Bool.eq_false_iff]
    intro ht
    -- the three colons would have been read as a tag together with the word
    have hs := hb.tag [':', ':', ':'] (List.isSuffixOf_iff_suffix.1 ht) (by simp) (by simp)
    have hc : isWord c = true := hw c List.mem_cons_self
    simp [startsTag, hc] at hs

theorem isTagged_tag (b r n : Text) : Facts.isTagged ⟨b ++ [':', ':', ':'], n ++ r⟩ = true :=
  List.isSuffixOf_iff_suffix.2 (List.suffix_append b _)

theorem filterMap_tagName? (t : Text) {b : Text} (hb : Clear b t) :
    (ofText t).filterMap tagName? =
      ((runsAfter isWord b t).filter Facts.isTagged).map (Place.run isWord) := by
  induction t using ofText_induction generalizing b with
  | nil => rfl
  | cons l r h ih =>
    rw [h.runsAfter_append hb, List.filter_append, List.map_append, ← ih (h.clear hb)]
    cases l with
    | tag n =>
      cases h with
      | tag hne hn hr =>
        have hp : (Place.mk (b ++ [':', ':', ':']) (n ++ r)).run isWord = n :=
          Place.run_append hn hr _
        simp [place?, tagName?, isTagged_tag, hp]
    | word w =>
      have ht := isTagged_word h hb
      rw [List.filterMap_cons_none rfl]
      simp [place?, ht]
    | marker tip => rfl
    | mark c => rfl

theorem startsWithWord_ofText (t : Text) :
    startsWithWord (ofText t) = (t.dropWhile Text.isBlank).head?.any isWord := by
  induction t using ofText_induction with
  | nil => rfl
  | cons l r h ih =>
    cases h with
    | word hne hw hr =>
      obtain ⟨c, w, rfl⟩ := List.exists_cons_of_ne_nil hne
      have hc : isWord c = true := hw c List.mem_cons_self
      simp [startsWithWord, text, hc, isBlank_eq_false_of_isWord hc]
    | tag hne hn hr => rfl
    | marker htip => rfl
    | @mark c hc _ _ =>
      cases hb : Text.isBlank c with
      | true => simp [startsWithWord, text, Lexeme.isBlank, hb, ih]
      | false => simp [startsWithWord, text, Lexeme.isBlank, hb, hc]

theorem namesNext_ofText (t : Text) : namesNext (ofText t) = Facts.isNamed t := by
  induction t using ofText_induction with
  | nil => rfl
  | cons l r h _ =>
    rw [namesNext, startsWithWord_ofText]
    cases h with
    | word hne hw hr =>
      obtain ⟨c, w, rfl⟩ := List.exists_cons_of_ne_nil hne
      have hc := isBlank_eq_false_of_isWord (hw c List.mem_cons_self)
      simp [Facts.isNamed, Lexeme.isBlank, text, hc]
    | tag hne hn hr => rfl
    | marker htip => rfl
    | @mark c hc _ _ =>
      cases hb : Text.isBlank c with
      | true => simp [Facts.isNamed, Lexeme.isBlank, text, hb]
      | false => simp [Facts.isNamed, Lexeme.isBlank, text, hb]

theorem countNamed_ofText {keyword : Text}
    (hk : ∀ k ∈ keyword, k.isLower = true ∧ k ≠ 'i' ∧ k ≠ 'k') (t : Text) {b : Text}
    (hb : Clear b t) :
    countNamed keyword (ofText t) = (runsAfter isWord b t).countP (Facts.declares keyword) := by
  induction t using ofText_induction generalizing b with
  | nil => rfl
  | cons l r h ih =>
    rw [h.runsAfter_append hb, List.countP_append, ← ih (h.clear hb)]
    cases l with
    | word w =>
      have ht := isTagged_word h hb
      cases h with
      | word hne hw hr =>
        have hd : Facts.declares keyword ⟨b, w ++ r⟩ = true ↔
            w.map Char.toLower = keyword ∧ namesNext (ofText r) = true := by
          rw [Facts.declares, ht, Place.run_append hw hr, Place.rest_append hw hr, namesNext_ofText,
            ← lower_eq_iff hk]
          simp
        rw [countNamed, place?, Option.toList_some, List.countP_singleton]
        simp only [hd]
    | tag n => simp [countNamed, place?, Facts.declares, isTagged_tag]
    | marker tip => exact (Nat.zero_add _).symm
    | mark c => exact (Nat.zero_add _).symm

end CaseChart.Lexeme

namespace CaseChart.Facts
open Text

theorem sum_markersAt (xs : List Place) :
    (xs.map fun x => markersAt x.after).sum = ((xs.map Place.after).map markersAt).sum := by
  rw [List.map_map]
  rfl

theorem markersOf_append_of_outside {w : Text} (hw : ∀ c ∈ w, isHyphen c = false) (t : Text) :
    markersOf (w ++ t) = markersOf t := by
  have hl : w.getLast?.any isHyphen = false := by
    cases h : w.getLast? with
    | none => rfl
    | some c => exact hw c (List.mem_of_getLast? h)
  have hm : (runsAfter isHyphen w t).map Place.after = (runsAfter isHyphen [] t).map Place.after :=
    map_after_runsAfter_congr fun _ _ _ => hl
  rw [markersOf, runs_eq_runsAfter, runsAfter_append_of_outside hw, sum_markersAt, List.nil_append,
    hm, ← runs_eq_runsAfter, ← sum_markersAt, markersOf]

theorem markersOf_replicate_append (n : Nat) {t : Text} (ht : ∀ c ∈ t.head?, isHyphen c = false) :
    markersOf (List.replicate n '-' ++ t) = markersIn n t + markersOf t := by
  have hw : ∀ c ∈ List.replicate n '-', isHyphen c = true := by
    intro c hc
    rw [List.eq_of_mem_replicate hc]
    rfl
  by_cases hn : n = 0
  · subst hn
    simp [markersIn]
  · have hne : List.replicate n '-' ≠ [] := by simpa using hn
    have ha : markersAt (List.replicate n '-' ++ t) = markersIn n t := by
      rw [markersAt, takeWhile_append_of_head hw ht, dropWhile_append_of_head hw ht,
        List.length_replicate]
    rw [markersOf, runs_eq_runsAfter, runsAfter_append_run hne hw rfl, List.map_cons, List.sum_cons,
      ha, sum_markersAt, map_after_runsAfter_of_head ht, ← sum_markersAt, markersOf]

theorem exists_replicate_append (t : Text) :
    ∃ n s, t = List.replicate n '-' ++ s ∧ ∀ c ∈ s.head?, isHyphen c = false := by
  refine ⟨(t.takeWhile isHyphen).length, t.dropWhile isHyphen, ?_,
    fun c hc => eq_false_of_mem_head?_dropWhile hc⟩
  have hh : ∀ c ∈ t.takeWhile isHyphen, c = '-' := by
    intro c hc
    have hp : isHyphen c = true := List.mem_takeWhile_imp hc
    exact beq_iff_eq.1 hp
  have hr : t.takeWhile isHyphen = List.replicate (t.takeWhile isHyphen).length '-' :=
    List.eq_replicate_iff.2 ⟨rfl, hh⟩
  rw [← hr, List.takeWhile_append_dropWhile]

theorem markersIn_add_three (n : Nat) (t : Text) : markersIn (n + 3) t = 1 + markersIn n t := by
  have hd : (n + 3) / 3 = n / 3 + 1 := by omega
  have hm : (n + 3) % 3 = n % 3 := by omega
  rw [markersIn, markersIn, hd, hm]
  omega

/-- Two hyphens without a tip, or one, are no marker. -/
theorem markersOf_hyphen_cons {r : Text} (h : Lexeme.startsMarker ('-' :: r) = false) :
    markersOf ('-' :: r) = markersOf r := by
  obtain ⟨n, s, rfl, hs⟩ := exists_replicate_append r
  have hc : '-' :: (List.replicate n '-' ++ s) = List.replicate (n + 1) '-' ++ s := rfl
  rw [hc, markersOf_replicate_append _ hs, markersOf_replicate_append _ hs]
  -- three hyphens would be a marker, so the run is at most two long
  match n with
  | 0 => simp [markersIn]
  | 1 =>
    have hh : ¬ (s.head? = some '>' ∨ s.head? = some '|') := by
      rintro (hh | hh)
      · obtain ⟨s', rfl⟩ := List.head?_eq_some_iff.1 hh
        exact absurd h (by simp [Lexeme.startsMarker, Lexeme.isTip])
      · obtain ⟨s', rfl⟩ := List.head?_eq_some_iff.1 hh
        exact absurd h (by simp [Lexeme.startsMarker, Lexeme.isTip])
    simp [markersIn, hh]
  | n + 2 => exact absurd h (by simp [Lexeme.startsMarker, Lexeme.isTip, List.replicate_succ])

theorem markersOf_tip_cons {tip : Char} (h : tip = '>' ∨ tip = '|') (r : Text) :
    markersOf ('-' :: '-' :: tip :: r) = 1 + markersOf r := by
  have ht : isHyphen tip = false := by rcases h with rfl | rfl <;> rfl
  have hc : '-' :: '-' :: tip :: r = List.replicate 2 '-' ++ tip :: r := rfl
  have ho : markersOf (tip :: r) = markersOf r :=
    markersOf_append_of_outside (w := [tip]) (by simpa using ht) r
  rw [hc, markersOf_replicate_append 2 (by simpa using ht), ho]
  simp [markersIn, h]

theorem isHyphen_eq_false_of_isWord {c : Char} (h : isWord c = true) : isHyphen c = false := by
  rw [isHyphen, beq_eq_false_iff_ne]
  rintro rfl
  exact absurd h (by decide)

/-- A marker takes as many hyphens as it counts for. -/
theorem markersOf_text_append {l : Lexeme} {r : Text} (h : Lexeme.Leads r l) :
    markersOf (l.text ++ r) = (if l.isMarker then 1 else 0) + markersOf r := by
  cases h with
  | word hne hw hr =>
    rw [Lexeme.text, markersOf_append_of_outside fun c hc => isHyphen_eq_false_of_isWord (hw c hc)]
    simp [Lexeme.isMarker]
  | @tag n hne hn hr =>
    have hcolons : ∀ c ∈ [':', ':', ':'], isHyphen c = false := by decide
    have ht : ∀ c ∈ (Lexeme.tag n).text, isHyphen c = false := by
      intro c hc
      rcases List.mem_append.1 (show c ∈ [':', ':', ':'] ++ n from hc) with hc | hc
      · exact hcolons c hc
      · exact isHyphen_eq_false_of_isWord (hn c hc)
    rw [markersOf_append_of_outside ht]
    simp [Lexeme.isMarker]
  | @marker tip htip =>
    rcases Lexeme.isTip_iff.1 htip with htip | rfl
    · exact markersOf_tip_cons htip r
    · -- three hyphens less in a run are one marker less, wherever the run ends
      obtain ⟨n, s, rfl, hs⟩ := exists_replicate_append r
      have hc : (Lexeme.marker '-').text ++ (List.replicate n '-' ++ s) =
        List.replicate (n + 3) '-' ++ s := rfl
      rw [hc, markersOf_replicate_append _ hs, markersOf_replicate_append _ hs, markersIn_add_three]
      exact Nat.add_assoc ..
  | @mark c hc ht hm =>
    by_cases hh : c = '-'
    · subst hh
      rw [Lexeme.text, List.singleton_append, markersOf_hyphen_cons hm]
      simp [Lexeme.isMarker]
    · rw [Lexeme.text, markersOf_append_of_outside (by simpa [isHyphen] using hh)]
      simp [Lexeme.isMarker]

theorem countP_isMarker_ofText (t : Text) :
    (Lexeme.ofText t).countP Lexeme.isMarker = markersOf t := by
  induction t using Lexeme.ofText_induction with
  | nil => rfl
  | cons l r h ih => rw [markersOf_text_append h, List.countP_cons, ih, Nat.add_comm]

/-- A character that only a mark can be stands in no other lexeme. -/
theorem not_mem_text {l : Lexeme} {r : Text} (h : Lexeme.Leads r l) {c : Char}
    (hw : isWord c = false) (hc : c ∉ [':', '-', '>', '|']) (hl : l ≠ .mark c) : c ∉ l.text := by
  intro hm
  cases h with
  | word hne hall hr => exact absurd (hall c hm) (by simp [hw])
  | tag hne hall hr =>
    simp only [Lexeme.text, List.mem_cons] at hm
    rcases hm with rfl | rfl | rfl | hm
    · simp at hc
    · simp at hc
    · simp at hc
    · exact absurd (hall c hm) (by simp [hw])
  | @marker tip htip =>
    simp only [Lexeme.text, List.mem_cons, List.not_mem_nil, or_false] at hm
    rcases hm with rfl | rfl | rfl
    · simp at hc
    · simp at hc
    · rcases Lexeme.isTip_iff.1 htip with (rfl | rfl) | rfl <;> simp at hc
  | mark => exact hl (by rw [List.mem_singleton.1 hm])

theorem count_mark_ofText {c : Char} (hw : isWord c = false) (hc : c ∉ [':', '-', '>', '|'])
    (t : Text) : (Lexeme.ofText t).count (.mark c) = t.count c := by
  induction t using Lexeme.ofText_induction with
  | nil => rfl
  | cons l r h ih =>
    rw [List.count_append, ← ih, List.count_cons]
    by_cases hl : l = .mark c
    · simp [hl, Lexeme.text, Nat.add_comm]
    · rw [List.count_eq_zero_of_not_mem (not_mem_text h hw hc hl)]
      simp [hl]

theorem isBlankText_text {l : Lexeme} {r : Text} (h : Lexeme.Leads r l) :
    isBlankText l.text = l.isBlank := by
  cases h with
  | word hne hw hr =>
    obtain ⟨c, w, rfl⟩ := List.exists_cons_of_ne_nil hne
    have hb := isBlank_eq_false_of_isWord (hw c List.mem_cons_self)
    simp [isBlankText, Lexeme.text, Lexeme.isBlank, hb]
  | tag => rfl
  | marker => rfl
  | mark => simp [isBlankText, Lexeme.text, Lexeme.isBlank]

theorem labelEnds_append {w : Text} (hw : ∀ c ∈ w, isInside c = true) (seen : Bool) (t : Text) :
    labelEnds seen (w ++ t) = labelEnds (seen || !isBlankText w) t := by
  rw [labelEnds, List.dropWhile_append_of_pos hw, List.takeWhile_append_of_pos hw, isBlankText,
    List.all_append, Bool.not_and, ← Bool.or_assoc]
  rfl

theorem countP_isLabel_append {w : Text} (hw : '[' ∉ w) (t : Text) :
    (w ++ t).tails.countP isLabel = t.tails.countP isLabel := by
  induction w with
  | nil => rfl
  | cons c w ih =>
    have hl : isLabel (c :: (w ++ t)) = false := by
      rw [isLabel.eq_def]
      split
      · next he =>
        rw [(List.cons.inj he).1] at hw
        exact absurd List.mem_cons_self hw
      · rfl
    rw [List.cons_append, List.tails_cons, List.countP_cons_of_neg (by simp [hl]),
      ih fun h => hw (List.mem_cons_of_mem c h)]

/-- What a label that is open already adds to those that open in `t`. -/
def pending (label : Option Bool) (t : Text) : Nat := if label.any (labelEnds · t) then 1 else 0

/-- Reading on with a label open counts the labels to come, and this one if it gets closed. -/
theorem countLabels_ofText (label : Option Bool) (t : Text) :
    Lexeme.countLabels label (Lexeme.ofText t) = t.tails.countP isLabel + pending label t := by
  induction t using Lexeme.ofText_induction generalizing label with
  | nil => cases label <;> rfl
  | cons l r h ih =>
    rw [Lexeme.countLabels]
    split
    · -- a label that was open is given up
      next hl =>
      subst hl
      have hp : pending label ('[' :: r) = 0 := by
        cases label <;> rfl
      have ht : (Lexeme.mark '[').text ++ r = '[' :: r := rfl
      rw [ih, ht, hp, List.tails_cons, List.countP_cons]
      rfl
    · split
      · next hl =>
        subst hl
        have ht : (Lexeme.mark ']').text ++ r = [']'] ++ r := rfl
        have hp : pending label ([']'] ++ r) = if label = some true then 1 else 0 := by
          cases label with
          | none => rfl
          | some seen => simp [pending, labelEnds, isInside, isBlankText]
        rw [ih, ht, countP_isLabel_append (by decide), hp, Nat.add_comm]
        rfl
      · next ho hcl =>
        -- no bracket in this lexeme: an open label stays open, and may have become visible
        have hno : '[' ∉ l.text := not_mem_text h (by decide) (by decide) ho
        have hnc : ']' ∉ l.text := not_mem_text h (by decide) (by decide) hcl
        have hin : ∀ c ∈ l.text, isInside c = true := by
          intro c hc
          rw [isInside_iff]
          constructor
          · rintro rfl
            exact hno hc
          · rintro rfl
            exact hnc hc
        rw [ih, countP_isLabel_append hno]
        cases label with
        | none => rfl
        | some seen => simp [pending, labelEnds_append hin, isBlankText_text h]

theorem lower_letters_subgraph :
    ∀ k ∈ "subgraph".toList, k.isLower = true ∧ k ≠ 'i' ∧ k ≠ 'k' := by decide +kernel

theorem lower_letters_classdef :
    ∀ k ∈ "classdef".toList, k.isLower = true ∧ k ≠ 'i' ∧ k ≠ 'k' := by decide +kernel

theorem tags_eq_observed (t : Text) : (ofText t).tags = (observed t).tags := by
  rw [observed, runs_eq_runsAfter]
  exact Lexeme.filterMap_tagName? t (Lexeme.clear_nil t)

theorem opens_eq_count (t : Text) : (ofText t).opens = t.count '[' :=
  count_mark_ofText (by decide) (by decide) t

theorem closes_eq_count (t : Text) : (ofText t).closes = t.count ']' :=
  count_mark_ofText (by decide) (by decide) t

theorem labels_eq_countP (t : Text) : (ofText t).labels = t.tails.countP isLabel :=
  countLabels_ofText none t

/-- The facts that are counted in one pass are those that can be seen in the text. -/
theorem ofText_eq_observed (t : Text) : ofText t = observed t := by
  have hc := Lexeme.clear_nil t
  rw [ofText, ofLexemes, observed, Lexeme.filterMap_tagName? t hc, countP_isMarker_ofText,
    count_mark_ofText (by decide) (by decide), count_mark_ofText (by decide) (by decide),
    countLabels_ofText, Lexeme.countNamed_ofText lower_letters_subgraph t hc,
    Lexeme.countNamed_ofText lower_letters_classdef t hc, ← runs_eq_runsAfter]
  rfl

end CaseChart.Facts
