import CaseChart.Proofs.Chart.Content

namespace CaseChart
open Text

namespace Lexeme

/-- A label that is open at the start can only add to the labels to come. -/
theorem countLabels_none_le (label : Option Bool) (ls : List Lexeme) :
    countLabels none ls ≤ countLabels label ls := by
  induction ls generalizing label with
  | nil => exact Nat.le_refl 0
  | cons l ls ih =>
    rw [countLabels, countLabels]
    split
    · exact Nat.le_refl _
    · split
      · rw [if_neg (by simp), Nat.zero_add]
        exact Nat.le_add_left _ _
      · exact ih _

theorem countLabels_le_append_left (label : Option Bool) (as bs : List Lexeme) :
    countLabels label as ≤ countLabels label (as ++ bs) := by
  induction as generalizing label with
  | nil => exact Nat.zero_le _
  | cons l as ih =>
    rw [List.cons_append, countLabels, countLabels]
    split
    · exact ih _
    · split
      · exact Nat.add_le_add_left (ih none) _
      · exact ih _

theorem countLabels_le_append_right (label : Option Bool) (as bs : List Lexeme) :
    countLabels none bs ≤ countLabels label (as ++ bs) := by
  induction as generalizing label with
  | nil => exact countLabels_none_le label bs
  | cons l as ih =>
    rw [List.cons_append, countLabels]
    split
    · exact ih _
    · split
      · exact (ih none).trans (Nat.le_add_left _ _)
      · exact ih _

end Lexeme

namespace Facts

theorem labels_le {s t : Text} {as bs : List Lexeme}
    (h : Lexeme.visible t = as ++ (Lexeme.visible s ++ bs)) :
    (ofText s).labels ≤ (ofText t).labels := by
  rw [labels_ofText, labels_ofText, h]
  exact (Lexeme.countLabels_le_append_left none _ bs).trans
    (Lexeme.countLabels_le_append_right none as _)

theorem balanced_of_content {t : Text} {ts : List Text}
    (h : Lexeme.content t = ts.flatMap Lexeme.content)
    (hts : ∀ s ∈ ts, (ofText s).balanced = true) : (ofText t).balanced = true := by
  obtain ⟨-, -, hopens, hcloses⟩ := sum_of_content h
  rw [balanced, beq_iff_eq, hopens, hcloses]
  have hmap : (ts.map fun s => (ofText s).opens) = ts.map fun s => (ofText s).closes :=
    List.map_congr_left fun s hs => beq_iff_eq.1 (hts s hs)
  rw [hmap]

end Facts

/-- All that counts in a part stands on lines of the chart. -/
theorem Piece.From.exists_content {ls : List Line} (h : ∀ l ∈ ls, l = Line.ofText l.source)
    {p : Piece} (hp : From ls p) {t : Text} (ht : p.text? = some t) :
    ∃ ms ⊆ ls, Lexeme.content t = (ms.map Line.source).flatMap Lexeme.content := by
  cases hp with
  | @group l n body hl hb hn hc =>
    refine ⟨l :: body, List.cons_subset.2 ⟨hl, hb⟩, ?_⟩
    have hsource : l = Line.ofText l.source := h l hl
    rw [← Option.some.inj ht, hsource, Group.content_text_blockOf, List.map_cons,
      List.flatMap_cons, List.flatMap_map]
    rfl
  | unterminated hl hn => exact absurd ht (by simp [text?])
  | @relationship l hl hs =>
    refine ⟨[l], List.cons_subset.2 ⟨hl, List.nil_subset _⟩, ?_⟩
    rw [← Option.some.inj ht, Line.content_statement (h l hl)]
    simp
  | @style l hl hs =>
    refine ⟨[l], List.cons_subset.2 ⟨hl, List.nil_subset _⟩, ?_⟩
    rw [← Option.some.inj ht, Line.content_statement (h l hl)]
    simp

theorem Sections.balanced_of_mem_texts {d t : Text} (ht : t ∈ (ofChart d).texts)
    (hd : ∀ l ∈ lines d, (Facts.ofText l).balanced = true) : (Facts.ofText t).balanced = true := by
  obtain ⟨p, hp, hpt⟩ := List.mem_filterMap.1 ((texts_ofPieces_perm _).subset ht)
  have hread : ∀ l ∈ linesOf d, l = Line.ofText l.source := fun l hl => (exists_of_mem_linesOf hl).2
  obtain ⟨ms, hms, hc⟩ := (Piece.from_of_mem_ofLines hp).exists_content hread hpt
  apply Facts.balanced_of_content hc
  intro s hs
  obtain ⟨l, hl, rfl⟩ := List.mem_map.1 hs
  obtain ⟨x, hx, rfl⟩ := List.mem_map.1 (hms hl)
  exact hd x hx

namespace Merged

theorem balanced_of_mem_texts {ds : List Text} {t : Text} (ht : t ∈ (ofCharts ds).texts)
    (hds : ∀ d ∈ ds, ∀ l ∈ lines d, (Facts.ofText l).balanced = true) :
    (Facts.ofText t).balanced = true := by
  obtain ⟨d, hd, htd⟩ := List.mem_flatMap.1 ((texts_ofCharts_subperm ds).subset ht)
  exact Sections.balanced_of_mem_texts htd (hds d hd)

/-- A label in a part that is kept is a label of the merge. -/
theorem labels_le_labels_text {m : Merged} {t : Text} (ht : t ∈ m.texts) :
    (Facts.ofText t).labels ≤ (Facts.ofText m.text).labels := by
  obtain ⟨us, vs, hu⟩ := List.append_of_mem ht
  have hvisible : Lexeme.visible m.text =
      (Lexeme.visible m.header.line ++ us.flatMap Lexeme.visible) ++
        (Lexeme.visible t ++ vs.flatMap Lexeme.visible) := by
    rw [visible_text, hu, List.flatMap_append, List.flatMap_cons, List.append_assoc]
  exact Facts.labels_le hvisible

end Merged

namespace Chart

theorem isValid_iff {t : Text} : (validate t).isValid = true ↔ ∀ f : Flaw, ¬ f.In t := by
  rw [Verdict.isValid, List.isEmpty_iff, validate, List.map_eq_nil_iff,
    List.eq_nil_iff_forall_not_mem]
  simp only [mem_flaws_iff]

/-- A merge of valid charts can have two flaws only: no label is left in it, or the parts that it
keeps open and close a different number of brackets. -/
theorem validate_merge (ds : List Text) (hds : 2 ≤ ds.length)
    (hvalid : ∀ d ∈ ds, (validate d).isValid = true) :
    let errors := (validate (merge ds)).errors
    let kept := (Merged.ofCharts ds).texts
    (∀ e ∈ errors, e = Flaw.noEntities.message ∨ e = Flaw.unbalanced.message) ∧
      (Flaw.noEntities.message ∈ errors ↔ (Facts.ofText (merge ds)).labels = 0) ∧
      (Flaw.unbalanced.message ∈ errors ↔
        (kept.map fun p => (Facts.ofText p).opens).sum ≠
          (kept.map fun p => (Facts.ofText p).closes).sum) ∧
      ((∃ p ∈ kept, (Facts.ofText p).labels ≠ 0) →
        (∀ p ∈ kept, (Facts.ofText p).balanced = true) → (validate (merge ds)).isValid = true) ∧
      ((∀ d ∈ ds, ∀ l ∈ lines d, (Facts.ofText l).balanced = true) →
        ∀ p ∈ kept, (Facts.ofText p).balanced = true) := by
  intro errors kept
  have hmerge : merge ds = (Merged.ofCharts ds).text := merge_of_two_le hds
  have hcontent : Lexeme.content (merge ds) = kept.flatMap Lexeme.content := by
    rw [hmerge, Merged.content_text_ofCharts]
  have htwo : ∀ f : Flaw, f.In (merge ds) → f = .noEntities ∨ f = .unbalanced := by
    intro f hf
    rcases flaw_in_merge hds hf with ⟨n, hn, d, hd, hfd⟩ | h
    · exact absurd hfd (isValid_iff.1 (hvalid d hd) f)
    · exact h
  refine ⟨?_, ?_, ?_, ?_, ?_⟩
  · intro e he
    obtain ⟨f, hf, rfl⟩ := List.mem_map.1 he
    rcases htwo f (mem_flaws_iff.1 hf) with rfl | rfl
    · exact .inl rfl
    · exact .inr rfl
  · rw [mem_errors_iff]
    exact and_iff_right (isBlankText_merge hds)
  · obtain ⟨-, -, hopens, hcloses⟩ := Facts.sum_of_content hcontent
    rw [mem_errors_iff, ← hopens, ← hcloses]
    rfl
  · rintro ⟨p, hp, hlabels⟩ hbalanced
    rw [isValid_iff]
    intro f hf
    rcases htwo f hf with rfl | rfl
    · have hle : (Facts.ofText p).labels ≤ (Facts.ofText (merge ds)).labels :=
        hmerge ▸ Merged.labels_le_labels_text hp
      have hzero : (Facts.ofText (merge ds)).labels = 0 := hf.2
      omega
    · exact hf (beq_iff_eq.1 (Facts.balanced_of_content hcontent hbalanced))
  · intro hlines p hp
    exact Merged.balanced_of_mem_texts hp hlines

/-- A label on a relationship line keeps a merge valid, although both sources lose a node. -/
theorem validate_merge_label :
    let ds := ["graph TD\na[A]\nb[B] --> c".toList, "flowchart LR; x[X]\nsubgraph g\nend".toList]
    (2 ≤ ds.length ∧ ∀ d ∈ ds, (validate d).isValid = true) ∧
      (validate (merge ds)).isValid = true := by
  intro ds
  have hvalid : ∀ d ∈ ds, (validate d).isValid = true := by decide +kernel
  obtain ⟨-, -, -, hmerge, hlines⟩ := validate_merge ds (by decide) hvalid
  refine ⟨⟨by decide, hvalid⟩, hmerge ?_ (hlines ?_)⟩
  · decide +kernel
  · decide +kernel

/-- A node on a line of its own is dropped, and with it the only label there was. -/
theorem validate_merge_dropped_nodes :
    ¬ ∀ ds : List Text, 2 ≤ ds.length → (∀ d ∈ ds, (validate d).isValid = true) →
      (validate (merge ds)).isValid = true := by
  intro h
  have hm := h ["graph TD\na[A]".toList, "graph TD\na[A]".toList] (by decide) (by decide +kernel)
  exact absurd hm (by decide +kernel)

end Chart
end CaseChart
