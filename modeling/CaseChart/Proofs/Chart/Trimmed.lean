import CaseChart.Proofs.Chart.Remerge

namespace CaseChart
open Text

namespace Header

/-- A statement that is trimmed and has no declaration in front. -/
def Free (s : Text) : Prop := trim s = s ∧ read? s = none

instance (s : Text) : Decidable (Free s) := inferInstanceAs (Decidable (_ ∧ _))

theorem Free.strip_trim {s : Text} (h : Free s) : strip (trim s) = s := by
  rw [h.1, strip_of_read?_eq_none h.2]

/-- A declaration that was cut off does not come back by cutting, so what cutting leaves alone is
free. -/
theorem free_iff {s : Text} : Free s ↔ strip (trim s) = s := by
  constructor
  · exact Free.strip_trim
  · intro h
    cases hr : read? (trim s) with
    | none =>
      have ht : trim s = s := by rwa [strip_of_read?_eq_none hr] at h
      exact ⟨ht, ht ▸ hr⟩
    | some d =>
      have hlt := length_strip_lt hr
      have hle := (trim_sublist s).length_le
      rw [h] at hlt
      omega

end Header

namespace Line

/-- A line with nothing but a statement behind its declaration and the blanks, tabs and semicolons
after it: no other white space, no second declaration. -/
def Clean (l : Text) : Prop :=
  ∀ d ∈ Header.read? (trim l),
    let s := d.rest.dropWhile fun c => isTabOrSpace c || c == ';'
    trimLeft s = s ∧ Header.read? s = none

instance (l : Text) : Decidable (Clean l) :=
  inferInstanceAs (Decidable (∀ d ∈ Header.read? (trim l), _ ∧ _))

theorem clean_iff {l : Text} : Clean l ↔ Header.Free (ofText l).content := by
  have hright := Header.trimRight_strip_trim l
  rw [content_ofText]
  unfold Clean
  cases hr : Header.read? (trim l) with
  | none =>
    have hfree : Header.Free (trim l) := ⟨trim_trim l, hr⟩
    rw [Header.strip_of_read?_eq_none hr]
    exact iff_of_true (by simp) hfree
  | some d =>
    have hs : Header.strip (trim l) = d.rest.dropWhile fun c => isTabOrSpace c || c == ';' := by
      rw [Header.strip, hr]
    rw [hs] at hright ⊢
    simp only [Option.mem_some_iff, forall_eq', Header.Free, trimLeft_eq_self_iff hright]

end Line

namespace Sections

theorem exists_line_of_mem_relationships {d r : Text} (h : r ∈ (ofChart d).relationships) :
    ∃ l ∈ lines d, r = (Line.ofText l).content := by
  have hfrom := Piece.from_of_mem_ofLines (relationship_mem_iff.1 h)
  cases hfrom with
  | @relationship x hx hs =>
    obtain ⟨l, hl, rfl⟩ := List.mem_map.1 hx
    exact ⟨l, hl, rfl⟩

theorem free_of_mem_styles {d s : Text} (h : s ∈ (ofChart d).styles) : Header.Free s :=
  Header.free_iff.2 (stands_of_mem_styles h).strip_trim

theorem free_of_mem_relationships {d r : Text} (hd : ∀ l ∈ lines d, Line.Clean l)
    (h : r ∈ (ofChart d).relationships) : Header.Free r := by
  obtain ⟨l, hl, rfl⟩ := exists_line_of_mem_relationships h
  exact Line.clean_iff.1 (hd l hl)

end Sections

namespace Merged

theorem Settled.free_relationships {m : Merged} (h : m.Settled) :
    ∀ r ∈ m.relationships, Header.Free r :=
  fun r hr => Header.free_iff.2 (h.relationships r hr).strip_trim

theorem Settled.free_styles {m : Merged} (h : m.Settled) : ∀ s ∈ m.styles, Header.Free s :=
  fun s hs => Header.free_iff.2 (h.styles s hs).strip_trim

end Merged

/-- Texts that are trimmed differ in more than the white space around them. -/
theorem Text.pairwise_trim_ne {ts : List Text} (h : ∀ t ∈ ts, trim t = t) (hd : ts.Nodup) :
    ts.Pairwise fun s t => trim s ≠ trim t := by
  apply List.Pairwise.imp_of_mem _ hd
  intro s t hs ht hne
  rwa [h s hs, h t ht]

namespace Chart

/-- Styles are trimmed and free of declarations, and a relationship is so exactly if the line that
it stands on is clean. The relationships that a merge of clean charts keeps differ in more than the
white space around them, and no statement of the merge has a declaration in front. -/
theorem statements_free (ds : List Text) :
    (∀ d ∈ ds, (∀ s ∈ (Sections.ofChart d).styles, Header.Free s) ∧
        ∀ r ∈ (Sections.ofChart d).relationships, trimRight r = r ∧
          ∃ l ∈ lines d, r = (Line.ofText l).content ∧ (Header.Free r ↔ Line.Clean l)) ∧
      ((∀ d ∈ ds, ∀ l ∈ lines d, Line.Clean l) →
        (∀ d ∈ ds, ∀ r ∈ (Sections.ofChart d).relationships, Header.Free r) ∧
          (2 ≤ ds.length →
            let kept := Merged.ofCharts ds
            let merged := Sections.ofChart (merge ds)
            merged.relationships = kept.relationships ∧ merged.styles = kept.styles ∧
              (merged.relationships.Pairwise fun r s => trim r ≠ trim s) ∧
              ∀ s ∈ merged.relationships ++ merged.styles, Header.Free s)) := by
  constructor
  · intro d _
    refine ⟨fun s hs => Sections.free_of_mem_styles hs, ?_⟩
    intro r hr
    obtain ⟨l, hl, rfl⟩ := Sections.exists_line_of_mem_relationships hr
    exact ⟨Header.trimRight_strip_trim l, l, hl, rfl, Line.clean_iff.symm⟩
  · intro hclean
    have hfree : ∀ d ∈ ds, ∀ r ∈ (Sections.ofChart d).relationships, Header.Free r :=
      fun d hd r hr => Sections.free_of_mem_relationships (hclean d hd) hr
    refine ⟨hfree, ?_⟩
    intro hds kept merged
    have hkept : kept.Settled :=
      Merged.settled_ofCharts fun d hd r hr => (hfree d hd r hr).strip_trim
    have hsections : merged = ⟨kept.groups, kept.relationships, kept.styles, []⟩ := by
      have hm : merge ds = kept.text := merge_of_two_le hds
      rw [← hkept.sections_text, ← hm]
    have hnodup : kept.relationships.Nodup := by
      have h := nodup_map_firstsOn id (ds.flatMap fun d => (Sections.ofChart d).relationships)
      rwa [List.map_id, ← firsts, ← Merged.relationships_ofCharts] at h
    rw [hsections]
    refine ⟨rfl, rfl, ?_, ?_⟩
    · exact pairwise_trim_ne (fun r hr => (hkept.free_relationships r hr).1) hnodup
    · intro s hs
      rcases List.mem_append.1 hs with hs | hs
      · exact hkept.free_relationships s hs
      · exact hkept.free_styles s hs

/-- Clean lines with white space around them, and a declaration in front of one. -/
theorem statements_free_padded :
    let ds := ["graph TD;; a --> b".toList, "\u00a0a --> b\u2003\n\tclassDef c d ".toList]
    (2 ≤ ds.length ∧ ∀ d ∈ ds, ∀ l ∈ lines d, Line.Clean l) ∧
      (Sections.ofChart (merge ds)).relationships = ["a --> b".toList] ∧
      ((Sections.ofChart (merge ds)).relationships.Pairwise fun r s => trim r ≠ trim s) ∧
      ∀ s ∈ (Sections.ofChart (merge ds)).styles, Header.Free s := by
  intro ds
  have hclean : ∀ d ∈ ds, ∀ l ∈ lines d, Line.Clean l := by decide +kernel
  obtain ⟨-, h⟩ := statements_free ds
  obtain ⟨-, hmerged⟩ := h hclean
  obtain ⟨hrelationships, -, hpairwise, hfree⟩ := hmerged (by decide)
  refine ⟨⟨by decide, hclean⟩, hrelationships.trans ?_, hpairwise, ?_⟩
  · decide +kernel
  · exact fun s hs => hfree s (List.mem_append_right _ hs)

/-- White space other than blanks and tabs, or a second declaration, stays behind the declaration
that is cut off. The merge then keeps two relationships that differ in white space only. -/
theorem statements_not_free :
    let kept := (Merged.ofCharts ["graph TD\u00a0a --> b".toList, "a --> b".toList]).relationships
    (¬ ∀ d : Text, ∀ r ∈ (Sections.ofChart d).relationships, trim r = r) ∧
      (¬ ∀ d : Text, ∀ r ∈ (Sections.ofChart d).relationships, Header.read? r = none) ∧
      kept = ["\u00a0a --> b".toList, "a --> b".toList] ∧
      ¬ kept.Pairwise fun r s => trim r ≠ trim s := by
  intro kept
  have hkept : kept = ["\u00a0a --> b".toList, "a --> b".toList] := by decide +kernel
  refine ⟨?_, ?_, hkept, ?_⟩
  · intro h
    have hr := h "graph TD\u00a0a --> b".toList "\u00a0a --> b".toList (by decide +kernel)
    exact absurd hr (by decide +kernel)
  · intro h
    have hr := h "graph TD graph LR; a --> b".toList "graph LR; a --> b".toList (by decide +kernel)
    exact absurd hr (by decide +kernel)
  · rw [hkept]
    decide +kernel

end Chart
end CaseChart
