import CaseChart.Proofs.Chart.Facts
import CaseChart.Proofs.Chart.Verdict

namespace CaseChart
open Text

namespace Facts

/-- Brackets with something visible, and no bracket, between them. -/
def HasLabel (t : Text) : Prop :=
  ∃ before inside after, t = before ++ '[' :: (inside ++ ']' :: after) ∧
    (∀ c ∈ inside, c ≠ '[' ∧ c ≠ ']') ∧ isBlankText inside = false

theorem labels_pos_iff {t : Text} : 0 < (ofText t).labels ↔ HasLabel t := by
  rw [labels_eq_countP, List.countP_pos_iff]
  constructor
  · rintro ⟨s, hs, hlabel⟩
    obtain ⟨before, rfl⟩ := (List.mem_tails _ _).1 hs
    obtain ⟨inside, after, rfl, hinside⟩ := isLabel_iff.1 hlabel
    exact ⟨before, inside, after, rfl, hinside⟩
  · rintro ⟨before, inside, after, rfl, hinside⟩
    refine ⟨'[' :: (inside ++ ']' :: after), ?_, isLabel_iff.2 ⟨inside, after, rfl, hinside⟩⟩
    exact (List.mem_tails _ _).2 (List.suffix_append _ _)

instance (t : Text) : Decidable (HasLabel t) := decidable_of_iff _ labels_pos_iff

end Facts

namespace Chart
open Facts

/-- The flaws of a text, when `unknown` are the tags in it that name no category. -/
def flawsSeen (t : Text) (unknown : List Text) : List Flaw :=
  if isBlankText t then [.empty] else
    (if Header.ofChart? t = none then [.noHeader] else []) ++ unknown.map .unknownCategory ++
      (if HasLabel t then [] else [.noEntities]) ++
      (if t.count '[' = t.count ']' then [] else [.unbalanced])

/-- Trimming a chart does not change what is judged in it. -/
theorem flaws_eq_flawsSeen (t : Text) : flaws t = flawsSeen t (unknownTags (observed t)) := by
  have hunknown : unknownTags (ofText t) = unknownTags (observed t) := by
    rw [unknownTags, tags_eq_observed, unknownTags]
  have hheader : ((Header.ofChart? (trim t)).isNone = true) = (Header.ofChart? t = none) := by
    rw [Option.isNone_iff_eq_none, Header.ofChart?_trim_eq_none_iff]
  have hentities : ((ofText t).labels = 0) = ¬ HasLabel t := by
    rw [← labels_pos_iff, Nat.pos_iff_ne_zero, not_ne_iff]
  have hbalanced : ((ofText t).balanced = true) = (t.count '[' = t.count ']') := by
    rw [balanced, beq_iff_eq, opens_eq_count, closes_eq_count]
  rw [flaws, flawsSeen]
  simp only [ofText_trim, hunknown, hheader, hentities, hbalanced, ite_not]

theorem nodup_flawsSeen {unknown : List Text} (h : unknown.Nodup) (t : Text) :
    (flawsSeen t unknown).Nodup := by
  have hmap : (unknown.map Flaw.unknownCategory).Nodup :=
    h.map fun m n hmn => Flaw.unknownCategory.inj hmn
  unfold flawsSeen
  split
  · exact List.nodup_singleton _
  · split <;> split <;> split <;> simp [List.nodup_append, hmap]

/-- A chart, or none at all, is reported for what can be seen in its text: for being blank and
nothing else, or else for lacking a declaration, for each distinct tag that names no category in the
order in which they appear first, for lacking a label, and for its brackets. Nothing else makes it
invalid. -/
theorem validate_of_text (chart : Option Text) :
    let t := chart.getD []
    let tags := (observed t).tags
    let verdict := validate t
    ∃ unknown : List Text, unknown.Nodup ∧
      (∀ n, n ∈ unknown ↔ n ∈ tags ∧ n ∉ Category.names) ∧
      unknown.Pairwise (fun m n => tags.idxOf m < tags.idxOf n) ∧
      verdict.errors = (flawsSeen t unknown).map Flaw.message ∧ verdict.errors.Nodup ∧
      (isBlankText t = true → verdict.warnings = []) ∧
      (verdict.isValid = true ↔ flawsSeen t unknown = []) := by
  intro t tags verdict
  have hnodup : (unknownTags (observed t)).Nodup := nodup_firsts _
  have herrors : verdict.errors = (flawsSeen t (unknownTags (observed t))).map Flaw.message :=
    congrArg (List.map Flaw.message) (flaws_eq_flawsSeen t)
  refine ⟨unknownTags (observed t), hnodup, fun n => ?_, ?_, herrors, ?_, fun hb => ?_, ?_⟩
  · rw [mem_unknownTags_iff, Category.ofName?_eq_none_iff]
  · -- taking out the known tags leaves the others in their order
    have hfirsts : unknownTags (observed t) =
        (firsts tags).filter fun n => (Category.ofName? (String.ofList n)).isNone :=
      firstsOn_filter id (fun n : Text => (Category.ofName? (String.ofList n)).isNone) tags
    rw [hfirsts]
    exact (pairwise_idxOf_firsts tags).sublist List.filter_sublist
  · rw [herrors]
    exact (nodup_flawsSeen hnodup t).map Flaw.message_injective
  · change (hints t).map Hint.message = []
    rw [hints, if_pos hb, List.map_nil]
  · rw [Verdict.isValid, List.isEmpty_iff, herrors, List.map_eq_nil_iff]

end Chart
end CaseChart
