import CaseChart.Proofs.Text.Trim
import CaseChart.Publication.Payload

namespace CaseChart.Payload
open Text

def Named (name : Option Text) : Prop := ∃ n ∈ name, ∃ c ∈ n, isBlank c = false

/-- A file is made exactly for a name that is not blank and a moment that the calendar has
in UTC. -/
theorem build_eq_ok_iff {chart : Text} {name : Option Text} {now : Moment} {p : Payload} :
    build chart name now = .ok p ↔ ∃ n instant, name = some n ∧ isBlankText n = false ∧
      now.instant? = some instant ∧ p = ⟨pathFor (trim n) instant, fenced chart,
        "Add legal entity extraction diagram: ".toList ++ trim n⟩ := by
  constructor
  · intro h
    cases name with
    | none => cases h
    | some n =>
      rw [build] at h
      split at h
      · cases h
      · next hn =>
        split at h
        · cases h
        · next instant hi => exact ⟨n, instant, rfl, by simpa using hn, hi, by cases h; rfl⟩
  · rintro ⟨n, instant, rfl, hn, hi, rfl⟩
    simp only [build, hn, hi]
    rfl

/-- The name is judged before the moment. -/
theorem build_of_not_named {name : Option Text} (h : ¬ Named name) (chart : Text) (now : Moment) :
    build chart name now = .error Cause.blankFileName.fault := by
  cases name with
  | none => rfl
  | some n =>
    have hn : isBlankText n = true := by
      rw [← Bool.not_eq_false, isBlankText_eq_false_iff]
      exact fun hc => h ⟨n, rfl, hc⟩
    rw [build, if_pos hn]

theorem build_of_instant?_eq_none {name : Option Text} (h : Named name) {now : Moment}
    (hi : now.instant? = none) (chart : Text) :
    build chart name now = .error .momentOutOfRange := by
  obtain ⟨n, rfl, hn⟩ := h
  rw [build, if_neg (by rw [isBlankText_eq_false_iff.2 hn]; exact Bool.false_ne_true), hi]

theorem exists_build_eq_ok {name : Option Text} (h : Named name) {now : Moment}
    (hi : now.instant?.isSome = true) (chart : Text) :
    ∃ p, build chart name now = .ok p ∧ p.content = fenced chart := by
  obtain ⟨n, rfl, hn⟩ := h
  obtain ⟨instant, hi⟩ := Option.isSome_iff_exists.1 hi
  exact ⟨_, build_eq_ok_iff.2 ⟨n, instant, rfl, isBlankText_eq_false_iff.2 hn, hi, rfl⟩, rfl⟩

end CaseChart.Payload
