import CaseChart.Proofs.Publication.Calendar
import CaseChart.Proofs.Publication.Payload
import CaseChart.Publication.Gate

namespace CaseChart
open Text

namespace Publication

theorem prepare_of_errors {chart : Option Text}
    (h : (Chart.validate (chart.getD [])).errors ≠ []) (name : Option Text) (now : Moment) :
    prepare chart name now =
      .error (Cause.invalidChart (Chart.validate (chart.getD [])).errors).fault := by
  have hv : (Chart.validate (chart.getD [])).isValid = false :=
    Bool.eq_false_iff.2 fun hv => h (List.isEmpty_iff.1 hv)
  rw [prepare]
  simp only [hv, Bool.false_eq_true, if_false]

theorem prepare_of_valid {chart : Option Text}
    (h : (Chart.validate (chart.getD [])).errors = []) (name : Option Text) (now : Moment) :
    prepare chart name now = Payload.build (chart.getD []) name now := by
  have hv : (Chart.validate (chart.getD [])).isValid = true := List.isEmpty_iff.2 h
  rw [prepare]
  simp only [hv, if_true]

/-- Only valid charts are prepared, in files of their own. -/
theorem prepare_eq_ok_iff {chart name : Option Text} {now : Moment} {p : Payload} :
    prepare chart name now = .ok p ↔ (Chart.validate (chart.getD [])).errors = [] ∧
      Payload.build (chart.getD []) name now = .ok p := by
  by_cases h : (Chart.validate (chart.getD [])).errors = []
  · rw [prepare_of_valid h]
    exact ⟨fun hp => ⟨h, hp⟩, fun hp => hp.2⟩
  · rw [prepare_of_errors h]
    exact iff_of_false nofun fun hp => h hp.1

theorem publish_of_prepare_ok {chart name : Option Text} {now : Moment} {p : Payload}
    (h : prepare chart name now = .ok p) (publisher : Payload → Outcome) :
    publish chart name publisher now = ⟨.ok (publisher p), [p]⟩ := by
  rw [publish, h]

theorem publish_of_prepare_error {chart name : Option Text} {now : Moment} {f : Fault}
    (h : prepare chart name now = .error f) (publisher : Payload → Outcome) :
    publish chart name publisher now = ⟨.error f, []⟩ := by
  rw [publish, h]

theorem refusal_invalidChart {errors : List String} (h : errors ≠ []) :
    (Cause.invalidChart errors).refusal =
      ⟨.chart, "Diagram failed validation and cannot be published",
        [("errors", .texts errors)], errors⟩ := by
  rw [Cause.refusal, Refusal.ofChart, Refusal.listErrors, if_neg (by simpa using h)]
  rfl

/-- A valid chart with a proper name is handed to the publisher, once and unchanged between its
fences, at a moment that the calendar has in UTC; its outcome is returned as it is. All else is
refused without calling the publisher: an invalid chart for its errors, in their order, then a blank
name, then the moment. -/
theorem publish_gate (chart name : Option Text) (publisher : Payload → Outcome) (now : Moment) :
    let t := chart.getD []
    let errors := (Chart.validate t).errors
    let dated := ∃ u, Moment.IsUtcOf u now ∧ u.date.year ≤ 9999
    let attempt := publish chart name publisher now
    (errors = [] ∧ Payload.Named name ∧ dated →
      ∃ p, attempt = ⟨.ok (publisher p), [p]⟩ ∧
        p.content = "```mermaid\n".toList ++ t ++ "\n```".toList) ∧
    (errors ≠ [] → ∃ f, attempt = ⟨.error f, []⟩ ∧ f.name = "DiagramRejectedError" ∧
      f = .refusal ⟨.chart, "Diagram failed validation and cannot be published",
        [("errors", .texts errors)], errors⟩) ∧
    (errors = [] ∧ ¬ Payload.Named name →
      ∃ f, attempt = ⟨.error f, []⟩ ∧ f.name = "InvalidArgumentError" ∧
        f = .refusal ⟨.argument, "file_name must not be empty",
          [("argument", .text "file_name")], []⟩) ∧
    (errors = [] ∧ Payload.Named name ∧ ¬ dated →
      ∃ f, attempt = ⟨.error f, []⟩ ∧ f.name = "OverflowError" ∧ f = .momentOutOfRange) := by
  intro t errors dated attempt
  have hdated : dated ↔ now.instant?.isSome = true := (Moment.isSome_instant?_iff now).symm
  refine ⟨?_, ?_, ?_, ?_⟩
  · rintro ⟨herrors, hname, hmoment⟩
    obtain ⟨p, hp, hcontent⟩ := Payload.exists_build_eq_ok hname (hdated.1 hmoment) t
    exact ⟨p, publish_of_prepare_ok (prepare_eq_ok_iff.2 ⟨herrors, hp⟩) publisher, hcontent⟩
  · intro herrors
    refine ⟨_, publish_of_prepare_error (prepare_of_errors herrors name now) publisher, ?_⟩
    rw [Cause.fault, refusal_invalidChart herrors]
    exact ⟨rfl, rfl⟩
  · rintro ⟨herrors, hname⟩
    have hprepare := prepare_of_valid herrors name now
    rw [Payload.build_of_not_named hname] at hprepare
    exact ⟨_, publish_of_prepare_error hprepare publisher, rfl, rfl⟩
  · rintro ⟨herrors, hname, hmoment⟩
    have hprepare := prepare_of_valid herrors name now
    have hnone : now.instant? = none := by
      rwa [hdated, Option.isSome_iff_ne_none, not_ne_iff] at hmoment
    rw [Payload.build_of_instant?_eq_none hname hnone] at hprepare
    exact ⟨_, publish_of_prepare_error hprepare publisher, rfl, rfl⟩

end Publication
end CaseChart
