import CaseChart.Throttle.Admission
import CaseChart.Proofs.Throttle.Pruning
import Mathlib.Data.Rat.Floor

namespace CaseChart

namespace Limiter

variable {T : Type} [Preorder T] [DecidableLT T] [Add T]

/-- What other callers do leaves a window live, or lets it be dropped when it is over. -/
theorem live_foldl_leave {key : String} {es : List (Event T)}
    (hothers : ∀ c ∈ calls es, c.key ≠ key) {t : T} (ht : ∀ e ∈ es, e.now ≤ t)
    (w? : Option (Window T)) :
    live t (es.foldl (Event.leave key) w?) = live t w? := by
  induction es generalizing w? with
  | nil => rfl
  | cons e es ih =>
    have hrest : ∀ c ∈ calls es, c.key ≠ key := fun c hc => hothers c (mem_calls_cons hc e)
    rw [List.foldl_cons, ih hrest fun f hf => ht f (List.mem_cons_of_mem _ hf)]
    cases e with
    | call c => rw [Event.leave, if_neg (hothers c List.mem_cons_self)]
    | prune now => exact live_live (ht _ List.mem_cons_self) w?

theorem live_get?_after {m : Limiter T} (hm : Entries.Distinct m) {key : String}
    {es : List (Event T)} (hothers : ∀ c ∈ calls es, c.key ≠ key) {t : T}
    (ht : ∀ e ∈ es, e.now ≤ t) :
    live t (Entries.get? key (m.after es)) = live t (Entries.get? key m) := by
  rw [get?_after hm, live_foldl_leave hothers ht]

/-- A caller that is refused is admitted again exactly when its window is over. -/
theorem allowed_iff_of_refused {m : Limiter T} (hm : Entries.Distinct m) {c d : Call T}
    (hrefused : (m.call c).1.allowed = false) {others : List (Event T)}
    (hothers : ∀ e ∈ calls others, e.key ≠ c.key) (hclock : ∀ e ∈ others, e.now ≤ d.now)
    (hkey : d.key = c.key) (hlimit : d.limit = c.limit) :
    (((m.call c).2.after others).call d).1.allowed = true ↔ (m.call c).1.reset < d.now := by
  obtain ⟨w, hw, hfull, hreset⟩ := exists_of_refused hrefused
  have hlive := live_get?_after hm hothers hclock
  rw [(live_eq_some_iff.1 hw).1, live_some] at hlive
  rw [call_of_refused hrefused, (call_eq _ d).1, hkey, hlive, hreset]
  by_cases hover : w.reset < d.now
  · rw [if_pos hover]
    exact iff_of_true rfl hover
  · rw [if_neg hover, Call.answer_full (hlimit ▸ hfull)]
    exact iff_of_false Bool.false_ne_true hover

end Limiter

namespace Admission

open Limiter

deriving instance DecidableEq for Refused

section Enforce

variable {T : Type} [Add T] [Sub T] [LT T] [DecidableLT T] [WholeSeconds T]

/-- All that a request has of the limiter is one call of its host. -/
theorem enforce_eq (m : Limiter T) (now : T) (host : Option String) (limit : Int)
    (span later : T) :
    enforce m now host limit span later =
      let answer := m.call ⟨now, keyOf host, limit, span⟩
      (if answer.1.allowed then .ok answer.1 else .error ⟨wait later answer.1.reset, answer.1⟩,
        answer.2) := rfl

theorem enforce_eq_error {m : Limiter T} {now later span : T} {host : Option String} {limit : Int}
    {r : Refused T} (h : (enforce m now host limit span later).1 = .error r) :
    (m.call ⟨now, keyOf host, limit, span⟩).1.allowed = false ∧
      r = ⟨wait later (m.call ⟨now, keyOf host, limit, span⟩).1.reset,
        (m.call ⟨now, keyOf host, limit, span⟩).1⟩ := by
  rw [enforce_eq] at h
  dsimp only at h
  split at h
  · cases h
  · next hrefused =>
    cases h
    exact ⟨Bool.not_eq_true _ ▸ hrefused, rfl⟩

theorem exists_enforce_eq_ok_iff {m : Limiter T} {now later span : T} {host : Option String}
    {limit : Int} :
    (∃ d, (enforce m now host limit span later).1 = .ok d) ↔
      (m.call ⟨now, keyOf host, limit, span⟩).1.allowed = true := by
  rw [enforce_eq]
  dsimp only
  split
  · next hallowed => exact ⟨fun _ => hallowed, fun _ => ⟨_, rfl⟩⟩
  · next hrefused =>
    constructor
    · rintro ⟨d, hd⟩
      cases hd
    · exact fun hallowed => absurd hallowed hrefused

end Enforce

/-- In exact times there is always a wait, and it reaches the reset time. -/
theorem exists_wait (now reset : ℚ) :
    ∃ n : Int, wait now reset = .ok n ∧ 0 ≤ n ∧ reset ≤ now + n := by
  refine ⟨max 0 (reset - now).ceil, rfl, le_max_left _ _, ?_⟩
  have hceil : reset - now ≤ ((reset - now).ceil : ℚ) := Rat.le_ceil
  have hmax : ((reset - now).ceil : ℚ) ≤ (max 0 (reset - now).ceil : Int) :=
    Int.cast_le.2 (le_max_right _ _)
  linarith

/-- Whoever is refused is told a number of seconds. After these, whatever other callers have done,
the next request is admitted unless it comes at the very moment that was told and the window ends at
that moment. -/
theorem enforce_after_wait (past : List (Event ℚ)) (host : Option String) (limit : Int)
    (span now later : ℚ) {r : Refused ℚ}
    (hrefused : (enforce (after [] past) now host limit span later).1 = .error r) :
    ∃ n : Int, r.seconds = .ok n ∧ 0 ≤ n ∧
      ∀ (others : List (Event ℚ)) (t later' : ℚ), (∀ c ∈ calls others, c.key ≠ keyOf host) →
        (∀ e ∈ others, e.now ≤ t) → later + n ≤ t →
          let m := (enforce (after [] past) now host limit span later).2
          (∃ d, (enforce (m.after others) t host limit span later').1 = .ok d) ↔
            later + n < t ∨ r.decision.reset ≠ later + n := by
  obtain ⟨hallowed, rfl⟩ := enforce_eq_error hrefused
  obtain ⟨n, hwait, hnonneg, hend⟩ :=
    exists_wait later ((after [] past).call ⟨now, keyOf host, limit, span⟩).1.reset
  refine ⟨n, hwait, hnonneg, ?_⟩
  intro others t later' hothers hclock ht m
  have hadmitted := allowed_iff_of_refused (distinct_after Entries.distinct_nil past) hallowed
    (d := ⟨t, keyOf host, limit, span⟩) hothers hclock rfl rfl
  refine exists_enforce_eq_ok_iff.trans (hadmitted.trans ?_)
  dsimp only
  constructor
  · intro hover
    rcases eq_or_lt_of_le ht with heq | hlt
    · exact Or.inr (ne_of_lt (heq ▸ hover))
    · exact Or.inl hlt
  · rintro (hlt | hne)
    · exact lt_of_le_of_lt hend hlt
    · exact lt_of_lt_of_le (lt_of_le_of_ne hend hne) ht

/-- A window that has half a second left when its caller is refused. -/
theorem enforce_after_wait_half_second :
    let past : List (Event ℚ) := [.call ⟨0, "a", 1, 60⟩, .call ⟨3, "b", 1, 60⟩, .prune 30]
    let others : List (Event ℚ) := [.call ⟨60, "b", 1, 60⟩, .prune 60]
    let refused := enforce (after [] past) (59 + 1 / 2) (some "a") 1 60
    refused.1 = .error ⟨.ok 1, ⟨false, 0, 60⟩⟩ ∧ (∀ c ∈ calls others, c.key ≠ "a") ∧
      (∀ e ∈ others, e.now ≤ 60 + 1 / 2) ∧
      ∃ d, (enforce (refused.2.after others) (60 + 1 / 2) (some "a") 1 60).1 = .ok d := by
  intro past others refused
  have hrefused : refused.1 = .error ⟨.ok 1, ⟨false, 0, 60⟩⟩ := by decide +kernel
  have hothers : ∀ c ∈ calls others, c.key ≠ "a" := by decide
  have hclock : ∀ e ∈ others, e.now ≤ 60 + 1 / 2 := by decide +kernel
  refine ⟨hrefused, hothers, hclock, ?_⟩
  obtain ⟨n, hn, -, hadmitted⟩ := enforce_after_wait past (some "a") 1 60 _ _ hrefused
  obtain rfl : 1 = n := Except.ok.inj hn
  exact (hadmitted others _ _ hothers hclock (by norm_num)).2 (Or.inr (by norm_num))

/-- At the reset time itself a window is not over. A caller that is refused with a whole number of
seconds left, and waits for these, is refused again, and then told to wait for none. -/
theorem enforce_refused_after_wait :
    let past : List (Event ℚ) := [.call ⟨0, "a", 1, 60⟩]
    let refused := enforce (after [] past) 0 (some "a") 1 60
    refused.1 = .error ⟨.ok 60, ⟨false, 0, 60⟩⟩ ∧
      (enforce refused.2 60 (some "a") 1 60).1 = .error ⟨.ok 0, ⟨false, 0, 60⟩⟩ := by
  dsimp only
  constructor
  · decide +kernel
  · decide +kernel

end Admission
end CaseChart
