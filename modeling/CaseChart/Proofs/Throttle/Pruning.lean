import CaseChart.Proofs.Throttle.Run
import Mathlib.Data.Int.Order.Basic

namespace CaseChart.Limiter

variable {T : Type} [Preorder T] [DecidableLT T]

theorem live_live {t u : T} (h : t ≤ u) (w? : Option (Window T)) :
    live u (live t w?) = live u w? := by
  cases w? with
  | none => rfl
  | some w =>
    rw [live_some]
    by_cases hover : w.reset < t
    · rw [if_pos hover, live_none, live_some, if_pos (lt_of_lt_of_le hover h)]
    · rw [if_neg hover]

/-- Tables that have the same live windows at a time. -/
def Agree (now : T) (m n : Limiter T) : Prop :=
  ∀ key, live now (Entries.get? key m) = live now (Entries.get? key n)

theorem Agree.mono {t u : T} {m n : Limiter T} (h : Agree t m n) (htu : t ≤ u) : Agree u m n := by
  intro key
  rw [← live_live htu, h key, live_live htu]

theorem agree_prune {m : Limiter T} (hm : Entries.Distinct m) (now : T) :
    Agree now (m.prune now).2 m := by
  intro key
  rw [get?_prune hm, live_live le_rfl]

theorem Agree.prune {m n : Limiter T} (hm : Entries.Distinct m) (hn : Entries.Distinct n) {now : T}
    (h : Agree now m n) : Agree now (m.prune now).2 (n.prune now).2 := by
  intro key
  rw [agree_prune hm, agree_prune hn, h key]

variable [Add T]

theorem Agree.call_fst {c : Call T} {m n : Limiter T} (h : Agree c.now m n) :
    (m.call c).1 = (n.call c).1 := by
  rw [(call_eq m c).1, (call_eq n c).1, h c.key]

theorem Agree.call_snd {c : Call T} {m n : Limiter T} (h : Agree c.now m n) :
    Agree c.now (m.call c).2 (n.call c).2 := by
  intro key
  rw [get?_call, get?_call, h c.key]
  split
  · rfl
  · exact h key

theorem Agree.log_eq {now : T} {m n : Limiter T} (h : Agree now m n) (hm : Entries.Distinct m)
    (hn : Entries.Distinct n) {es : List (Event T)} (hes : Ordered es)
    (hnow : ∀ e ∈ es, now ≤ e.now) : m.log es = n.log es := by
  induction es generalizing now m n with
  | nil => rfl
  | cons e es ih =>
    obtain ⟨hfirst, hrest⟩ := List.pairwise_cons.1 hes
    have he : Agree e.now m n := h.mono (hnow e List.mem_cons_self)
    cases e with
    | call c =>
      have hc : Agree c.now m n := he
      have htail := ih hc.call_snd (distinct_call hm c) (distinct_call hn c) hrest hfirst
      rw [log, log, htail, hc.call_fst, hc c.key]
    | prune now =>
      exact ih (he.prune hm hn) (distinct_prune hm now) (distinct_prune hn now) hrest hfirst

theorem log_calls {m : Limiter T} (hm : Entries.Distinct m) {es : List (Event T)}
    (hes : Ordered es) : m.log ((calls es).map .call) = m.log es := by
  induction es generalizing m with
  | nil => rfl
  | cons e es ih =>
    obtain ⟨hfirst, hrest⟩ := List.pairwise_cons.1 hes
    cases e with
    | call c => rw [calls_cons_call, List.map_cons, log, log, ih (distinct_call hm c) hrest]
    | prune now =>
      rw [calls_cons_prune, ih hm hrest, log]
      exact ((agree_prune hm now).log_eq (distinct_prune hm now) hm hrest hfirst).symm

/-- Prunings may be left out, all of them or some, and others put in: while the clock does not go
back, only the calls tell the answers. -/
theorem log_congr_calls (es : List (Event T)) (hes : Ordered es) :
    log [] ((calls es).map .call) = log [] es ∧
      ∀ fs, Ordered fs → calls fs = calls es → log [] fs = log [] es := by
  have hcalls := log_calls Entries.distinct_nil hes
  refine ⟨hcalls, ?_⟩
  intro fs hfs hsame
  rw [← hcalls, ← log_calls Entries.distinct_nil hfs, hsame]

/-- Prunings at the reset time of a window and right after it. -/
theorem log_congr_calls_boundary :
    let es : List (Event Int) :=
      [.call ⟨0, "a", 1, 10⟩, .prune 3, .call ⟨10, "a", 1, 10⟩, .call ⟨11, "a", 1, -5⟩,
        .call ⟨11, "a", 2, 10⟩]
    let fs : List (Event Int) :=
      [.call ⟨0, "a", 1, 10⟩, .prune 10, .call ⟨10, "a", 1, 10⟩, .prune 11,
        .call ⟨11, "a", 1, -5⟩, .prune 11, .call ⟨11, "a", 2, 10⟩]
    (Ordered es ∧ Ordered fs ∧ calls fs = calls es) ∧ log [] fs = log [] es ∧
      (log [] es).map (·.decision) =
        [⟨true, 0, 10⟩, ⟨false, 0, 10⟩, ⟨true, 0, 6⟩, ⟨true, 1, 21⟩] := by
  intro es fs
  have hes : Ordered es := by decide
  have hfs : Ordered fs := by decide
  obtain ⟨-, hsame⟩ := log_congr_calls es hes
  exact ⟨⟨hes, hfs, rfl⟩, hsame fs hfs rfl, rfl⟩

end CaseChart.Limiter
