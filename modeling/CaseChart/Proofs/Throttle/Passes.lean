import CaseChart.Throttle.Pruning
import CaseChart.Proofs.Throttle.Run
import Mathlib.Algebra.Order.Group.Int
import Mathlib.Algebra.Order.Monoid.Unbundled.Pow

namespace CaseChart

namespace Limiter

section LastOpened

variable {T : Type}

def lastOpened (as : List (Answered T)) : Option (Answered T) := (as.filter (·.opened)).getLast?

theorem lastOpened_cons_of_opened {a : Answered T} (h : a.opened = true) (as : List (Answered T)) :
    lastOpened (a :: as) = (lastOpened as).or (some a) := by
  rw [lastOpened, List.filter_cons_of_pos h, List.getLast?_cons, lastOpened]
  cases (as.filter (·.opened)).getLast? <;> rfl

theorem lastOpened_cons_of_within {a : Answered T} (h : a.opened = false)
    (as : List (Answered T)) : lastOpened (a :: as) = lastOpened as := by
  rw [lastOpened, List.filter_cons_of_neg (by simp [h]), lastOpened]

theorem mem_of_lastOpened {as : List (Answered T)} {a : Answered T} (h : lastOpened as = some a) :
    a ∈ as := (List.mem_filter.1 (List.mem_of_getLast? h)).1

theorem mem_of_mem_calls {c : Call T} {es : List (Event T)} (h : c ∈ calls es) :
    .call c ∈ es := by
  obtain ⟨e, he, hc⟩ := List.mem_filterMap.1 h
  cases e with
  | call d =>
    cases hc
    exact he
  | prune now => cases hc

variable [LinearOrder T]

def ahead (t : T) (r? : Option T) : Option T := r?.filter fun r => t ≤ r

theorem ahead_eq_some_iff {t r : T} {r? : Option T} :
    ahead t r? = some r ↔ r? = some r ∧ t ≤ r := by
  rw [ahead, Option.filter_eq_some_iff, decide_eq_true_eq]

theorem map_reset_live (now : T) (w? : Option (Window T)) :
    (live now w?).map (·.reset) = ahead now (w?.map (·.reset)) := by
  cases w? with
  | none => rfl
  | some w =>
    rw [live_some, Option.map_some, ahead, Option.filter_some]
    by_cases hover : w.reset < now
    · rw [if_pos hover, if_neg (by simpa using hover), Option.map_none]
    · rw [if_neg hover, if_pos (by simpa using hover), Option.map_some]

theorem ahead_or_ahead {now t : T} (h : now ≤ t) (r? s? : Option T) :
    ahead t (r?.or (ahead now s?)) = ahead t (r?.or s?) := by
  cases r? with
  | none =>
    ext r
    rw [Option.none_or, Option.none_or, ahead_eq_some_iff, ahead_eq_some_iff, ahead_eq_some_iff]
    exact ⟨fun hr => ⟨hr.1.1, hr.2⟩, fun hr => ⟨⟨hr.1, h.trans hr.2⟩, hr.2⟩⟩
  | some r => rfl

variable [Add T]

def Answered.ends (a : Answered T) : T := a.call.now + a.call.span

/-- Of the reset times ahead, that of the window which a run leaves to a key is that of the last
window which the key opened, or else of the one it had before. -/
theorem ahead_reset_foldl_leave {key : String} {es : List (Event T)} {t : T}
    (ht : ∀ e ∈ es, e.now ≤ t) (w? : Option (Window T)) :
    ahead t ((es.foldl (Event.leave key) w?).map (·.reset)) =
      ahead t (((lastOpened (logOf key w? es)).map Answered.ends).or (w?.map (·.reset))) := by
  induction es generalizing w? with
  | nil => rfl
  | cons e es ih =>
    have hrest := ih fun f hf => ht f (List.mem_cons_of_mem e hf)
    rw [List.foldl_cons, hrest]
    cases e with
    | call c =>
      rw [logOf, Event.leave]
      by_cases hkey : c.key = key
      · rw [if_pos hkey, if_pos hkey]
        cases hlive : live c.now w? with
        | none =>
          have hopened : (c.answered w?).opened = true := by
            rw [Call.answered, hlive]
            rfl
          rw [lastOpened_cons_of_opened hopened]
          cases lastOpened (logOf key (some (c.leave none)) es) <;> rfl
        | some w =>
          have hwithin : (c.answered w?).opened = false := by
            rw [Call.answered, hlive]
            rfl
          rw [lastOpened_cons_of_within hwithin, Option.map_some, c.reset_leave_some w,
            (live_eq_some_iff.1 hlive).1, Option.map_some]
      · rw [if_neg hkey, if_neg hkey]
    | prune now =>
      rw [Event.leave, logOf, map_reset_live]
      exact ahead_or_ahead (ht _ List.mem_cons_self) _ _

end LastOpened

section Pass

variable {T : Type} [LinearOrder T]

theorem prune_snd (m : Limiter T) (now : T) :
    (m.prune now).2 = m.filter fun e => now ≤ e.2.reset := by
  refine List.filter_congr fun e _ => ?_
  rw [isOver, ← decide_not, decide_eq_decide, not_lt]

theorem length_prune_snd (m : Limiter T) (now : T) :
    (m.prune now).2.length = m.countP fun e => now ≤ e.2.reset := by
  rw [prune_snd, List.countP_eq_length_filter]

/-- A pass loses none of the windows that end later. -/
theorem countP_prune_snd {now t : T} (h : now ≤ t) (m : Limiter T) :
    (m.prune now).2.countP (fun e => t ≤ e.2.reset) = m.countP fun e => t ≤ e.2.reset := by
  rw [prune_snd, List.countP_filter]
  refine List.countP_congr fun e _ => ?_
  rw [Bool.and_eq_true, decide_eq_true_eq, decide_eq_true_eq]
  exact ⟨fun he => he.1, fun he => ⟨he, h.trans he⟩⟩

variable [Add T]

theorem after_append_prune (m : Limiter T) (es : List (Event T)) (now : T) :
    m.after (es ++ [.prune now]) = ((m.after es).prune now).2 := after_append m es _

/-- A key has a window after a pass exactly if the last window that it opened is not over. -/
theorem exists_get?_iff_lastOpened {past : List (Event T)} {now : T}
    (hnow : ∀ e ∈ past, e.now ≤ now) (key : String) (reset : T) :
    (∃ w, Entries.get? key (after [] (past ++ [.prune now])) = some w ∧ w.reset = reset) ↔
      ∃ a, lastOpened (callsOf key (log [] past)) = some a ∧ a.ends = reset ∧ now ≤ reset := by
  have hleft : (Entries.get? key (after [] (past ++ [.prune now]))).map (·.reset) =
      ahead now ((lastOpened (callsOf key (log [] past))).map Answered.ends) := by
    rw [after_append_prune, get?_prune (distinct_after Entries.distinct_nil past), map_reset_live,
      get?_after Entries.distinct_nil, ahead_reset_foldl_leave hnow, callsOf_log_nil]
    exact congrArg (ahead now) (Option.or_none ..)
  rw [← Option.map_eq_some_iff, hleft, ahead_eq_some_iff, Option.map_eq_some_iff]
  simp only [← and_assoc, exists_and_right]

/-- With windows of one span, these are the windows that were opened within the last span. -/
theorem exists_get?_iff_opened {past : List (Event T)} {now span : T}
    (hnow : ∀ e ∈ past, e.now ≤ now) {key : String}
    (hspan : ∀ c ∈ calls past, c.key = key → c.span = span) (reset : T) :
    (∃ w, Entries.get? key (after [] (past ++ [.prune now])) = some w ∧ w.reset = reset) ↔
      ∃ a, lastOpened (callsOf key (log [] past)) = some a ∧ a.call.now + span = reset ∧
        a.call.now ≤ now ∧ now ≤ a.call.now + span := by
  rw [exists_get?_iff_lastOpened hnow]
  refine exists_congr fun a => and_congr_right fun ha => ?_
  have hmem : a ∈ logOf key none past := callsOf_log_nil key past ▸ mem_of_lastOpened ha
  obtain ⟨c, hc, hkey, v?, rfl⟩ := exists_of_mem_logOf a hmem
  have hends : (c.answered v?).ends = c.now + span := by rw [← hspan c hc hkey]; rfl
  have hpast : c.now ≤ now := hnow _ (mem_of_mem_calls hc)
  rw [hends]
  constructor
  · rintro ⟨rfl, hahead⟩
    exact ⟨rfl, hpast, hahead⟩
  · rintro ⟨rfl, -, hahead⟩
    exact ⟨rfl, hahead⟩

end Pass

end Limiter

namespace Pruning

open Limiter

variable {T : Type} [AddCommGroup T]

def ticks (start interval : T) (passes : Nat) : List (Event T) :=
  (List.range passes).map fun k => .prune (start + (k + 1) • interval)

theorem ticks_succ (start interval : T) (passes : Nat) :
    ticks start interval (passes + 1) =
      .prune (start + interval) :: ticks (start + interval) interval passes := by
  rw [ticks, List.range_succ_eq_map, List.map_cons, List.map_map, Nat.zero_add, one_nsmul, ticks]
  refine congrArg _ (List.map_congr_left fun k _ => ?_)
  rw [Function.comp_apply, Nat.succ_eq_add_one, succ_nsmul' interval (k + 1), add_assoc]

variable [LinearOrder T]

/-- What waiting and pruning leaves is what the passes leave as events of a run. -/
theorem limiter_run (m : Limiter T) (start interval : T) (passes : Nat) :
    (run m start interval passes).limiter = m.after (ticks start interval passes) := by
  induction passes generalizing m start with
  | zero => rfl
  | succ passes ih =>
    rw [run, ticks_succ]
    exact ih (m.prune (start + interval)).2 (start + interval)

theorem sizes_getElem?_zero (m : Limiter T) (start interval : T) (passes : Nat) :
    (run m start interval passes).sizes[0]? = some m.length := by
  cases passes <;> rfl

variable [IsOrderedAddMonoid T]

theorem sizes_run {interval : T} (h : 0 ≤ interval) (m : Limiter T) (start : T) (passes : Nat) :
    (run m start interval passes).sizes =
      m.length :: (List.range passes).map fun k =>
        m.countP fun e => start + (k + 1) • interval ≤ e.2.reset := by
  induction passes generalizing m start with
  | zero => rfl
  | succ passes ih =>
    have hlater (k : Nat) : start + interval + (k + 1) • interval = start + (k + 2) • interval := by
      rw [succ_nsmul' interval (k + 1), add_assoc]
    have hafter (k : Nat) : start + interval ≤ start + (k + 2) • interval := by
      rw [← hlater k]
      exact le_add_of_nonneg_right (nsmul_nonneg h (k + 1))
    have hrest := ih (m.prune (start + interval)).2 (start + interval)
    rw [length_prune_snd] at hrest
    simp only [hlater, countP_prune_snd (hafter _)] at hrest
    rw [List.range_succ_eq_map, List.map_cons, List.map_map, Nat.zero_add, one_nsmul]
    exact congrArg (m.length :: ·) hrest

theorem ordered_append_ticks {es : List (Event T)} (hes : Ordered es) {start interval : T}
    (hstart : ∀ e ∈ es, e.now ≤ start) (h : 0 ≤ interval) (passes : Nat) :
    Ordered (es ++ ticks start interval passes) := by
  have hnow (k : Nat) : start ≤ start + (k + 1) • interval :=
    le_add_of_nonneg_right (nsmul_nonneg h (k + 1))
  refine List.pairwise_append.2 ⟨hes, ?_, ?_⟩
  · refine List.pairwise_map.2 ((List.pairwise_lt_range).imp fun hlt => ?_)
    exact add_le_add_right (nsmul_le_nsmul_left h (by omega)) start
  · intro e he f hf
    obtain ⟨k, -, rfl⟩ := List.mem_map.1 hf
    exact (hstart e he).trans (hnow k)

theorem sizes_getElem? {interval : T} (h : 0 ≤ interval) (m : Limiter T) (start : T)
    {k passes : Nat} (hk : 1 ≤ k) (hpasses : k ≤ passes) :
    (run m start interval passes).sizes[k]? =
      some (m.countP fun e => start + k • interval ≤ e.2.reset) := by
  obtain ⟨k, rfl⟩ := Nat.exists_eq_add_of_le' hk
  rw [sizes_run h, List.getElem?_cons_succ, List.getElem?_map, List.getElem?_range hpasses]
  rfl

/-- A pass leaves exactly the windows that are not over, as they are, and tells how many others
there were; what a key has left is the last window that it opened, if that was within the last span.
Passes at an interval are such passes. Before each wait but the first they have left the windows
that the last one of them alone would leave; the first wait finds all windows, also those that are
over by then. -/
theorem passes_leave_last_opened (es : List (Event T)) (hes : Ordered es) {span : T}
    (hspan : ∀ c ∈ calls es, c.span = span) :
    (∀ past now future, es = past ++ .prune now :: future →
      let table := after [] past
      let left := after [] (past ++ [.prune now])
      left = table.filter (fun e => now ≤ e.2.reset) ∧
        (table.prune now).1 + left.length = table.length ∧
        ∀ key reset, (∃ w, Entries.get? key left = some w ∧ w.reset = reset) ↔
          ∃ a, lastOpened (callsOf key (log [] past)) = some a ∧ a.call.now + span = reset ∧
            a.call.now ≤ now ∧ now ≤ a.call.now + span) ∧
    ∀ start interval passes, (∀ e ∈ es, e.now ≤ start) → 0 ≤ interval →
      let table := after [] es
      let seen := run table start interval passes
      (Ordered (es ++ ticks start interval passes) ∧
          seen.limiter = after [] (es ++ ticks start interval passes)) ∧
        (∀ k, 1 ≤ k → k ≤ passes →
          seen.sizes[k]? = some (table.countP fun e => start + k • interval ≤ e.2.reset)) ∧
        seen.sizes[0]? = some table.length ∧
        (table.length = table.countP (fun e => start ≤ e.2.reset) ↔
          ∀ e ∈ table, start ≤ e.2.reset) := by
  constructor
  · rintro past now future rfl table left
    have hleft : left = (table.prune now).2 := after_append_prune [] past now
    have hnow : ∀ e ∈ past, e.now ≤ now := fun e he =>
      (List.pairwise_append.1 hes).2.2 e he _ List.mem_cons_self
    have hpast : ∀ c ∈ calls past, c.span = span := fun c hc =>
      hspan c (List.mem_filterMap.2 ⟨_, List.mem_append_left _ (mem_of_mem_calls hc), rfl⟩)
    refine ⟨hleft ▸ prune_snd table now, hleft ▸ length_prune table now, fun key reset => ?_⟩
    exact exists_get?_iff_opened hnow (fun c hc _ => hpast c hc) reset
  · intro start interval passes hstart hinterval table seen
    refine ⟨⟨ordered_append_ticks hes hstart hinterval passes, ?_⟩,
      fun k hk hpasses => sizes_getElem? hinterval table start hk hpasses,
      sizes_getElem?_zero table start interval passes, ?_⟩
    · rw [after_append]
      exact limiter_run table start interval passes
    · rw [eq_comm, List.countP_eq_length]
      simp only [decide_eq_true_eq]

/-- A pass at a reset time, and one right after it; then passes at an interval, the first of which
comes at the reset time of a window. -/
theorem passes_leave_last_opened_boundary :
    let es : List (Event Int) :=
      [.call ⟨0, "a", 1, 10⟩, .call ⟨3, "b", 2, 10⟩, .prune 10, .call ⟨10, "b", 2, 10⟩, .prune 11,
        .call ⟨12, "c", 1, 10⟩]
    let table := after [] es
    let seen := run table 12 1 2
    (Ordered es ∧ (∀ c ∈ calls es, c.span = 10) ∧ ∀ e ∈ es, e.now ≤ 12) ∧
      (∃ w, Entries.get? "a" (after [] (es.take 3)) = some w ∧ w.reset = 10) ∧
      (¬∃ w, Entries.get? "a" (after [] (es.take 5)) = some w ∧ w.reset = 10) ∧
      seen.sizes[1]? = some (table.countP fun e => 12 + 1 • 1 ≤ e.2.reset) ∧
      seen.sizes = [2, 2, 1] := by
  intro es table seen
  have hes : Ordered es := by decide
  have hspan : ∀ c ∈ calls es, c.span = 10 := by decide
  have hstart : ∀ e ∈ es, e.now ≤ 12 := by decide
  obtain ⟨hpass, hloop⟩ := passes_leave_last_opened es hes hspan
  obtain ⟨-, -, hat⟩ := hpass (es.take 2) 10 (es.drop 3) rfl
  obtain ⟨-, -, hlater⟩ := hpass (es.take 4) 11 (es.drop 5) rfl
  obtain ⟨-, hsizes, -, -⟩ := hloop 12 1 2 hstart (by decide)
  refine ⟨⟨hes, hspan, hstart⟩, ?_, ?_, hsizes 1 le_rfl (by decide), by decide⟩
  · exact (hat "a" 10).2 ⟨_, rfl, by decide, by decide, by decide⟩
  · rintro hleft
    obtain ⟨a, -, hreset, -, hahead⟩ := (hlater "a" 10).1 hleft
    omega

/-- The first wait of passes at an interval finds a window that was over long before. -/
theorem sizes_of_stale_table :
    let es : List (Event Int) := [.call ⟨0, "a", 1, 10⟩]
    let table := after [] es
    (Ordered es ∧ (∀ c ∈ calls es, c.span = 10) ∧ ∀ e ∈ es, e.now ≤ 100) ∧
      (run table 100 5 1).sizes = [1, 0] ∧
      (table.countP fun e => 100 + 0 • 5 ≤ e.2.reset) = 0 := by
  decide

end Pruning
end CaseChart
