import CaseChart.Proofs.Throttle.Openings

namespace CaseChart

def Decision.nth {T : Type} (limit : Int) (reset : T) (n : Nat) : Decision T :=
  if n < limit then ⟨true, limit - 1 - n, reset⟩ else ⟨false, 0, reset⟩

def Window.nth {T : Type} (limit : Int) (reset : T) (n : Nat) : Window T :=
  ⟨min n limit.toNat, reset⟩

namespace Limiter

variable {T : Type} [Add T]

theorem Call.answer_nth (c : Call T) (reset : T) (n : Nat) :
    c.answer (some (Window.nth c.limit reset n)) = Decision.nth c.limit reset n := by
  by_cases h : (n : Int) < c.limit
  · have hcount : (Window.nth c.limit reset n).count = n := Nat.min_eq_left (by omega)
    rw [Call.answer_room (by rwa [hcount]), hcount, Decision.nth, if_pos h, Window.nth]
    congr 1
    omega
  · have hcount : (Window.nth c.limit reset n).count = c.limit.toNat := Nat.min_eq_right (by omega)
    rw [Call.answer_full (by omega), Decision.nth, if_neg h, Window.nth]

theorem Call.leave_nth (c : Call T) (reset : T) (n : Nat) :
    c.leave (some (Window.nth c.limit reset n)) = Window.nth c.limit reset (n + 1) := by
  by_cases h : (n : Int) < c.limit
  · have hcount : (Window.nth c.limit reset n).count = n := Nat.min_eq_left (by omega)
    rw [Call.leave_room (by rwa [hcount]), hcount, Window.nth, Window.nth]
    congr 1
    omega
  · have hcount : (Window.nth c.limit reset n).count = c.limit.toNat := Nat.min_eq_right (by omega)
    rw [Call.leave_full (by omega), Window.nth, Window.nth]
    congr 1
    omega

theorem Call.answer_none (c : Call T) (hlimit : 1 ≤ c.limit) :
    c.answer none = Decision.nth c.limit (c.now + c.span) 0 := by
  rw [Call.answer, Decision.nth, if_pos (by omega)]
  congr 1
  omega

theorem Call.leave_none (c : Call T) (hlimit : 1 ≤ c.limit) :
    c.leave none = Window.nth c.limit (c.now + c.span) 1 := by
  rw [Call.leave, Window.nth]
  congr 1
  omega

variable [LT T] [DecidableLT T]

/-- A caller without a window opens one by its next call. -/
theorem opened_of_mem_head? {key : String} {es : List (Event T)} {a : Answered T}
    (h : a ∈ (logOf key none es).head?) : a.opened = true := by
  induction es with
  | nil => cases h
  | cons e es ih =>
    cases e with
    | call c =>
      rw [logOf] at h
      by_cases hkey : c.key = key
      · rw [if_pos hkey] at h
        cases h
        rfl
      · rw [if_neg hkey] at h
        exact ih h
    | prune now => exact ih h

/-- Up to the next call that opens a window, the calls are counted on from those before. -/
theorem decisions_within {key : String} {limit : Int} {reset : T} {es : List (Event T)} {n : Nat}
    (hsame : ∀ c ∈ calls es, c.key = key → c.limit = limit) {within later : List (Answered T)}
    (hlog : logOf key (some (Window.nth limit reset n)) es = within ++ later)
    (hwithin : ∀ a ∈ within, a.opened = false) :
    within.map (·.decision) =
      (List.range' n within.length).map (Decision.nth limit reset) := by
  induction es generalizing n within with
  | nil =>
    obtain ⟨rfl, -⟩ := List.append_eq_nil_iff.1 hlog.symm
    rfl
  | cons e es ih =>
    have hrest : ∀ c ∈ calls es, c.key = key → c.limit = limit :=
      fun c hc => hsame c (mem_calls_cons hc e)
    cases within with
    | nil => rfl
    | cons a within =>
      have ha : a.opened = false := hwithin a List.mem_cons_self
      cases e with
      | call c =>
        rw [logOf] at hlog
        by_cases hkey : c.key = key
        · rw [if_pos hkey, List.cons_append, List.cons.injEq] at hlog
          obtain ⟨rfl, hlog⟩ := hlog
          obtain rfl : c.limit = limit := hsame c List.mem_cons_self hkey
          have hlive : live c.now (some (Window.nth c.limit reset n)) =
              some (Window.nth c.limit reset n) := by
            rw [Call.answered, live_some] at ha
            rw [live_some]
            split at ha
            · cases ha
            · next hopen => rw [if_neg hopen]
          rw [hlive, Call.leave_nth] at hlog
          rw [List.map_cons, ih hrest hlog fun b hb => hwithin b (List.mem_cons_of_mem _ hb),
            Call.answered, hlive, Call.answer_nth]
          rfl
        · rw [if_neg hkey] at hlog
          exact ih hrest hlog hwithin
      | prune now =>
        rw [logOf, live_some] at hlog
        split at hlog
        · have hhead : a ∈ (logOf key none es).head? := by
            rw [hlog]
            rfl
          rw [opened_of_mem_head? hhead] at ha
          cases ha
        · exact ih hrest hlog hwithin

/-- From a call that opens a window on, the calls are counted from none. -/
theorem decisions_from {key : String} {limit : Int} (hlimit : 1 ≤ limit) {es : List (Event T)}
    (hsame : ∀ c ∈ calls es, c.key = key → c.limit = limit) {w? : Option (Window T)}
    {before within later : List (Answered T)} {opening : Answered T}
    (hlog : logOf key w? es = before ++ opening :: (within ++ later))
    (hopening : opening.opened = true) (hwithin : ∀ a ∈ within, a.opened = false) :
    (opening :: within).map (·.decision) =
      (List.range (within.length + 1)).map
        (Decision.nth limit (opening.call.now + opening.call.span)) := by
  induction es generalizing w? before with
  | nil =>
    rw [logOf] at hlog
    exact absurd hlog.symm (by simp)
  | cons e es ih =>
    have hrest : ∀ c ∈ calls es, c.key = key → c.limit = limit :=
      fun c hc => hsame c (mem_calls_cons hc e)
    cases e with
    | call c =>
      rw [logOf] at hlog
      by_cases hkey : c.key = key
      · rw [if_pos hkey] at hlog
        cases before with
        | nil =>
          rw [List.nil_append, List.cons.injEq] at hlog
          obtain ⟨rfl, hlog⟩ := hlog
          obtain rfl : c.limit = limit := hsame c List.mem_cons_self hkey
          have hlive : live c.now w? = none := Option.isNone_iff_eq_none.1 hopening
          rw [hlive, Call.leave_none c hlimit] at hlog
          rw [List.map_cons, decisions_within hrest hlog hwithin, Call.answered, hlive,
            Call.answer_none c hlimit, List.range_eq_range', List.range'_succ, List.map_cons]
        | cons b before =>
          rw [List.cons_append, List.cons.injEq] at hlog
          exact ih hrest hlog.2
      · rw [if_neg hkey] at hlog
        exact ih hrest hlog
    | prune now => exact ih hrest hlog

/-- The first call of a key opens a window. From there up to the next call that opens one, the
answers are those of one window, and a call that is refused leaves the table as it is. A call opens
a window unless an earlier one of its key has, and neither a pruning nor a call of the key, this one
included, has come after the end of that window since. -/
theorem decisions_of_windows (es : List (Event T)) (key : String) {limit : Int}
    (hlimit : 1 ≤ limit) (hsame : ∀ c ∈ calls es, c.key = key → c.limit = limit) :
    (∀ a ∈ (callsOf key (log [] es)).head?, a.opened = true) ∧
      (∀ before opening within later,
        callsOf key (log [] es) = before ++ opening :: (within ++ later) →
          opening.opened = true → (∀ a ∈ within, a.opened = false) →
            (opening :: within).map (·.decision) =
              (List.range (within.length + 1)).map
                (Decision.nth limit (opening.call.now + opening.call.span))) ∧
      (∀ past c future, es = past ++ .call c :: future →
        ((after [] past).call c).1.allowed = false →
          ((after [] past).call c).2 = after [] past) ∧
      ∀ past c future, es = past ++ .call c :: future →
        log [] es = log [] past ++ ⟨c, opens past c, ((after [] past).call c).1⟩ ::
            log (after [] (past ++ [.call c])) future ∧
          (opens past c = false ↔
            ∃ o, o.key = c.key ∧ Opener past o ∧ ¬o.now + o.span < c.now) := by
  rw [callsOf_log_nil]
  refine ⟨fun a ha => opened_of_mem_head? ha, ?_, fun past c future _ h => call_of_refused h, ?_⟩
  · intro before opening within later hlog hopening hwithin
    exact decisions_from hlimit hsame hlog hopening hwithin
  · rintro past c future rfl
    exact ⟨log_split past c future, opens_eq_false_iff⟩

/-- A window opened after the clock went back, among calls of another key and prunings. -/
theorem decisions_of_windows_clock_back :
    let es : List (Event Int) :=
      [.call ⟨0, "a", 2, 10⟩, .call ⟨1, "b", 1, 5⟩, .prune 40, .call ⟨20, "a", 2, 10⟩,
        .call ⟨7, "a", 2, 10⟩, .call ⟨21, "b", 1, 5⟩, .prune 30, .call ⟨30, "a", 2, 10⟩,
        .call ⟨12, "a", 2, 10⟩, .call ⟨31, "a", 2, 10⟩]
    let answers := callsOf "a" (log [] es)
    ((1 : Int) ≤ 2 ∧ ∀ c ∈ calls es, c.key = "a" → c.limit = 2) ∧
      answers.map (·.opened) = [true, true, false, false, false, true] ∧
      ((answers.drop 1).take 4).map (·.decision) =
        [⟨true, 1, 30⟩, ⟨true, 0, 30⟩, ⟨false, 0, 30⟩, ⟨false, 0, 30⟩] := by
  intro es answers
  have hsame : ∀ c ∈ calls es, c.key = "a" → c.limit = 2 := by decide
  obtain ⟨-, hwindow, -⟩ := decisions_of_windows es "a" (by decide) hsame
  refine ⟨⟨by decide, hsame⟩, by decide, ?_⟩
  exact hwindow (answers.take 1) ⟨⟨20, "a", 2, 10⟩, true, ⟨true, 1, 30⟩⟩ ((answers.drop 2).take 3)
    (answers.drop 5) rfl rfl (by decide)

end Limiter
end CaseChart
