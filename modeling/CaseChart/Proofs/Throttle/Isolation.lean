import CaseChart.Proofs.Throttle.Run

namespace CaseChart.Limiter

theorem key_of_mem_calls_concerns {T : Type} {key : String} {es : List (Event T)} :
    ∀ c ∈ calls (es.filter (Event.concerns key)), c.key = key := by
  intro c hc
  obtain ⟨e, he, hec⟩ := List.mem_filterMap.1 hc
  have hconcerns := (List.mem_filter.1 he).2
  cases e with
  | call d =>
    cases hec
    exact of_decide_eq_true hconcerns
  | prune now => cases hec

variable {T : Type} [Add T] [LT T] [DecidableLT T]

/-- What does not concern a caller leaves its window as it is. -/
theorem Event.leave_of_not_concerns {key : String} {e : Event T} (h : e.concerns key = false)
    (w? : Option (Window T)) : e.leave key w? = w? := by
  cases e with
  | call c => exact if_neg (of_decide_eq_false h)
  | prune now => cases h

theorem foldl_leave_concerns (key : String) (w? : Option (Window T)) (es : List (Event T)) :
    (es.filter (Event.concerns key)).foldl (Event.leave key) w? =
      es.foldl (Event.leave key) w? := by
  rw [List.foldl_filter]
  congr 1
  funext v e
  cases h : e.concerns key with
  | true => rfl
  | false => exact (Event.leave_of_not_concerns h v).symm

theorem logOf_concerns (key : String) (w? : Option (Window T)) (es : List (Event T)) :
    logOf key w? (es.filter (Event.concerns key)) = logOf key w? es := by
  induction es generalizing w? with
  | nil => rfl
  | cons e es ih =>
    cases e with
    | call c =>
      rw [logOf]
      by_cases hkey : c.key = key
      · rw [List.filter_cons_of_pos (by simpa [Event.concerns] using hkey), logOf, if_pos hkey,
          if_pos hkey, ih]
      · rw [List.filter_cons_of_neg (by simpa [Event.concerns] using hkey), if_neg hkey, ih]
    | prune now =>
      rw [List.filter_cons_of_pos rfl, logOf, logOf, ih]

theorem map_call_log (m : Limiter T) (es : List (Event T)) :
    (m.log es).map (·.call) = calls es := by
  induction es generalizing m with
  | nil => rfl
  | cons e es ih =>
    cases e with
    | call c => rw [log, List.map_cons, ih, calls_cons_call]
    | prune now => rw [log, ih, calls_cons_prune]

theorem callsOf_log_eq_self {key : String} {es : List (Event T)} (h : ∀ c ∈ calls es, c.key = key)
    (m : Limiter T) : callsOf key (m.log es) = m.log es := by
  refine List.filter_eq_self.2 fun a ha => decide_eq_true (h a.call ?_)
  rw [← map_call_log m es]
  exact List.mem_map_of_mem ha

/-- Without the calls of all others a caller gets the same answers, and is left the same window. -/
theorem log_without_others (key : String) (es : List (Event T)) :
    callsOf key (log [] es) = log [] (es.filter (Event.concerns key)) ∧
      Entries.get? key (after [] es) =
        Entries.get? key (after [] (es.filter (Event.concerns key))) := by
  constructor
  · calc callsOf key (log [] es)
        = logOf key none es := callsOf_log_nil key es
      _ = logOf key none (es.filter (Event.concerns key)) := (logOf_concerns key none es).symm
      _ = callsOf key (log [] (es.filter (Event.concerns key))) := (callsOf_log_nil key _).symm
      _ = log [] (es.filter (Event.concerns key)) :=
        callsOf_log_eq_self key_of_mem_calls_concerns []
  · rw [get?_after Entries.distinct_nil, get?_after Entries.distinct_nil, foldl_leave_concerns]

end CaseChart.Limiter
