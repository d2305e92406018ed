import CaseChart.Throttle.Limiter
import CaseChart.Proofs.Entries

namespace CaseChart.Limiter

/-- A call, with the limit and the span of the windows of its caller. -/
structure Call (T : Type) where
  now : T
  key : String
  limit : Int
  span : T

inductive Event (T : Type) where
  | call (c : Call T)
  | prune (now : T)

def Event.now {T : Type} : Event T → T
  | .call c => c.now
  | .prune now => now

/-- Whether an event concerns a caller: its own calls do, and every pruning. -/
def Event.concerns {T : Type} (key : String) : Event T → Bool
  | .call c => c.key = key
  | .prune _ => true

/-- The clock does not go back in a run. -/
def Ordered {T : Type} [LE T] (es : List (Event T)) : Prop := es.Pairwise fun e f => e.now ≤ f.now

instance {T : Type} [LE T] [DecidableLE T] (es : List (Event T)) : Decidable (Ordered es) :=
  inferInstanceAs (Decidable (es.Pairwise fun e f => e.now ≤ f.now))

def calls {T : Type} (es : List (Event T)) : List (Call T) :=
  es.filterMap fun
    | .call c => some c
    | .prune _ => none

theorem calls_cons_call {T : Type} (c : Call T) (es : List (Event T)) :
    calls (.call c :: es) = c :: calls es := rfl

theorem calls_cons_prune {T : Type} (now : T) (es : List (Event T)) :
    calls (.prune now :: es) = calls es := rfl

theorem mem_calls_cons {T : Type} {c : Call T} {es : List (Event T)} (h : c ∈ calls es)
    (e : Event T) : c ∈ calls (e :: es) := by
  cases e with
  | call d => exact List.mem_cons_of_mem d h
  | prune now => exact h

/-- A call with its answer, and whether it opened a window. -/
structure Answered (T : Type) where
  call : Call T
  opened : Bool
  decision : Decision T

def callsOf {T : Type} (key : String) (as : List (Answered T)) : List (Answered T) :=
  as.filter fun a => a.call.key = key

section Call

variable {T : Type} [Add T]

/-- The answer to a call that finds a window, or none. -/
def Call.answer (c : Call T) : Option (Window T) → Decision T
  | none => ⟨true, c.limit - 1, c.now + c.span⟩
  | some w =>
    if c.limit ≤ w.count then ⟨false, 0, w.reset⟩
    else ⟨true, c.limit - (w.count + 1 : Nat), w.reset⟩

def Call.leave (c : Call T) : Option (Window T) → Window T
  | none => ⟨1, c.now + c.span⟩
  | some w => if c.limit ≤ w.count then w else ⟨w.count + 1, w.reset⟩

theorem Call.answer_full {c : Call T} {w : Window T} (h : c.limit ≤ w.count) :
    c.answer (some w) = ⟨false, 0, w.reset⟩ := if_pos h

theorem Call.answer_room {c : Call T} {w : Window T} (h : w.count < c.limit) :
    c.answer (some w) = ⟨true, c.limit - (w.count + 1 : Nat), w.reset⟩ :=
  if_neg (Int.not_le.2 h)

theorem Call.leave_full {c : Call T} {w : Window T} (h : c.limit ≤ w.count) :
    c.leave (some w) = w := if_pos h

theorem Call.leave_room {c : Call T} {w : Window T} (h : w.count < c.limit) :
    c.leave (some w) = ⟨w.count + 1, w.reset⟩ := if_neg (Int.not_le.2 h)

theorem Call.reset_leave_some (c : Call T) (w : Window T) :
    (c.leave (some w)).reset = w.reset := by
  rw [Call.leave]
  split <;> rfl

/-- An answer tells the reset time of the window that is left. -/
theorem Call.reset_answer (c : Call T) (w? : Option (Window T)) :
    (c.answer w?).reset = (c.leave w?).reset := by
  cases w? with
  | none => rfl
  | some w =>
    rw [Call.reset_leave_some, Call.answer]
    split <;> rfl

theorem Call.room_of_allowed {c : Call T} {w : Window T}
    (h : (c.answer (some w)).allowed = true) : w.count < c.limit := by
  by_contra hfull
  rw [Call.answer_full (Int.not_lt.1 hfull)] at h
  cases h

/-- An allowed call tells how many more its window allows. -/
theorem Call.remaining_answer {c : Call T} {w? : Option (Window T)}
    (h : (c.answer w?).allowed = true) :
    (c.answer w?).remaining = c.limit - (c.leave w?).count := by
  cases w? with
  | none => rfl
  | some w => rw [Call.answer_room (room_of_allowed h), Call.leave_room (room_of_allowed h)]

theorem Call.remaining_lt {c : Call T} {w : Window T} (h : (c.answer (some w)).allowed = true) :
    (c.answer (some w)).remaining < c.limit - w.count := by
  rw [Call.remaining_answer h, Call.leave_room (room_of_allowed h)]
  dsimp only
  omega

theorem Call.remaining_mem {c : Call T} (hlimit : 1 ≤ c.limit) {w? : Option (Window T)}
    (h : (c.answer w?).allowed = true) :
    0 ≤ (c.answer w?).remaining ∧ (c.answer w?).remaining < c.limit := by
  cases w? with
  | none =>
    dsimp only [Call.answer]
    omega
  | some w =>
    have hroom := room_of_allowed h
    rw [Call.answer_room hroom]
    dsimp only
    omega

theorem Call.count_le_leave (c : Call T) (w : Window T) : w.count ≤ (c.leave (some w)).count := by
  rw [Call.leave]
  split
  · exact Nat.le_refl _
  · exact Nat.le_succ _

end Call

variable {T : Type} [LT T] [DecidableLT T]

def live (now : T) (w? : Option (Window T)) : Option (Window T) := w?.filter fun w => !isOver now w

theorem live_none (now : T) : live now none = none := rfl

theorem live_some (now : T) (w : Window T) :
    live now (some w) = if w.reset < now then none else some w := by
  by_cases h : w.reset < now
  · simp [live, isOver, h]
  · simp [live, isOver, h]

theorem live_eq_some_iff {now : T} {w? : Option (Window T)} {w : Window T} :
    live now w? = some w ↔ w? = some w ∧ ¬ w.reset < now := by
  rw [live, Option.filter_eq_some_iff, isOver, Bool.not_eq_true', decide_eq_false_iff_not]

theorem distinct_prune {m : Limiter T} (h : Entries.Distinct m) (now : T) :
    Entries.Distinct (m.prune now).2 := h.filter _

theorem get?_prune {m : Limiter T} (h : Entries.Distinct m) (now : T) (key : String) :
    Entries.get? key (m.prune now).2 = live now (Entries.get? key m) :=
  h.get?_filter (fun w => !isOver now w) key

variable [Add T]

def call (m : Limiter T) (c : Call T) : Decision T × Limiter T :=
  m.check c.now c.key c.limit c.span

def next (m : Limiter T) : Event T → Limiter T
  | .call c => (m.call c).2
  | .prune now => (m.prune now).2

def after (m : Limiter T) (es : List (Event T)) : Limiter T := es.foldl next m

theorem after_append (m : Limiter T) (es fs : List (Event T)) :
    m.after (es ++ fs) = (m.after es).after fs := List.foldl_append ..

def log (m : Limiter T) : List (Event T) → List (Answered T)
  | [] => []
  | .call c :: es =>
    ⟨c, (live c.now (Entries.get? c.key m)).isNone, (m.call c).1⟩ :: log (m.call c).2 es
  | .prune now :: es => log (m.prune now).2 es

/-- All that a call does: its answer is that of the live window of its key, and only an allowed
call changes the table. -/
theorem call_eq (m : Limiter T) (c : Call T) :
    (m.call c).1 = c.answer (live c.now (Entries.get? c.key m)) ∧
      (m.call c).2 =
        if (m.call c).1.allowed then
          Entries.set c.key (c.leave (live c.now (Entries.get? c.key m))) m
        else m := by
  unfold call check
  cases Entries.get? c.key m with
  | none => exact ⟨rfl, rfl⟩
  | some w =>
    by_cases hover : w.reset < c.now
    · simp [isOver, hover, openWindow, live_some, Call.answer, Call.leave]
    · by_cases hfull : c.limit ≤ w.count
      · simp [isOver, hover, hfull, live_some, Call.answer]
      · simp [isOver, hover, hfull, live_some, Call.answer, Call.leave]

theorem call_of_refused {m : Limiter T} {c : Call T} (h : (m.call c).1.allowed = false) :
    (m.call c).2 = m := by
  rw [(call_eq m c).2, h, if_neg Bool.false_ne_true]

/-- A call that is refused has found a full window, which it leaves. -/
theorem exists_of_refused {m : Limiter T} {c : Call T} (h : (m.call c).1.allowed = false) :
    ∃ w, live c.now (Entries.get? c.key m) = some w ∧ c.limit ≤ w.count ∧
      (m.call c).1.reset = w.reset := by
  rw [(call_eq m c).1] at h ⊢
  cases hw : live c.now (Entries.get? c.key m) with
  | none => rw [hw] at h; cases h
  | some w =>
    by_cases hfull : c.limit ≤ w.count
    · exact ⟨w, rfl, hfull, by rw [Call.answer_full hfull]⟩
    · rw [hw, Call.answer_room (Int.not_le.1 hfull)] at h
      cases h

theorem get?_call (m : Limiter T) (c : Call T) (key : String) :
    Entries.get? key (m.call c).2 =
      if c.key = key then some (c.leave (live c.now (Entries.get? c.key m)))
      else Entries.get? key m := by
  cases hallowed : (m.call c).1.allowed with
  | true =>
    rw [(call_eq m c).2, hallowed, if_pos rfl]
    by_cases hkey : c.key = key
    · rw [if_pos hkey, ← hkey, Entries.get?_set_self]
    · rw [if_neg hkey, Entries.get?_set_of_ne (Ne.symm hkey)]
  | false =>
    obtain ⟨w, hw, hfull, -⟩ := exists_of_refused hallowed
    rw [call_of_refused hallowed]
    by_cases hkey : c.key = key
    · rw [if_pos hkey, hw, Call.leave_full hfull, ← hkey]
      exact (live_eq_some_iff.1 hw).1
    · rw [if_neg hkey]

theorem distinct_call {m : Limiter T} (h : Entries.Distinct m) (c : Call T) :
    Entries.Distinct (m.call c).2 := by
  rw [(call_eq m c).2]
  split
  · exact h.set _ _
  · exact h

section OneKey

/-- The window that an event leaves to a key. -/
def Event.leave (key : String) (w? : Option (Window T)) : Event T → Option (Window T)
  | .call c => if c.key = key then some (c.leave (live c.now w?)) else w?
  | .prune now => live now w?

/-- A window that an event leaves was there before, or ends a span after the event. -/
theorem reset_of_mem_leave {key : String} {span : T} {e : Event T} {es : List (Event T)}
    (hspan : ∀ c ∈ calls (e :: es), c.key = key → c.span = span) {w? : Option (Window T)}
    {w : Window T} (hw : w ∈ Event.leave key w? e) :
    (∃ v ∈ w?, w.reset = v.reset) ∨ w.reset = e.now + span := by
  cases e with
  | call c =>
    rw [Event.leave] at hw
    by_cases hkey : c.key = key
    · rw [if_pos hkey] at hw
      cases hw
      cases hlive : live c.now w? with
      | none =>
        right
        rw [Call.leave, hspan c List.mem_cons_self hkey]
        rfl
      | some v => exact Or.inl ⟨v, (live_eq_some_iff.1 hlive).1, c.reset_leave_some v⟩
    · rw [if_neg hkey] at hw
      exact Or.inl ⟨w, hw, rfl⟩
  | prune now => exact Or.inl ⟨w, (live_eq_some_iff.1 hw).1, rfl⟩

def Call.answered (c : Call T) (w? : Option (Window T)) : Answered T :=
  ⟨c, (live c.now w?).isNone, c.answer (live c.now w?)⟩

/-- The calls of one key in a run, from its window alone. -/
def logOf (key : String) (w? : Option (Window T)) : List (Event T) → List (Answered T)
  | [] => []
  | .call c :: es =>
    if c.key = key then c.answered w? :: logOf key (some (c.leave (live c.now w?))) es
    else logOf key w? es
  | .prune now :: es => logOf key (live now w?) es

/-- What holds of the calls of a key, if every event keeps the reason for it. -/
theorem forall_mem_logOf {key : String} {P : Answered T → Prop}
    {I : Option (Window T) → List (Event T) → Prop}
    (hstep : ∀ w? e es, I w? (e :: es) → I (Event.leave key w? e) es)
    (hcall : ∀ w? c es, c.key = key → I w? (.call c :: es) →
      I (some (c.leave (live c.now w?))) es → P (c.answered w?))
    {w? : Option (Window T)} {es : List (Event T)} (h : I w? es) :
    ∀ a ∈ logOf key w? es, P a := by
  induction es generalizing w? with
  | nil =>
    intro a ha
    cases ha
  | cons e es ih =>
    have hnext := hstep w? e es h
    cases e with
    | call c =>
      rw [Event.leave] at hnext
      rw [logOf]
      by_cases hkey : c.key = key
      · rw [if_pos hkey] at hnext ⊢
        exact List.forall_mem_cons.2 ⟨hcall w? c es hkey h hnext, ih hnext⟩
      · rw [if_neg hkey] at hnext ⊢
        exact ih hnext
    | prune now => exact ih hnext

theorem exists_of_mem_logOf {key : String} {w? : Option (Window T)} {es : List (Event T)} :
    ∀ a ∈ logOf key w? es, ∃ c ∈ calls es, c.key = key ∧ ∃ v?, a = c.answered v? := by
  refine forall_mem_logOf (I := fun _ fs => ∀ c ∈ calls fs, c ∈ calls es) ?_ ?_ fun _ hc => hc
  · exact fun _ e _ hsub c hc => hsub c (mem_calls_cons hc e)
  · exact fun v? c _ hkey hsub _ => ⟨c, hsub c List.mem_cons_self, hkey, v?, rfl⟩

theorem remaining_mem_of_mem_logOf {key : String} {limit : Int} {es : List (Event T)}
    {w? : Option (Window T)} (hlimit : 1 ≤ limit)
    (hsame : ∀ c ∈ calls es, c.key = key → c.limit = limit) :
    ∀ a ∈ logOf key w? es, a.decision.allowed = true →
      0 ≤ a.decision.remaining ∧ a.decision.remaining < limit := by
  intro a ha hallowed
  obtain ⟨c, hc, hkey, v?, rfl⟩ := exists_of_mem_logOf a ha
  obtain rfl : c.limit = limit := hsame c hc hkey
  exact Call.remaining_mem hlimit hallowed

theorem distinct_next {m : Limiter T} (h : Entries.Distinct m) (e : Event T) :
    Entries.Distinct (m.next e) := by
  cases e with
  | call c => exact distinct_call h c
  | prune now => exact distinct_prune h now

theorem get?_next {m : Limiter T} (h : Entries.Distinct m) (e : Event T) (key : String) :
    Entries.get? key (m.next e) = e.leave key (Entries.get? key m) := by
  cases e with
  | call c =>
    rw [next, get?_call, Event.leave]
    by_cases hkey : c.key = key
    · rw [if_pos hkey, if_pos hkey, hkey]
    · rw [if_neg hkey, if_neg hkey]
  | prune now => exact get?_prune h now key

theorem distinct_after {m : Limiter T} (h : Entries.Distinct m) (es : List (Event T)) :
    Entries.Distinct (m.after es) := by
  induction es generalizing m with
  | nil => exact h
  | cons e es ih => exact ih (distinct_next h e)

theorem get?_after {m : Limiter T} (h : Entries.Distinct m) (es : List (Event T)) (key : String) :
    Entries.get? key (m.after es) = es.foldl (Event.leave key) (Entries.get? key m) := by
  induction es generalizing m with
  | nil => rfl
  | cons e es ih =>
    rw [List.foldl_cons, ← get?_next h e key]
    exact ih (distinct_next h e)

/-- Each caller sees a limiter of its own. -/
theorem callsOf_log {m : Limiter T} (h : Entries.Distinct m) (key : String)
    (es : List (Event T)) : callsOf key (m.log es) = logOf key (Entries.get? key m) es := by
  induction es generalizing m with
  | nil => rfl
  | cons e es ih =>
    have hnext := ih (distinct_next h e)
    rw [get?_next h e key] at hnext
    cases e with
    | call c =>
      rw [next] at hnext
      by_cases hkey : c.key = key
      · rw [log, callsOf, List.filter_cons_of_pos (by simpa using hkey), ← callsOf, hnext, logOf,
          if_pos hkey, Event.leave, if_pos hkey, (call_eq m c).1, hkey, Call.answered]
      · rw [log, callsOf, List.filter_cons_of_neg (by simpa using hkey), ← callsOf, hnext, logOf,
          if_neg hkey, Event.leave, if_neg hkey]
    | prune now => exact hnext

theorem callsOf_log_nil (key : String) (es : List (Event T)) :
    callsOf key (log [] es) = logOf key none es := callsOf_log Entries.distinct_nil key es

end OneKey

end CaseChart.Limiter
