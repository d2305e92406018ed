import CaseChart.Proofs.Throttle.Run
import Mathlib.Data.List.Induction

namespace CaseChart.Limiter

variable {T : Type} [Add T] [LT T] [DecidableLT T]

def opens (past : List (Event T)) (c : Call T) : Bool :=
  (live c.now (Entries.get? c.key (after [] past))).isNone

/-- The call `o` opened a window that its key still has after some events: since then neither a call
of the key nor a pruning has come after the end of the window. -/
def Opener (past : List (Event T)) (o : Call T) : Prop :=
  ∃ before between, past = before ++ .call o :: between ∧ opens before o = true ∧
    ∀ e ∈ between, e.concerns o.key = true → ¬o.now + o.span < e.now

theorem opener_concat_iff {past : List (Event T)} {e : Event T} {o : Call T} :
    Opener (past ++ [e]) o ↔
      (Opener past o ∧ (e.concerns o.key = true → ¬o.now + o.span < e.now)) ∨
        (e = .call o ∧ opens past o = true) := by
  constructor
  · rintro ⟨before, between, heq, hopens, hbetween⟩
    rcases List.eq_nil_or_concat between with rfl | ⟨between, f, rfl⟩
    · obtain ⟨rfl, he⟩ := List.append_inj' heq rfl
      exact .inr ⟨List.singleton_inj.1 he, hopens⟩
    · rw [List.concat_eq_append, ← List.cons_append, ← List.append_assoc] at heq
      obtain ⟨rfl, he⟩ := List.append_inj' heq rfl
      obtain rfl := List.singleton_inj.1 he
      rw [List.concat_eq_append, List.forall_mem_append] at hbetween
      obtain ⟨hbefore, hlast⟩ := hbetween
      exact .inl ⟨⟨before, between, rfl, hopens, hbefore⟩, hlast e List.mem_cons_self⟩
  · rintro (⟨⟨before, between, rfl, hopens, hbetween⟩, he⟩ | ⟨rfl, hopens⟩)
    · refine ⟨before, between ++ [e], by simp, hopens, ?_⟩
      rw [List.forall_mem_append]
      exact ⟨hbetween, fun f hf => List.mem_singleton.1 hf ▸ he⟩
    · exact ⟨past, [], rfl, hopens, fun e he => absurd he List.not_mem_nil⟩

/-- A call leaves the window that was there, if it is not over, or one that it opens. -/
theorem reset_leave_eq_iff {c : Call T} {w? : Option (Window T)} {reset : T} :
    (c.leave (live c.now w?)).reset = reset ↔
      (∃ w, w? = some w ∧ w.reset = reset ∧ ¬reset < c.now) ∨
        live c.now w? = none ∧ c.now + c.span = reset := by
  cases hlive : live c.now w? with
  | none =>
    constructor
    · intro h
      exact .inr ⟨rfl, h⟩
    · rintro (⟨w, hw, rfl, hopen⟩ | ⟨-, h⟩)
      · rw [live_eq_some_iff.2 ⟨hw, hopen⟩] at hlive
        cases hlive
      · exact h
  | some v =>
    obtain ⟨rfl, hopen⟩ := live_eq_some_iff.1 hlive
    rw [Call.reset_leave_some]
    constructor
    · rintro rfl
      exact .inl ⟨v, rfl, rfl, hopen⟩
    · rintro (⟨w, hw, rfl, -⟩ | ⟨hnone, -⟩)
      · rw [Option.some.inj hw]
      · cases hnone

/-- The window that an event leaves to a key was there before and is not over, or is opened by a
call. -/
theorem exists_reset_leave_iff {key : String} {e : Event T} {w? : Option (Window T)} {reset : T} :
    (∃ w, e.leave key w? = some w ∧ w.reset = reset) ↔
      ((∃ w, w? = some w ∧ w.reset = reset) ∧ (e.concerns key = true → ¬reset < e.now)) ∨
        ∃ c, e = .call c ∧ c.key = key ∧ live c.now w? = none ∧ c.now + c.span = reset := by
  cases e with
  | call c =>
    by_cases hkey : c.key = key
    · have hleave : (∃ w, Event.leave key w? (.call c) = some w ∧ w.reset = reset) ↔
          (c.leave (live c.now w?)).reset = reset := by
        rw [Event.leave, if_pos hkey]
        simp only [Option.some.injEq, exists_eq_left']
      rw [hleave, reset_leave_eq_iff]
      constructor
      · rintro (⟨w, hw, hreset, hopen⟩ | ⟨hnone, hreset⟩)
        · exact .inl ⟨⟨w, hw, hreset⟩, fun _ => hopen⟩
        · exact .inr ⟨c, rfl, hkey, hnone, hreset⟩
      · rintro (⟨⟨w, hw, hreset⟩, hopen⟩ | ⟨d, hd, -, hnone, hreset⟩)
        · exact .inl ⟨w, hw, hreset, hopen (decide_eq_true hkey)⟩
        · cases hd
          exact .inr ⟨hnone, hreset⟩
    · rw [Event.leave, if_neg hkey]
      constructor
      · intro hw
        exact .inl ⟨hw, fun hconcerns => absurd (of_decide_eq_true hconcerns) hkey⟩
      · rintro (⟨hw, -⟩ | ⟨d, hd, hdkey, -⟩)
        · exact hw
        · cases hd
          exact absurd hdkey hkey
  | prune now =>
    constructor
    · rintro ⟨w, hw, rfl⟩
      obtain ⟨hthere, hopen⟩ := live_eq_some_iff.1 hw
      exact .inl ⟨⟨w, hthere, rfl⟩, fun _ => hopen⟩
    · rintro (⟨⟨w, hthere, rfl⟩, hopen⟩ | ⟨d, hd, -⟩)
      · exact ⟨w, live_eq_some_iff.2 ⟨hthere, hopen rfl⟩, rfl⟩
      · cases hd

/-- The windows in the table are those of the openers. -/
theorem exists_get?_iff_opener (past : List (Event T)) (key : String) (reset : T) :
    (∃ w, Entries.get? key (after [] past) = some w ∧ w.reset = reset) ↔
      ∃ o, o.key = key ∧ Opener past o ∧ o.now + o.span = reset := by
  induction past using List.reverseRecOn with
  | nil =>
    constructor
    · rintro ⟨w, hw, -⟩
      cases hw
    · rintro ⟨o, -, ⟨before, between, heq, -⟩, -⟩
      exact absurd heq.symm (by simp)
  | append_singleton past e ih =>
    have hnext : Entries.get? key (after [] (past ++ [e])) =
        e.leave key (Entries.get? key (after [] past)) := by
      rw [after_append]
      exact get?_next (distinct_after Entries.distinct_nil past) e key
    rw [hnext, exists_reset_leave_iff, ih]
    constructor
    · rintro (⟨⟨o, rfl, ho, rfl⟩, he⟩ | ⟨c, rfl, rfl, hnone, rfl⟩)
      · exact ⟨o, rfl, opener_concat_iff.2 (.inl ⟨ho, he⟩), rfl⟩
      · exact ⟨c, rfl, opener_concat_iff.2 (.inr ⟨rfl, Option.isNone_iff_eq_none.2 hnone⟩), rfl⟩
    · rintro ⟨o, rfl, ho, rfl⟩
      rcases opener_concat_iff.1 ho with ⟨ho, he⟩ | ⟨rfl, hopens⟩
      · exact .inl ⟨⟨o, rfl, ho, rfl⟩, he⟩
      · exact .inr ⟨o, rfl, rfl, Option.isNone_iff_eq_none.1 hopens, rfl⟩

/-- A call opens no window exactly if an opener of its key is there whose window is not over. -/
theorem opens_eq_false_iff {past : List (Event T)} {c : Call T} :
    opens past c = false ↔ ∃ o, o.key = c.key ∧ Opener past o ∧ ¬o.now + o.span < c.now := by
  rw [opens, Option.isNone_eq_false_iff, Option.isSome_iff_exists]
  constructor
  · rintro ⟨w, hw⟩
    obtain ⟨hget, hopen⟩ := live_eq_some_iff.1 hw
    obtain ⟨o, hkey, ho, hends⟩ := (exists_get?_iff_opener past c.key w.reset).1 ⟨w, hget, rfl⟩
    exact ⟨o, hkey, ho, hends ▸ hopen⟩
  · rintro ⟨o, hkey, ho, hopen⟩
    obtain ⟨w, hget, hreset⟩ :=
      (exists_get?_iff_opener past c.key (o.now + o.span)).2 ⟨o, hkey, ho, rfl⟩
    exact ⟨w, live_eq_some_iff.2 ⟨hget, hreset ▸ hopen⟩⟩

theorem log_append (m : Limiter T) (es fs : List (Event T)) :
    m.log (es ++ fs) = m.log es ++ (m.after es).log fs := by
  induction es generalizing m with
  | nil => rfl
  | cons e es ih =>
    cases e with
    | call c => exact congrArg (_ :: ·) (ih (m.call c).2)
    | prune now => exact ih (m.prune now).2

/-- The answer to a call stands behind those to the calls before it. -/
theorem log_split (past : List (Event T)) (c : Call T) (future : List (Event T)) :
    log [] (past ++ .call c :: future) =
      log [] past ++ ⟨c, opens past c, ((after [] past).call c).1⟩ ::
        log (after [] (past ++ [.call c])) future := by
  rw [log_append, log, after_append]
  rfl

end CaseChart.Limiter
