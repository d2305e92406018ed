import CaseChart.Proofs.Throttle.Run
import Mathlib.Algebra.Order.Group.Int
import Mathlib.Algebra.Order.Monoid.Unbundled.Basic

namespace CaseChart.Limiter

-- Times are exact here: their sums keep their order.
variable {T : Type} [AddCommGroup T] [LinearOrder T]

/-- How the later of two calls of a key stands to the earlier: in the same window with fewer calls
remaining, or in one that opened when that window was over. -/
def Follows (span : T) (a b : Answered T) : Prop :=
  (b.opened = false ∧ b.decision.reset = a.decision.reset ∧
      (a.decision.allowed = true → b.decision.allowed = true →
        b.decision.remaining < a.decision.remaining)) ∨
    a.decision.reset < b.call.now ∧ a.decision.reset + span < b.decision.reset

/-- A window opens after the reset time of every earlier call. -/
theorem pairwise_opened {span : T} {as : List (Answered T)}
    (hfollows : as.Pairwise (Follows span)) :
    (as.filter (·.opened)).Pairwise fun a b => a.decision.reset < b.call.now := by
  refine (hfollows.filter _).imp_of_mem ?_
  intro a b _ hb hab
  rcases hab with ⟨hwithin, -, -⟩ | ⟨hafter, -⟩
  · rw [(List.mem_filter.1 hb).2] at hwithin
    cases hwithin
  · exact hafter

theorem length_le_of_pairwise_gt {l : List Int} (h : l.Pairwise (· > ·)) {n : Int} (hn : 0 ≤ n)
    (hl : ∀ x ∈ l, 0 ≤ x ∧ x < n) : (l.length : Int) ≤ n := by
  induction l generalizing n with
  | nil => exact hn
  | cons x l ih =>
    obtain ⟨hx, hrest⟩ := List.pairwise_cons.1 h
    obtain ⟨h0, hlt⟩ := hl x List.mem_cons_self
    have htail := ih hrest h0 fun y hy => ⟨(hl y (List.mem_cons_of_mem _ hy)).1, hx y hy⟩
    rw [List.length_cons]
    omega

theorem countP_le_add {α : Type} {p q r : α → Bool} {as : List α}
    (h : ∀ a ∈ as, p a = true → q a = true ∨ r a = true) :
    as.countP p ≤ as.countP q + as.countP r := by
  rw [List.countP_eq_countP_filter_add as p q, List.countP_filter, List.countP_filter]
  refine Nat.add_le_add ?_ ?_
  · refine List.countP_mono_left fun a _ ha => ?_
    rw [Bool.and_eq_true] at ha
    exact ha.2
  · refine List.countP_mono_left fun a hmem ha => ?_
    rw [Bool.and_eq_true, Bool.not_eq_true'] at ha
    exact (h a hmem ha.1).resolve_left (by rw [ha.2]; exact Bool.false_ne_true)

variable [IsOrderedAddMonoid T]

section History

variable {key : String} {limit : Int} {span : T}

/-- After a reset time, only windows that end more than a span later are met. -/
theorem reset_lt_of_mem_logOf {reset : T} {es : List (Event T)} {w? : Option (Window T)}
    (hspan : ∀ c ∈ calls es, c.key = key → c.span = span)
    (hpast : ∀ e ∈ es, reset < e.now) (hw : ∀ w ∈ w?, reset + span < w.reset) :
    ∀ a ∈ logOf key w? es, reset < a.call.now ∧ reset + span < a.decision.reset := by
  refine forall_mem_logOf (I := fun v? fs => (∀ c ∈ calls fs, c.key = key → c.span = span) ∧
    (∀ e ∈ fs, reset < e.now) ∧ ∀ v ∈ v?, reset + span < v.reset) ?_ ?_ ⟨hspan, hpast, hw⟩
  · rintro v? e fs ⟨hspan, hpast, hv⟩
    refine ⟨fun c hc => hspan c (mem_calls_cons hc e),
      fun f hf => hpast f (List.mem_cons_of_mem _ hf), fun u hu => ?_⟩
    rcases reset_of_mem_leave hspan hu with ⟨v, hmem, heq⟩ | heq
    · rw [heq]
      exact hv v hmem
    · rw [heq]
      exact add_lt_add_left (hpast e List.mem_cons_self) span
  · rintro v? c fs - ⟨-, hpast, -⟩ ⟨-, -, hleft⟩
    refine ⟨hpast _ List.mem_cons_self, ?_⟩
    rw [Call.answered, Call.reset_answer]
    exact hleft _ rfl

/-- What follows while a key has a window: calls in it, and then calls in later windows. -/
theorem follows_of_mem_logOf {es : List (Event T)} (hes : Ordered es)
    (hsame : ∀ c ∈ calls es, c.key = key → c.limit = limit ∧ c.span = span) {w : Window T}
    {b : Answered T} (hb : b ∈ logOf key (some w) es) :
    (b.opened = false ∧ b.decision.reset = w.reset ∧
        (b.decision.allowed = true → b.decision.remaining < limit - w.count)) ∨
      w.reset < b.call.now ∧ w.reset + span < b.decision.reset := by
  induction es generalizing w with
  | nil => cases hb
  | cons e es ih =>
    obtain ⟨hfirst, hrest⟩ := List.pairwise_cons.1 hes
    have hsame' : ∀ c ∈ calls es, c.key = key → c.limit = limit ∧ c.span = span :=
      fun c hc => hsame c (mem_calls_cons hc e)
    -- once the window is over, it is as if the key had none
    have hclosed (hover : w.reset < e.now) (h : b ∈ logOf key none (e :: es)) :
        w.reset < b.call.now ∧ w.reset + span < b.decision.reset := by
      refine reset_lt_of_mem_logOf (fun c hc hkey => (hsame c hc hkey).2) ?_ (by rintro _ ⟨⟩) b h
      intro f hf
      rcases List.mem_cons.1 hf with rfl | hf
      · exact hover
      · exact lt_of_lt_of_le hover (hfirst f hf)
    cases e with
    | call c =>
      by_cases hkey : c.key = key
      · by_cases hover : w.reset < c.now
        · right
          apply hclosed hover
          rw [logOf, if_pos hkey, Call.answered, live_some, if_pos hover] at hb
          rw [logOf, if_pos hkey]
          exact hb
        · have hlive : live c.now (some w) = some w := by rw [live_some, if_neg hover]
          rw [logOf, if_pos hkey, hlive] at hb
          rcases List.mem_cons.1 hb with rfl | hb
          · left
            simp only [Call.answered, hlive]
            refine ⟨rfl, ?_, ?_⟩
            · rw [Call.reset_answer, Call.reset_leave_some]
            · rw [← (hsame c List.mem_cons_self hkey).1]
              exact Call.remaining_lt
          · have hnext := ih hrest hsame' hb
            have hcount : w.count ≤ (c.leave (some w)).count := c.count_le_leave w
            rw [Call.reset_leave_some] at hnext
            refine hnext.imp_left ?_
            rintro ⟨hopened, hreset, hremaining⟩
            refine ⟨hopened, hreset, fun hallowed => ?_⟩
            have hless := hremaining hallowed
            omega
      · rw [logOf, if_neg hkey] at hb
        exact ih hrest hsame' hb
    | prune now =>
      by_cases hover : w.reset < now
      · rw [logOf, live_some, if_pos hover] at hb
        exact Or.inr (hclosed hover hb)
      · rw [logOf, live_some, if_neg hover] at hb
        exact ih hrest hsame' hb

theorem pairwise_logOf {es : List (Event T)} (hes : Ordered es)
    (hsame : ∀ c ∈ calls es, c.key = key → c.limit = limit ∧ c.span = span)
    (w? : Option (Window T)) : (logOf key w? es).Pairwise (Follows span) := by
  induction es generalizing w? with
  | nil => exact List.Pairwise.nil
  | cons e es ih =>
    have hrest : Ordered es := (List.pairwise_cons.1 hes).2
    have hsame' : ∀ c ∈ calls es, c.key = key → c.limit = limit ∧ c.span = span :=
      fun c hc => hsame c (mem_calls_cons hc e)
    cases e with
    | call c =>
      rw [logOf]
      by_cases hkey : c.key = key
      · rw [if_pos hkey]
        refine List.pairwise_cons.2 ⟨?_, ih hrest hsame' _⟩
        intro b hb
        have hnext := follows_of_mem_logOf hrest hsame' hb
        rw [← Call.reset_answer] at hnext
        refine hnext.imp_left ?_
        rintro ⟨hopened, hreset, hremaining⟩
        refine ⟨hopened, hreset, fun hfirst hsecond => ?_⟩
        have hlimit : c.limit = limit := (hsame c List.mem_cons_self hkey).1
        have htold := Call.remaining_answer hfirst
        have hless := hremaining hsecond
        simp only [Call.answered]
        omega
      · rw [if_neg hkey]
        exact ih hrest hsame' w?
    | prune now => exact ih hrest hsame' _

theorem now_le_reset {es : List (Event T)} {w? : Option (Window T)} (hpos : 0 < span)
    (hspan : ∀ c ∈ calls es, c.key = key → c.span = span) {a : Answered T}
    (ha : a ∈ logOf key w? es) : a.call.now ≤ a.decision.reset := by
  obtain ⟨c, hc, hkey, v?, rfl⟩ := exists_of_mem_logOf a ha
  rw [Call.answered, Call.reset_answer]
  cases hlive : live c.now v? with
  | none =>
    have hsame : c.span = span := hspan c hc hkey
    rw [Call.leave, hsame]
    exact le_add_of_nonneg_right hpos.le
  | some w =>
    rw [Call.reset_leave_some]
    exact not_lt.1 (live_eq_some_iff.1 hlive).2

/-- A window ends a span after a call that came before. -/
theorem reset_le_of_mem_logOf {es : List (Event T)} (hes : Ordered es)
    (hspan : ∀ c ∈ calls es, c.key = key → c.span = span) :
    ∀ a ∈ logOf key none es, a.decision.reset ≤ a.call.now + span := by
  refine forall_mem_logOf (I := fun v? fs => Ordered fs ∧
    (∀ c ∈ calls fs, c.key = key → c.span = span) ∧
      ∀ v ∈ v?, ∀ f ∈ fs, v.reset ≤ f.now + span) ?_ ?_ ⟨hes, hspan, by rintro _ ⟨⟩⟩
  · rintro v? e fs ⟨hfs, hspan, hv⟩
    obtain ⟨hfirst, hrest⟩ := List.pairwise_cons.1 hfs
    refine ⟨hrest, fun c hc => hspan c (mem_calls_cons hc e), fun u hu f hf => ?_⟩
    rcases reset_of_mem_leave hspan hu with ⟨v, hmem, heq⟩ | heq
    · rw [heq]
      exact hv v hmem f (List.mem_cons_of_mem _ hf)
    · rw [heq]
      exact add_le_add_left (hfirst f hf) span
  · rintro v? c fs hkey ⟨-, hspan, hv⟩ -
    have hleft : c.leave (live c.now v?) ∈ Event.leave key v? (.call c) := by
      rw [Event.leave, if_pos hkey]
      rfl
    rw [Call.answered, Call.reset_answer]
    rcases reset_of_mem_leave hspan hleft with ⟨v, hmem, heq⟩ | heq
    · rw [heq]
      exact hv v hmem _ List.mem_cons_self
    · exact le_of_eq heq

/-- Windows that end within one span are one window, which allows no more calls than its limit. -/
theorem countP_reset_le {as : List (Answered T)} (hfollows : as.Pairwise (Follows span))
    (hlimit : 0 ≤ limit)
    (hremaining : ∀ a ∈ as, a.decision.allowed = true →
      0 ≤ a.decision.remaining ∧ a.decision.remaining < limit) (t : T) :
    ((as.countP fun a => a.decision.allowed ∧ t ≤ a.decision.reset ∧
      a.decision.reset ≤ t + span : Nat) : Int) ≤ limit := by
  rw [List.countP_eq_length_filter, ← List.length_map (·.decision.remaining)]
  refine length_le_of_pairwise_gt (List.pairwise_map.2 ?_) hlimit ?_
  · refine (hfollows.filter _).imp_of_mem ?_
    intro a b ha hb hab
    obtain ⟨-, ha⟩ := List.mem_filter.1 ha
    obtain ⟨-, hb⟩ := List.mem_filter.1 hb
    rw [decide_eq_true_eq] at ha hb
    rcases hab with ⟨-, -, hless⟩ | ⟨-, hlater⟩
    · exact hless ha.1 hb.1
    · have hend : a.decision.reset + span < t + span := lt_of_lt_of_le hlater hb.2.2
      exact absurd (lt_of_add_lt_add_right hend) (not_lt.2 ha.2.1)
  · intro x hx
    obtain ⟨a, ha, rfl⟩ := List.mem_map.1 hx
    obtain ⟨ha, hp⟩ := List.mem_filter.1 ha
    rw [decide_eq_true_eq] at hp
    exact hremaining a ha hp.1

/-- The windows that calls in an interval belong to end in it, or in the interval after it. -/
theorem countP_now_le {es : List (Event T)} (hes : Ordered es) (hlimit : 1 ≤ limit)
    (hpos : 0 < span) (hsame : ∀ c ∈ calls es, c.key = key → c.limit = limit ∧ c.span = span)
    (t : T) :
    (((logOf key none es).countP fun a =>
      a.decision.allowed ∧ t ≤ a.call.now ∧ a.call.now ≤ t + span : Nat) : Int) ≤ 2 * limit := by
  have hspan : ∀ c ∈ calls es, c.key = key → c.span = span :=
    fun c hc hkey => (hsame c hc hkey).2
  have hfollows := pairwise_logOf hes hsame none
  have hremaining : ∀ a ∈ logOf key none es, a.decision.allowed = true →
      0 ≤ a.decision.remaining ∧ a.decision.remaining < limit :=
    remaining_mem_of_mem_logOf hlimit fun c hc hkey => (hsame c hc hkey).1
  have hsplit : ∀ a ∈ logOf key none es,
      (decide (a.decision.allowed ∧ t ≤ a.call.now ∧ a.call.now ≤ t + span)) = true →
      (decide (a.decision.allowed ∧ t ≤ a.decision.reset ∧
        a.decision.reset ≤ t + span)) = true ∨
      (decide (a.decision.allowed ∧ t + span ≤ a.decision.reset ∧
        a.decision.reset ≤ t + span + span)) = true := by
    intro a ha h
    simp only [decide_eq_true_eq] at h ⊢
    obtain ⟨hallowed, hfrom, hto⟩ := h
    have hlow : t ≤ a.decision.reset := hfrom.trans (now_le_reset hpos hspan ha)
    have hhigh : a.decision.reset ≤ t + span + span :=
      (reset_le_of_mem_logOf hes hspan a ha).trans (add_le_add_left hto span)
    rcases le_total a.decision.reset (t + span) with h | h
    · exact Or.inl ⟨hallowed, hlow, h⟩
    · exact Or.inr ⟨hallowed, h, hhigh⟩
  have hcount := countP_le_add hsplit
  have hfirst := countP_reset_le hfollows (by omega) hremaining t
  have hsecond := countP_reset_le hfollows (by omega) hremaining (t + span)
  omega

end History

/-- The windows of a key open one after the other, each strictly after the reset time of those
before, and no interval as long as a window has more allowed calls than two windows. -/
theorem windows_apart (es : List (Event T)) (hes : Ordered es) (key : String) {limit : Int}
    {span : T} (hlimit : 1 ≤ limit) (hspan : 0 < span)
    (hsame : ∀ c ∈ calls es, c.key = key → c.limit = limit ∧ c.span = span) :
    ((callsOf key (log [] es)).filter (·.opened)).Pairwise
        (fun a b => a.decision.reset < b.call.now) ∧
      ∀ t, (((callsOf key (log [] es)).countP fun a =>
        a.decision.allowed ∧ t ≤ a.call.now ∧ a.call.now ≤ t + span : Nat) : Int) ≤ 2 * limit := by
  rw [callsOf_log_nil]
  exact ⟨pairwise_opened (pairwise_logOf hes hsame none), countP_now_le hes hlimit hspan hsame⟩

/-- The last call of a window and the first two of the next, among those of another key. -/
theorem windows_apart_burst :
    let es : List (Event Int) :=
      [.call ⟨0, "a", 2, 10⟩, .call ⟨4, "b", 1, 3⟩, .prune 9, .call ⟨10, "a", 2, 10⟩,
        .prune 11, .call ⟨11, "a", 2, 10⟩, .call ⟨12, "a", 2, 10⟩, .call ⟨12, "a", 2, 10⟩]
    let answers := callsOf "a" (log [] es)
    (Ordered es ∧ (1 : Int) ≤ 2 ∧ (0 : Int) < 10 ∧
        ∀ c ∈ calls es, c.key = "a" → c.limit = 2 ∧ c.span = 10) ∧
      (answers.filter (·.opened)).map (fun a => (a.call.now, a.decision.reset)) =
        [(0, 10), (11, 21)] ∧
      (answers.filter (·.opened)).Pairwise (fun a b => a.decision.reset < b.call.now) ∧
      (answers.countP fun a =>
        a.decision.allowed ∧ (2 : Int) ≤ a.call.now ∧ a.call.now ≤ 2 + 10) = 3 ∧
      ((answers.countP fun a => a.decision.allowed ∧ (2 : Int) ≤ a.call.now ∧
        a.call.now ≤ 2 + 10 : Nat) : Int) ≤ 2 * 2 := by
  intro es answers
  have hes : Ordered es := by decide
  have hsame : ∀ c ∈ calls es, c.key = "a" → c.limit = 2 ∧ c.span = 10 := by decide
  obtain ⟨hapart, hburst⟩ := windows_apart es hes "a" (by decide) (by decide) hsame
  exact ⟨⟨hes, by decide, by decide, hsame⟩, by decide, hapart, by decide, hburst 2⟩

end CaseChart.Limiter
