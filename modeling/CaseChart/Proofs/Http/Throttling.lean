import CaseChart.Proofs.Http.Run

namespace CaseChart.Http

/-- A request that gets past the limiter: it is answered by its endpoint. -/
def Exchange.Passed (c : Config) (x : Exchange) : Prop :=
  ∃ e body, guarded? x.request = some (e, body) ∧
    x.reply = replyTo x.before x.request (e.run c.service c.now body).outcome

/-- A request that is refused in a window until `reset`: whatever the service is, it is told how
many seconds to wait, and where there is no end to them the server fails. -/
def Exchange.Refused (c : Config) (reset : Float) (x : Exchange) : Prop :=
  (∀ service, serve { c with service := service } x.before x.clock x.later x.request =
      (x.reply, x.after)) ∧
    match Admission.wait x.later reset with
    | .ok seconds => x.reply = replyTo x.before x.request (.ok (.tooMany seconds))
    | .error _ => x.reply = .failure

section
variable {c : Config} {l : Limits} (hl : c.limits = .ok l) {s : State} {es : List Event}
  {x : Exchange} (hx : x ∈ exchanges c s es) {e : Endpoint} {body : Content}
  (hguarded : guarded? x.request = some (e, body))
include hl hx hguarded

theorem Exchange.passed_of_allowed (h : (x.answered l).decision.allowed = true) : x.Passed c := by
  have hreply := (serve_guarded hl hguarded x.before x.clock x.later).1
  rw [serve_of_mem_exchanges hx, throttled_of_allowed h] at hreply
  exact ⟨e, body, hguarded, hreply⟩

theorem Exchange.refused_of_not_allowed (h : (x.answered l).decision.allowed = false) :
    x.Refused c (x.answered l).decision.reset := by
  have hserve := serve_of_mem_exchanges hx
  constructor
  · intro service
    have hl' : ({ c with service := service } : Config).limits = .ok l := hl
    rw [← hserve]
    refine serve_congr ?_
    rw [route_guarded hl hguarded, route_guarded hl' hguarded, throttled_of_refused h,
      throttled_of_refused h]
  · have hreply := (serve_guarded hl hguarded x.before x.clock x.later).1
    rw [hserve, throttled_of_refused h] at hreply
    have hpost : "POST" = x.request.method := method_of_resolve (guarded?_eq_some hguarded).1
    have hwait : Admission.wait x.later
        (x.before.limiter.call (x.request.call l x.clock)).1.reset =
          Admission.wait x.later (x.answered l).decision.reset := rfl
    rw [hwait] at hreply
    cases hw : Admission.wait x.later (x.answered l).decision.reset with
    | ok seconds =>
      rw [hw] at hreply
      exact hreply
    | error e =>
      rw [hw] at hreply
      have hno : x.request.method ≠ "HEAD" := by
        rw [← hpost]
        decide
      exact hreply.trans (replyTo_error hno x.before _)

end

theorem limit_of_mem_calls {l : Limits} {es : List Event} {d : Limiter.Call Float}
    (hd : d ∈ Limiter.calls (es.filterMap (Event.onLimiter? l))) : d.limit = l.callsPerWindow := by
  obtain ⟨f, hf, hfd⟩ := List.mem_filterMap.1 hd
  obtain ⟨e, -, he⟩ := List.mem_filterMap.1 hf
  cases e with
  | request clock later r =>
    obtain ⟨p, -, rfl⟩ := Option.map_eq_some_iff.1 he
    cases hfd
    rfl
  | prune now =>
    cases he
    cases hfd

/-- The requests of a window are numbered from the one that opens it. -/
theorem decision_of_window {c : Config} {l : Limits} (hl : c.limits = .ok l)
    (hlimit : 1 ≤ l.callsPerWindow) {es : List Event} {key : String}
    {before within later : List Exchange} {opening : Exchange}
    (hxs : (exchanges c {} es).filter (Exchange.concerns key) =
      before ++ opening :: (within ++ later))
    (hopening : opening.opens = true) (hwithin : ∀ x ∈ within, x.opens = false) {i : Nat}
    {x : Exchange} (hx : (opening :: within)[i]? = some x) :
    (x.answered l).decision =
      Decision.nth l.callsPerWindow (opening.clock + l.windowSeconds) i := by
  have hlog := map_answered_concerns hl key es
  rw [hxs, List.map_append, List.map_cons, List.map_append] at hlog
  have hsame : ∀ d ∈ Limiter.calls (es.filterMap (Event.onLimiter? l)), d.key = key →
      d.limit = l.callsPerWindow := fun d hd _ => limit_of_mem_calls hd
  have hopens : ∀ a ∈ within.map (Exchange.answered l), a.opened = false := by
    intro a ha
    obtain ⟨y, hy, rfl⟩ := List.mem_map.1 ha
    exact hwithin y hy
  have hdecisions := Limiter.decisions_from hlimit hsame hlog.symm hopening hopens
  have hi : i < within.length + 1 := (List.getElem?_eq_some_iff.1 hx).1
  have hget := congrArg (·[i]?) hdecisions
  rw [← List.map_cons, List.map_map] at hget
  simp only [List.getElem?_map, hx, List.length_map, List.getElem?_range hi] at hget
  exact Option.some.inj hget

/-- The first requests of a window pass, the others are refused. -/
theorem passed_or_refused_of_window {c : Config} {l : Limits} (hl : c.limits = .ok l)
    (hlimit : 1 ≤ l.callsPerWindow) {es : List Event} {key : String}
    {before within later : List Exchange} {opening : Exchange}
    (hxs : (exchanges c {} es).filter (Exchange.concerns key) =
      before ++ opening :: (within ++ later))
    (hopening : opening.opens = true) (hwithin : ∀ x ∈ within, x.opens = false) {i : Nat}
    {x : Exchange} (hx : (opening :: within)[i]? = some x) :
    if i < l.callsPerWindow then x.Passed c
    else x.Refused c (opening.clock + l.windowSeconds) := by
  have hdecision := decision_of_window hl hlimit hxs hopening hwithin hx
  have hmem : x ∈ (exchanges c {} es).filter (Exchange.concerns key) := by
    rw [hxs, ← List.cons_append]
    exact List.mem_append_right _ (List.mem_append_left _ (List.mem_of_getElem? hx))
  obtain ⟨hxmem, hconcerns⟩ := List.mem_filter.1 hmem
  obtain ⟨⟨e, body⟩, hguarded⟩ :=
    Option.isSome_iff_exists.1 ((Bool.and_eq_true _ _).mp hconcerns).1
  split
  · next hi =>
    refine Exchange.passed_of_allowed hl hxmem hguarded ?_
    rw [hdecision, Decision.nth, if_pos hi]
  · next hi =>
    have hreset : (x.answered l).decision.reset = opening.clock + l.windowSeconds := by
      rw [hdecision, Decision.nth, if_neg hi]
    rw [← hreset]
    refine Exchange.refused_of_not_allowed hl hxmem hguarded ?_
    rw [hdecision, Decision.nth, if_neg hi]

theorem opens_of_mem_head? {c : Config} {l : Limits} (hl : c.limits = .ok l) {es : List Event}
    {key : String} {x : Exchange}
    (hx : x ∈ ((exchanges c {} es).filter (Exchange.concerns key)).head?) : x.opens = true := by
  have hhead : x.answered l ∈
      (Limiter.logOf key none (es.filterMap (Event.onLimiter? l))).head? := by
    rw [← map_answered_concerns hl key es, List.head?_map]
    exact Option.mem_map_of_mem _ hx
  exact Limiter.opened_of_mem_head? hhead

/-- Every request to a route on charts whose body is read is one call of its host, whichever route
it is and whatever becomes of it. The first calls of a host in a window get past the limiter, the
others are refused whatever the service is. A call opens a window unless an earlier one of its host
has, and neither a pruning nor a call of the host, this one included, has come after the end of that
window since. Other requests leave the table as it is and are answered the same whatever is in it,
and a question after the health of the server is always answered. -/
theorem window_guards_routes (c : Config) (l : Limits) (hl : c.limits = .ok l)
    (hlimit : 1 ≤ l.callsPerWindow) (es : List Event) :
    let xs := exchanges c {} es
    (∀ path e, (path, .charts e) ∈ Target.routes → ∀ r : Request, r.method = "POST" →
        r.path = path.toList → ∀ body, Content.ofRequest r = .ok body →
          guarded? r = some (e, body)) ∧
      (State.after c {} es).limiter = Limiter.after [] (es.filterMap (Event.onLimiter? l)) ∧
      (∀ key, ∀ x ∈ (xs.filter (Exchange.concerns key)).head?, x.opens = true) ∧
      (∀ past clock later r future, es = past ++ .request clock later r :: future →
        ∃ x, xs = exchanges c {} past ++ x :: exchanges c x.after future ∧
          x.clock = clock ∧ x.later = later ∧ x.request = r ∧
          x.opens = Limiter.opens (past.filterMap (Event.onLimiter? l)) (r.call l clock)) ∧
      (∀ (past : List (Limiter.Event Float)) call, Limiter.opens past call = false ↔
        ∃ o, o.key = call.key ∧ Limiter.Opener past o ∧ ¬o.now + o.span < call.now) ∧
      (∀ key before opening within later,
        xs.filter (Exchange.concerns key) = before ++ opening :: (within ++ later) →
          opening.opens = true → (∀ x ∈ within, x.opens = false) →
            ∀ (i : Nat) x, (opening :: within)[i]? = some x →
              if i < l.callsPerWindow then x.Passed c
              else x.Refused c (opening.clock + l.windowSeconds)) ∧
      (∀ x ∈ xs, guarded? x.request = none → ∀ m,
        serve c { x.before with limiter := m } x.clock x.later x.request =
          (x.reply, { x.after with limiter := m })) ∧
      ∀ x ∈ xs, x.request.method = "GET" → x.request.path = "/api/v1/health".toList →
        guarded? x.request = none ∧ x.reply.status = 200 := by
  intro xs
  refine ⟨fun path e h r hmethod hpath body hbody => guarded?_of_mem_routes h hmethod hpath hbody,
    limiter_after hl {} es, fun key x hx => opens_of_mem_head? hl hx, ?_,
    fun _ _ => Limiter.opens_eq_false_iff, ?_, ?_, ?_⟩
  · rintro past clock later r future rfl
    refine ⟨⟨clock, later, r, State.after c {} past, _, _⟩, exchanges_append c {} past _, rfl, rfl,
      rfl, opens_eq hl past clock later r _ _⟩
  · intro key before opening within later hxs hopening hwithin i x hx
    exact passed_or_refused_of_window hl hlimit hxs hopening hwithin hx
  · intro x hx hguarded m
    rw [serve_unguarded hguarded, serve_of_mem_exchanges hx]
  · intro x hx hmethod hpath
    obtain ⟨hguarded, hstatus⟩ := serve_health hmethod hpath c x.before x.clock x.later
    rw [serve_of_mem_exchanges hx] at hstatus
    exact ⟨hguarded, hstatus⟩

def jsonPost (path body host : String) : Request :=
  ⟨"POST", path.toList, body.toList, [("Content-Type", "application/json")], some host⟩

/-- Routes of three kinds, an invalid body and questions after the health share a window of two
calls; another host has a window of its own. -/
theorem window_guards_routes_mixed :
    let l : Limits := { callsPerWindow := 2 }
    let c : Config := { limits := .ok l, now := ⟨⟨2024, 1, 1⟩, 0, 0, 0, 0, 0⟩ }
    let health : Request := { method := "GET", path := "/api/v1/health".toList }
    let chart := "\x7b\"diagram\": \"graph TD\"\x7d"
    let es : List Event := [.request 1000 1000 health,
      .request 1000 1000 (jsonPost "/api/v1/diagrams/merge" "\x7b\x7d" "a"),
      .request 1001 1001 health,
      .request 1002 1002 (jsonPost "/api/v1/diagrams/stats" chart "a"),
      .request 1003 1004 (jsonPost "/api/v1/diagrams/validate" "[]" "a"),
      .request 1004 1004 health,
      .request 1004 1004 (jsonPost "/api/v1/diagrams/analyze" "1" "b")]
    let xs := exchanges c {} es
    let as := xs.filter (Exchange.concerns "a")
    c.limits = .ok l ∧ 1 ≤ l.callsPerWindow ∧
      xs.map (·.reply.status) = [200, 422, 200, 200, 429, 200, 422] ∧
      ∃ x y z, as = [x, y, z] ∧ x.opens = true ∧ y.opens = false ∧ z.opens = false ∧
        x.Passed c ∧ y.Passed c ∧ z.Refused c (x.clock + l.windowSeconds) := by
  intro l c health chart es xs as
  have hopens : as.map Exchange.opens = [true, false, false] := by decide +kernel
  obtain ⟨x, yz, has, hx, hyz⟩ := List.map_eq_cons_iff.1 hopens
  obtain ⟨y, zs, rfl, hy, hzs⟩ := List.map_eq_cons_iff.1 hyz
  obtain ⟨z, rfl, hz⟩ := List.map_eq_singleton_iff.1 hzs
  have hwithin : ∀ w ∈ [y, z], w.opens = false := by simp [hy, hz]
  obtain ⟨-, -, -, -, -, hwindow, -⟩ := window_guards_routes c l rfl (by decide) es
  have hnumbered := hwindow "a" [] x [y, z] [] has hx hwithin
  exact ⟨rfl, by decide, by decide +kernel, x, y, z, has, hx, hy, hz, hnumbered 0 x rfl,
    hnumbered 1 y rfl, hnumbered 2 z rfl⟩

/-- In a window without an end the second request is not told that there were too many. -/
theorem window_without_end :
    let c : Config :=
      { limits := .ok { callsPerWindow := 1, windowSeconds := 1 / 0 },
        now := ⟨⟨2024, 1, 1⟩, 0, 0, 0, 0, 0⟩ }
    let r := jsonPost "/api/v1/diagrams/stats" "\x7b\"diagram\": \"graph TD\"\x7d" "a"
    let xs := exchanges c {} [.request 1000 1000 r, .request 1000 1000 r]
    (xs.filter (Exchange.concerns "a")).map Exchange.opens = [true, false] ∧
      xs.map (·.reply.status) = [200, 500] := by
  decide +kernel

end CaseChart.Http
