import CaseChart.Http.App
import CaseChart.Proofs.Throttle.Waiting
import CaseChart.Proofs.Throttle.Windows

namespace CaseChart.Http

inductive Event where
  | request (clock later : Float) (r : Request)
  | prune (now : Float)

def State.next (c : Config) (s : State) : Event → State
  | .request clock later r => (serve c s clock later r).2
  | .prune now => { s with limiter := (s.limiter.prune now).2 }

def State.after (c : Config) (s : State) (es : List Event) : State := es.foldl (State.next c) s

structure Exchange where
  clock : Float
  later : Float
  request : Request
  before : State
  reply : Reply
  after : State

def exchanges (c : Config) (s : State) : List Event → List Exchange
  | [] => []
  | .request clock later r :: es =>
    let served := serve c s clock later r
    ⟨clock, later, r, s, served.1, served.2⟩ :: exchanges c served.2 es
  | .prune now :: es => exchanges c (s.next c (.prune now)) es

theorem exchanges_append (c : Config) (s : State) (es fs : List Event) :
    exchanges c s (es ++ fs) = exchanges c s es ++ exchanges c (State.after c s es) fs := by
  induction es generalizing s with
  | nil => rfl
  | cons e es ih =>
    cases e with
    | request clock later r => exact congrArg (_ :: ·) (ih (serve c s clock later r).2)
    | prune now => exact ih (s.next c (.prune now))

/-- Every reply is the one that the application gives, in the state that it has reached. -/
theorem serve_of_mem_exchanges {c : Config} {s : State} {es : List Event} {x : Exchange}
    (h : x ∈ exchanges c s es) :
    serve c x.before x.clock x.later x.request = (x.reply, x.after) := by
  induction es generalizing s with
  | nil => cases h
  | cons e es ih =>
    cases e with
    | request clock later r =>
      rcases List.mem_cons.1 h with rfl | h
      · rfl
      · exact ih h
    | prune now => exact ih h

/-- The endpoint that a request goes to and the content of its body, if it goes to a route on charts
and its body is read. -/
def guarded? (r : Request) : Option (Endpoint × Content) :=
  match resolve r.method r.path, Content.ofRequest r with
  | .ok (.charts e), .ok body => some (e, body)
  | _, _ => none

theorem guarded?_eq_some {r : Request} {e : Endpoint} {body : Content}
    (h : guarded? r = some (e, body)) :
    resolve r.method r.path = .ok (.charts e) ∧ Content.ofRequest r = .ok body := by
  unfold guarded? at h
  split at h
  · next hr hb =>
    obtain ⟨rfl, rfl⟩ := Prod.mk.inj (Option.some.inj h)
    exact ⟨hr, hb⟩
  · cases h

theorem method_of_resolve {method : String} {path : Text} {target : Target}
    (h : resolve method path = .ok target) : target.method = method := by
  unfold resolve at h
  split at h
  · next t ht =>
    split at h
    · next hm =>
      cases h
      exact hm
    · cases h
  · split at h
    · cases h
    · cases h

/-- Every route is found by its method and its path. -/
theorem resolve_of_mem_routes {path : String} {target : Target}
    (h : (path, target) ∈ Target.routes) : resolve target.method path.toList = .ok target := by
  simp only [Target.routes, List.mem_cons, List.not_mem_nil, or_false, Prod.mk.injEq] at h
  rcases h with ⟨rfl, rfl⟩ | ⟨rfl, rfl⟩ | ⟨rfl, rfl⟩ | ⟨rfl, rfl⟩ | ⟨rfl, rfl⟩ | ⟨rfl, rfl⟩ <;> rfl

theorem guarded?_of_mem_routes {path : String} {e : Endpoint}
    (h : (path, .charts e) ∈ Target.routes) {r : Request} (hmethod : r.method = "POST")
    (hpath : r.path = path.toList) {body : Content} (hbody : Content.ofRequest r = .ok body) :
    guarded? r = some (e, body) := by
  have hresolve : resolve r.method r.path = .ok (.charts e) := by
    rw [hmethod, hpath]
    exact resolve_of_mem_routes h
  rw [guarded?, hresolve, hbody]

theorem serve_congr {c c' : Config} {s : State} {clock later : Float} {r : Request}
    (h : route c s.limiter clock later r = route c' s.limiter clock later r) :
    serve c s clock later r = serve c' s clock later r := by
  unfold serve serveBound
  rw [h]

theorem serve_of_method {c : Config} {s : State} {clock later : Float} {r : Request}
    (h : r.method ≠ "OPTIONS") : serve c s clock later r = serveBound c s clock later r := by
  have hno : Preflight.ofRequest? r = none := by
    rw [Preflight.ofRequest?, if_neg fun hp => h hp.1]
  rw [serve, hno]

def replyTo (s : State) (r : Request) (outcome : Except Fault Reply) : Reply :=
  let reply :=
    match outcome with
    | .ok reply =>
      { reply with correlation := some (s.journal.bind (r.header? "X-Correlation-ID")).1 }
    | .error _ => .failure
  reply.sentTo r.method

theorem replyTo_error {r : Request} (h : r.method ≠ "HEAD") (s : State) (f : Fault) :
    replyTo s r (.error f) = .failure := if_neg h

theorem reply_serveBound (c : Config) (s : State) (clock later : Float) (r : Request) :
    (serveBound c s clock later r).1 = replyTo s r (route c s.limiter clock later r).outcome := rfl

theorem limiter_serveBound (c : Config) (s : State) (clock later : Float) (r : Request) :
    (serveBound c s clock later r).2.limiter = (route c s.limiter clock later r).limiter := rfl

def Request.call (l : Limits) (clock : Float) (r : Request) : Limiter.Call Float :=
  ⟨clock, Admission.keyOf r.host, l.callsPerWindow, l.windowSeconds⟩

/-- What becomes of a request that reaches the limiter with a call: its endpoint is run, or it is
told how long to wait. -/
def throttled (m : Limiter Float) (call : Limiter.Call Float) (later : Float) (run : Handled) :
    Served :=
  if (m.call call).1.allowed then ⟨run.outcome, (m.call call).2, run.notes⟩
  else
    ⟨((Admission.wait later (m.call call).1.reset).map Reply.tooMany).mapError .nonFinite,
      (m.call call).2, Notes.check call.key call.limit (m.call call).1⟩

theorem throttled_of_allowed {m : Limiter Float} {call : Limiter.Call Float}
    (h : (m.call call).1.allowed = true) (later : Float) (run : Handled) :
    throttled m call later run = ⟨run.outcome, (m.call call).2, run.notes⟩ := if_pos h

/-- The endpoint is not run for a call that is refused. -/
theorem throttled_of_refused {m : Limiter Float} {call : Limiter.Call Float}
    (h : (m.call call).1.allowed = false) (later : Float) (run : Handled) :
    throttled m call later run =
      ⟨((Admission.wait later (m.call call).1.reset).map Reply.tooMany).mapError .nonFinite,
        (m.call call).2, Notes.check call.key call.limit (m.call call).1⟩ :=
  if_neg (Bool.eq_false_iff.1 h)

theorem limiter_throttled (m : Limiter Float) (call : Limiter.Call Float) (later : Float)
    (run : Handled) : (throttled m call later run).limiter = (m.call call).2 := by
  rw [throttled]
  split <;> rfl

/-- A question after the health of the server does not reach the limiter and is answered. -/
theorem serve_health {r : Request} (hmethod : r.method = "GET")
    (hpath : r.path = "/api/v1/health".toList) (c : Config) (s : State) (clock later : Float) :
    guarded? r = none ∧ (serve c s clock later r).1.status = 200 := by
  have hresolve : resolve r.method r.path = .ok .health := by
    rw [hmethod, hpath]
    have hroute : ("/api/v1/health", Target.health) ∈ Target.routes := List.mem_cons_self
    exact resolve_of_mem_routes hroute
  have hno : r.method ≠ "OPTIONS" := by
    rw [hmethod]
    decide
  have hbody : r.method ≠ "HEAD" := by
    rw [hmethod]
    decide
  constructor
  · rw [guarded?, hresolve]
  · rw [serve_of_method hno, reply_serveBound, route, hresolve, replyTo, Reply.sentTo,
      if_neg hbody]
    rfl

section Step
variable {c : Config} {l : Limits} (hl : c.limits = .ok l) {r : Request}
include hl

theorem route_guarded {e : Endpoint} {body : Content} (h : guarded? r = some (e, body))
    (m : Limiter Float) (clock later : Float) :
    route c m clock later r = throttled m (r.call l clock) later (e.run c.service c.now body) := by
  obtain ⟨hr, hb⟩ := guarded?_eq_some h
  rw [route, hr]
  dsimp only
  rw [serveCharts, hb, hl]
  dsimp only
  rw [Admission.enforce_eq, throttled, Request.call]
  dsimp only
  cases (m.call ⟨clock, Admission.keyOf r.host, l.callsPerWindow, l.windowSeconds⟩).1.allowed with
  | true => rfl
  | false => rfl

theorem serve_guarded {e : Endpoint} {body : Content} (h : guarded? r = some (e, body))
    (s : State) (clock later : Float) :
    (serve c s clock later r).1 = replyTo s r
        (throttled s.limiter (r.call l clock) later (e.run c.service c.now body)).outcome ∧
      (serve c s clock later r).2.limiter = (s.limiter.call (r.call l clock)).2 := by
  have hmethod : r.method ≠ "OPTIONS" := by
    have hpost : "POST" = r.method := method_of_resolve (guarded?_eq_some h).1
    rw [← hpost]
    decide
  rw [serve_of_method hmethod, reply_serveBound, limiter_serveBound, route_guarded hl h]
  exact ⟨rfl, limiter_throttled _ _ _ _⟩

end Step

/-- A request that does not reach the limiter neither changes the table nor depends on it. -/
theorem route_unguarded {r : Request} (h : guarded? r = none) (c : Config) (clock later : Float) :
    ∃ outcome, ∀ m, route c m clock later r = ⟨outcome, m, []⟩ := by
  unfold route
  cases hr : resolve r.method r.path with
  | error reply => exact ⟨.ok reply, fun m => rfl⟩
  | ok target =>
    cases target with
    | health => exact ⟨_, fun m => rfl⟩
    | charts e =>
      cases hb : Content.ofRequest r with
      | error flaw => exact ⟨Schema.unread flaw, fun m => by dsimp only; rw [serveCharts, hb]⟩
      | ok body =>
        rw [guarded?, hr, hb] at h
        cases h

theorem serve_unguarded {r : Request} (h : guarded? r = none) (c : Config) (s : State)
    (clock later : Float) (m : Limiter Float) :
    serve c { s with limiter := m } clock later r =
      ((serve c s clock later r).1, { (serve c s clock later r).2 with limiter := m }) := by
  obtain ⟨outcome, hroute⟩ := route_unguarded h c clock later
  unfold serve
  cases Preflight.ofRequest? r with
  | some question => rfl
  | none =>
    simp only [serveBound, hroute]

def Event.onLimiter? (l : Limits) : Event → Option (Limiter.Event Float)
  | .request clock _ r => (guarded? r).map fun _ => .call (r.call l clock)
  | .prune now => some (.prune now)

/-- Whether a request was guarded, and came from the clients of a key. -/
def Exchange.concerns (key : String) (x : Exchange) : Bool :=
  (guarded? x.request).isSome && Admission.keyOf x.request.host == key

/-- Whether a request found no live window of its host. -/
def Exchange.opens (x : Exchange) : Bool :=
  (Limiter.live x.clock
    (Entries.get? (Admission.keyOf x.request.host) x.before.limiter)).isNone

def Exchange.answered (l : Limits) (x : Exchange) : Limiter.Answered Float :=
  ⟨x.request.call l x.clock, x.opens, (x.before.limiter.call (x.request.call l x.clock)).1⟩

section Run
variable {c : Config} {l : Limits} (hl : c.limits = .ok l)
include hl

theorem limiter_serve (s : State) (clock later : Float) (r : Request) :
    (serve c s clock later r).2.limiter =
      ((Event.request clock later r).onLimiter? l).elim s.limiter s.limiter.next := by
  rw [Event.onLimiter?]
  cases h : guarded? r with
  | none => exact congrArg (·.2.limiter) (serve_unguarded h c s clock later s.limiter)
  | some p =>
    obtain ⟨e, body⟩ := p
    exact (serve_guarded hl h s clock later).2

theorem limiter_after (s : State) (es : List Event) :
    (State.after c s es).limiter = Limiter.after s.limiter (es.filterMap (Event.onLimiter? l)) := by
  induction es generalizing s with
  | nil => rfl
  | cons e es ih =>
    rw [State.after, List.foldl_cons, ← State.after, ih]
    cases e with
    | request clock later r =>
      rw [State.next, limiter_serve hl]
      cases h : (Event.request clock later r).onLimiter? l with
      | none => rw [List.filterMap_cons_none h]; rfl
      | some f => rw [List.filterMap_cons_some h]; rfl
    | prune now => rfl

theorem opens_eq (past : List Event) (clock later : Float) (r : Request) (reply : Reply)
    (after : State) :
    Exchange.opens ⟨clock, later, r, State.after c {} past, reply, after⟩ =
      Limiter.opens (past.filterMap (Event.onLimiter? l)) (r.call l clock) := by
  rw [Exchange.opens, limiter_after hl, Limiter.opens]
  rfl

theorem map_answered (s : State) (es : List Event) :
    ((exchanges c s es).filter fun x => (guarded? x.request).isSome).map (Exchange.answered l) =
      s.limiter.log (es.filterMap (Event.onLimiter? l)) := by
  induction es generalizing s with
  | nil => rfl
  | cons e es ih =>
    cases e with
    | request clock later r =>
      have hlimiter := limiter_serve hl s clock later r
      rw [exchanges]
      cases h : guarded? r with
      | none =>
        have hno : (Event.request clock later r).onLimiter? l = none := by
          rw [Event.onLimiter?, h]
          rfl
        rw [hno] at hlimiter
        rw [List.filter_cons_of_neg (by simp [h]), ih, List.filterMap_cons_none hno, hlimiter]
        rfl
      | some p =>
        have hcall :
            (Event.request clock later r).onLimiter? l = some (.call (r.call l clock)) := by
          rw [Event.onLimiter?, h]
          rfl
        rw [hcall] at hlimiter
        rw [List.filter_cons_of_pos (by simp [h]), List.map_cons, ih,
          List.filterMap_cons_some hcall, hlimiter, Limiter.log]
        rfl
    | prune now => exact ih _

/-- The limiter sees the guarded requests of a run as its own run. -/
theorem map_answered_concerns (key : String) (es : List Event) :
    ((exchanges c {} es).filter (Exchange.concerns key)).map (Exchange.answered l) =
      Limiter.logOf key none (es.filterMap (Event.onLimiter? l)) := by
  have hfilter : (exchanges c {} es).filter (Exchange.concerns key) =
      ((exchanges c {} es).filter fun x => (guarded? x.request).isSome).filter
        fun x => (x.answered l).call.key = key := by
    rw [List.filter_filter]
    refine List.filter_congr fun x _ => ?_
    rw [Exchange.concerns, Bool.and_comm]
    rfl
  rw [hfilter, ← Limiter.callsOf_log_nil, ← map_answered hl {} es, Limiter.callsOf, List.filter_map]
  rfl

end Run
end CaseChart.Http
