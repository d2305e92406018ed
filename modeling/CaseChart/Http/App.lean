import CaseChart.Http.Preflight
import CaseChart.Http.Route

namespace CaseChart.Http

/-- What an application is built from: its service, its limits, which may be unavailable, and
the time at which it publishes. -/
structure Config where
  service : Service := Service.charts
  limits : Except Fault Limits := .ok {}
  now : Moment

structure State where
  limiter : Limiter Float := []
  journal : Journal := {}

/-- A request on its way: a reply, or a fault of the server itself. -/
structure Served where
  outcome : Except Fault Reply
  limiter : Limiter Float
  notes : List Record := []

/-- Serves a route on charts: the syntax of the body comes first and costs nothing; then one call
is consumed, whatever becomes of the request. A request that is refused has the clock read once
more, at `later`. -/
def serveCharts (c : Config) (m : Limiter Float) (clock later : Float) (r : Request)
    (e : Endpoint) : Served :=
  match Content.ofRequest r with
  | .error flaw => ⟨Schema.unread flaw, m, []⟩
  | .ok body =>
    match c.limits with
    | .error f => ⟨.error f, m, []⟩
    | .ok l =>
      match Admission.enforce m clock r.host l.callsPerWindow l.windowSeconds later with
      | (.error refused, m) =>
        ⟨(refused.seconds.map Reply.tooMany).mapError .nonFinite, m,
          Notes.check (Admission.keyOf r.host) l.callsPerWindow refused.decision⟩
      | (.ok _, m) =>
        let handled := e.run c.service c.now body
        ⟨handled.outcome, m, handled.notes⟩

def route (c : Config) (m : Limiter Float) (clock later : Float) (r : Request) : Served :=
  match resolve r.method r.path with
  | .error reply => ⟨.ok reply, m, []⟩
  | .ok .health =>
    let healthy : Value :=
      .record [("status", .text "healthy"), ("message", .text "Server Healthy")]
    ⟨.ok (.ok healthy), m, []⟩
  | .ok (.charts e) => serveCharts c m clock later r e

def requestNote (r : Request) : Except Fault Reply → List Record
  | .ok reply =>
    [⟨.requests, Level.ofStatus reply.status, s!"{r.method} {r.notedPath} - {reply.status}",
      [("status_code", .int reply.status), ("client_host", .optional r.host)]⟩]
  | .error f =>
    [⟨.requests, Level.error, s!"{r.method} {r.notedPath} - unhandled {f.name}", []⟩]

/-- Serves one request under its id: binds it, serves, notes the end, and binds none again. -/
def serveBound (c : Config) (s : State) (clock later : Float) (r : Request) : Reply × State :=
  let (id, journal) := s.journal.bind (r.header? "X-Correlation-ID")
  let served := route c s.limiter clock later r
  let journal := ((journal.write served.notes).write (requestNote r served.outcome)).clear
  let reply :=
    match served.outcome with
    | .ok reply => { reply with correlation := some id }
    | .error _ => .failure
  (reply.sentTo r.method, ⟨served.limiter, journal⟩)

def serve (c : Config) (s : State) (clock later : Float) (r : Request) : Reply × State :=
  match Preflight.ofRequest? r with
  | some question => (question.reply, s)
  | none => serveBound c s clock later r

end CaseChart.Http
