import CaseChart.Http.Layers
import CaseChart.Proofs.Http.Run
import CaseChart.Proofs.Journal.Correlation

namespace CaseChart.Http

theorem correlation_sentTo (method : String) (reply : Reply) :
    (reply.sentTo method).correlation = reply.correlation := by
  rw [Reply.sentTo]
  split <;> rfl

theorem status_sentTo (method : String) (reply : Reply) :
    (reply.sentTo method).status = reply.status := by
  rw [Reply.sentTo]
  split <;> rfl

theorem method_of_ofRequest? {r : Request} {question : Preflight}
    (h : Preflight.ofRequest? r = some question) : r.method = "OPTIONS" := by
  rw [Preflight.ofRequest?] at h
  split at h
  · next hr => exact hr.1
  · cases h

namespace Layer

theorem journal_noted_routes (c : Config) (s : State) (clock later : Float) (r : Request) :
    (noted (routes c) s clock later r).2.journal =
      s.journal.write ((route c s.limiter clock later r).notes ++
        requestNote r (route c s.limiter clock later r).outcome) := by
  rw [← Journal.write_write]
  rfl

/-- No id stays bound, whether the layer inside gives a reply or raises a fault. -/
theorem bound_correlated (inner : Layer) (s : State) (clock later : Float) (r : Request) :
    (correlated inner s clock later r).2.journal.bound = none := rfl

/-- If the layer inside only writes to the journal, all of it is written under one id. -/
theorem journal_correlated {inner : Layer} {s : State} {clock later : Float} {r : Request}
    {rs : List Record}
    (h : (inner { s with journal := (s.journal.bind (r.header? "X-Correlation-ID")).2 }
        clock later r).2.journal =
      (s.journal.bind (r.header? "X-Correlation-ID")).2.write rs) :
    (correlated inner s clock later r).2.journal =
      s.journal.under (r.header? "X-Correlation-ID") rs :=
  congrArg Journal.clear h

theorem serveBound_eq_send (c : Config) (s : State) (clock later : Float) (r : Request) :
    serveBound c s clock later r = send (correlated (noted (routes c))) s clock later r := by
  simp only [serveBound, send, correlated, noted, routes]
  cases (route c s.limiter clock later r).outcome with
  | ok reply => rfl
  | error f => rfl

/-- The application is the routes with its layers around them. -/
theorem serve_eq_send (c : Config) (s : State) (clock later : Float) (r : Request) :
    serve c s clock later r = send (app c) s clock later r := by
  have happ : app c s clock later r =
      screened (correlated (noted (routes c))) s clock later r := rfl
  rw [serve, send, happ, screened]
  cases h : Preflight.ofRequest? r with
  | none => exact serveBound_eq_send c s clock later r
  | some question =>
    have hmethod : r.method ≠ "HEAD" := by
      rw [method_of_ofRequest? h]
      decide
    exact Prod.ext (if_neg hmethod).symm rfl

end Layer

theorem serve_of_ahead {c : Config} {s : State} {clock later : Float} {r : Request}
    {question : Preflight} (h : Preflight.ofRequest? r = some question) :
    serve c s clock later r = (question.reply, s) := by
  rw [serve, h]

theorem journal_serve {r : Request} (h : Preflight.ofRequest? r = none) (c : Config) (s : State)
    (clock later : Float) :
    (serve c s clock later r).2.journal =
      s.journal.under (r.header? "X-Correlation-ID") ((route c s.limiter clock later r).notes ++
        requestNote r (route c s.limiter clock later r).outcome) := by
  have hserve : serve c s clock later r = serveBound c s clock later r := by rw [serve, h]
  rw [hserve, Layer.serveBound_eq_send]
  exact Layer.journal_correlated (Layer.journal_noted_routes c _ clock later r)

theorem idle_serve {s : State} (hs : s.journal.Idle) (c : Config) (clock later : Float)
    (r : Request) : (serve c s clock later r).2.journal.Idle := by
  cases h : Preflight.ofRequest? r with
  | some question => rwa [serve_of_ahead h]
  | none =>
    rw [journal_serve h]
    exact hs.under _ _

theorem made_le_made_serve (c : Config) (s : State) (clock later : Float) (r : Request) :
    s.journal.made ≤ (serve c s clock later r).2.journal.made := by
  cases h : Preflight.ofRequest? r with
  | some question => rw [serve_of_ahead h]
  | none =>
    rw [journal_serve h]
    exact Journal.made_le_made_bind _ _

namespace Exchange

def sentId? (x : Exchange) : Option String := x.request.header? "X-Correlation-ID"

def id (x : Exchange) : CorrelationId := (x.before.journal.bind x.sentId?).1

def ahead (x : Exchange) : Bool := (Preflight.ofRequest? x.request).isSome

def served (c : Config) (x : Exchange) : Served :=
  route c x.before.limiter x.clock x.later x.request

def notes (c : Config) (x : Exchange) : List Record :=
  if x.ahead then [] else (x.served c).notes ++ requestNote x.request (x.served c).outcome

def stamped (c : Config) (x : Exchange) : List Stamped := (x.notes c).map fun r => ⟨some x.id, r⟩

/-- A request that keeps to its id: the one that the caller sent, or if that is missing or empty a
new one. The id is on the reply, unless the routes raised a fault, and on all records that are
written while the request is served; before and after no id is bound, and what is written later
carries none. -/
structure KeepsId (c : Config) (x : Exchange) : Prop where
  given : ∀ id, x.sentId? = some id → id ≠ "" → x.id = .given id
  made : x.sentId?.getD "" = "" → x.id = .made x.before.journal.made ∧
    ∀ w ∈ x.before.journal.written, w.id ≠ some x.id
  replied : ∀ reply, (x.served c).outcome = .ok reply → x.reply.correlation = some x.id
  failed : ∀ f, (x.served c).outcome = .error f →
    x.reply.correlation = none ∧ x.reply.status = 500
  written : x.after.journal.written = x.before.journal.written ++ x.stamped c
  freed : x.before.journal.bound = none ∧ x.after.journal.bound = none
  later : ∀ rs, (x.after.journal.write rs).written =
    x.after.journal.written ++ rs.map fun r => ⟨none, r⟩

section
variable {c : Config} {x : Exchange}
  (hserve : serve c x.before x.clock x.later x.request = (x.reply, x.after))
include hserve

theorem written_after_eq : x.after.journal.written = x.before.journal.written ++ x.stamped c := by
  have hafter : x.after = (serve c x.before x.clock x.later x.request).2 := by rw [hserve]
  rw [hafter, stamped, notes, ahead]
  cases h : Preflight.ofRequest? x.request with
  | some question =>
    rw [serve_of_ahead h]
    exact (List.append_nil _).symm
  | none =>
    rw [journal_serve h, Journal.written_under]
    rfl

theorem keepsId (hidle : x.before.journal.Idle) (hbound : x.ahead = false) : x.KeepsId c := by
  have hnone : Preflight.ofRequest? x.request = none := by
    rwa [ahead, Option.isSome_eq_false_iff, Option.isNone_iff_eq_none] at hbound
  have hreply : x.reply = replyTo x.before x.request (x.served c).outcome := by
    have hsent := congrArg Prod.fst hserve
    rw [serve, hnone] at hsent
    exact hsent.symm
  have hafter : x.after.journal.Idle := by
    have hidle' := idle_serve hidle c x.clock x.later x.request
    rwa [hserve] at hidle'
  -- what is left is where the id comes from and whether the reply has it
  refine ⟨?_, ?_, ?_, ?_, written_after_eq hserve, ⟨hidle.bound_eq, hafter.bound_eq⟩,
    Journal.written_write_of_bound hafter.bound_eq⟩
  · intro id hid hne
    rw [Exchange.id, hid, Journal.bind_given _ hne]
  · intro hempty
    have hid : x.id = .made x.before.journal.made := by
      rw [Exchange.id, Journal.bind_made _ hempty]
    exact ⟨hid, fun w hw => hid ▸ hidle.not_carried hw⟩
  · intro reply hok
    rw [hreply, hok, replyTo, correlation_sentTo]
    rfl
  · intro f herror
    rw [hreply, herror, replyTo, correlation_sentTo, status_sentTo]
    exact ⟨rfl, rfl⟩

end
end Exchange

section Run
variable {c : Config} {s : State}

theorem idle_after (hs : s.journal.Idle) (es : List Event) :
    (State.after c s es).journal.Idle := by
  induction es generalizing s with
  | nil => exact hs
  | cons e es ih =>
    cases e with
    | request clock later r => exact ih (idle_serve hs c clock later r)
    | prune now => exact ih (s := s.next c (.prune now)) hs

theorem of_mem_exchanges (hs : s.journal.Idle) {es : List Event} {x : Exchange}
    (hx : x ∈ exchanges c s es) :
    x.before.journal.Idle ∧ s.journal.made ≤ x.before.journal.made := by
  induction es generalizing s with
  | nil => cases hx
  | cons e es ih =>
    cases e with
    | request clock later r =>
      rcases List.mem_cons.1 hx with rfl | hx
      · exact ⟨hs, Nat.le_refl _⟩
      · obtain ⟨hidle, hmade⟩ := ih (idle_serve hs c clock later r) hx
        exact ⟨hidle, (made_le_made_serve c s clock later r).trans hmade⟩
    | prune now => exact ih (s := s.next c (.prune now)) hs hx

/-- All that is written in a run is written while one of its requests is served. -/
theorem written_after (es : List Event) :
    (State.after c s es).journal.written =
      s.journal.written ++ (exchanges c s es).flatMap (Exchange.stamped c) := by
  induction es generalizing s with
  | nil => exact (List.append_nil _).symm
  | cons e es ih =>
    cases e with
    | request clock later r =>
      let x : Exchange :=
        ⟨clock, later, r, s, (serve c s clock later r).1, (serve c s clock later r).2⟩
      have hx : (serve c s clock later r).2.journal.written = s.journal.written ++ x.stamped c :=
        Exchange.written_after_eq (x := x) rfl
      calc (State.after c s (.request clock later r :: es)).journal.written
          = (serve c s clock later r).2.journal.written ++
              (exchanges c (serve c s clock later r).2 es).flatMap (Exchange.stamped c) := ih
        _ = s.journal.written ++ (x :: exchanges c (serve c s clock later r).2 es).flatMap
              (Exchange.stamped c) := by rw [hx, List.flatMap_cons, List.append_assoc]
    | prune now => exact ih (s := s.next c (.prune now))

/-- The ids that are made in a run differ from each other. -/
theorem pairwise_made (hs : s.journal.Idle) (es : List Event) :
    ((exchanges c s es).filter fun x => !x.ahead).Pairwise fun x y =>
      ∀ n, x.id = .made n → y.id ≠ .made n := by
  induction es generalizing s with
  | nil => exact List.Pairwise.nil
  | cons e es ih =>
    cases e with
    | prune now => exact ih (s := s.next c (.prune now)) hs
    | request clock later r =>
      have hrest := ih (idle_serve hs c clock later r)
      rw [exchanges]
      cases h : Preflight.ofRequest? r with
      | some question =>
        rw [List.filter_cons_of_neg (by simp [Exchange.ahead, h])]
        exact hrest
      | none =>
        rw [List.filter_cons_of_pos (by simp [Exchange.ahead, h])]
        refine List.pairwise_cons.2 ⟨fun y hy n hx hyn => ?_, hrest⟩
        -- the head has used up its number before any later request is served
        have hnext : (serve c s clock later r).2.journal.made = n + 1 := by
          rw [journal_serve h]
          exact (Journal.eq_made_of_bind hx).2
        have hle := (of_mem_exchanges (idle_serve hs c clock later r) (List.mem_filter.1 hy).1).2
        rw [hnext, ← (Journal.eq_made_of_bind hyn).1] at hle
        exact Nat.not_succ_le_self n hle

end Run

/-- In every run that starts with no id bound, each request that gets to the application keeps to
its id, and ids that are made differ from each other and from all on record; a question ahead of a
request gets its reply without an id and changes nothing. What was written in the run is what was
written during its requests, in order, each record under the id of its request. At the end no id is
bound, also after something else is written, so that another run may follow. The application is made
of layers in the order in which they are added, and the layer that binds ids leaves none bound
whatever is inside it. -/
theorem requests_keep_ids (c : Config) {s : State} (hs : s.journal.Idle) (es : List Event) :
    let xs := exchanges c s es
    (∀ x ∈ xs, x.ahead = false → x.KeepsId c) ∧
      (∀ x ∈ xs, ∀ question, Preflight.ofRequest? x.request = some question →
        x.reply = question.reply ∧ x.reply.correlation = none ∧ x.after = x.before ∧
          x.after.journal.bound = none) ∧
      ((xs.filter fun x => !x.ahead).Pairwise fun x y => ∀ n, x.id = .made n → y.id ≠ .made n) ∧
      (State.after c s es).journal.written = s.journal.written ++ xs.flatMap (Exchange.stamped c) ∧
      (State.after c s es).journal.Idle ∧ (∀ rs, ((State.after c s es).journal.write rs).Idle) ∧
      (∀ s clock later r, serve c s clock later r = Layer.send (Layer.app c) s clock later r) ∧
      ∀ inner s clock later r, (Layer.correlated inner s clock later r).2.journal.bound = none := by
  intro xs
  have hidle := idle_after (c := c) hs es
  refine ⟨?_, ?_, pairwise_made hs es, written_after es, hidle, hidle.write,
    Layer.serve_eq_send c, Layer.bound_correlated⟩
  · intro x hx hbound
    exact Exchange.keepsId (serve_of_mem_exchanges hx) (of_mem_exchanges hs hx).1 hbound
  · intro x hx question hquestion
    have hserve := serve_of_mem_exchanges hx
    rw [serve_of_ahead hquestion] at hserve
    obtain ⟨hreply, hstate⟩ := Prod.mk.inj hserve
    have hnone : question.reply.correlation = none := by
      rw [Preflight.reply]
      split <;> rfl
    exact ⟨hreply.symm, hreply ▸ hnone, hstate.symm,
      hstate ▸ (of_mem_exchanges hs hx).1.bound_eq⟩

/-- An application whose limits cannot be read: each request that asks for them ends in a fault. -/
def faulty : Config where
  limits := .error (.foreign "RuntimeError" "boom")
  now := ⟨⟨2024, 1, 1⟩, 0, 0, 0, 0, 0⟩

def asked : Request :=
  ⟨"OPTIONS", "/api/v1/diagrams/stats".toList, [],
    [("Origin", "https://a.example"), ("Access-Control-Request-Method", "POST"),
      ("X-Correlation-ID", "a")], none⟩

theorem ofRequest?_asked : Preflight.ofRequest? asked = some ⟨"POST", false⟩ := by
  have horigin : ("Origin".toLower == "Access-Control-Request-Method".toLower) = false := by
    decide +kernel
  have hnetwork : ∀ name ∈ ["Origin", "Access-Control-Request-Method", "X-Correlation-ID"],
      (name.toLower == "Access-Control-Request-Private-Network".toLower) = false := by
    decide +kernel
  simp [Preflight.ofRequest?, Request.header?, asked, horigin, hnetwork]

/-- An id that is sent, an empty one, a question ahead of a request, a request that ends in a fault,
and one for which there is no route: the faulty one keeps its id on record alone. -/
theorem requests_keep_ids_mixed :
    let health := "/api/v1/health".toList
    let stats := "/api/v1/diagrams/stats".toList
    let es : List Event :=
      [.request 1000 1000 ⟨"GET", health, [], [("X-Correlation-ID", "a")], none⟩,
        .request 1001 1001 ⟨"GET", health, [], [("X-Correlation-ID", "")], none⟩,
        .request 1002 1002 asked,
        .request 1003 1003 ⟨"POST", stats, [], [("X-Correlation-ID", "b")], none⟩,
        .request 1004 1004 ⟨"GET", "/".toList, [], [], none⟩]
    let journal := (State.after faulty {} es).journal
    ({} : State).journal.Idle ∧ journal.Idle ∧
      journal.written.map (·.id) =
        [some (.given "a"), some (.made 0), some (.given "b"), some (.made 1)] ∧
      (exchanges faulty {} es).map (fun x => (x.reply.status, x.reply.correlation)) =
        [(200, some (.given "a")), (200, some (.made 0)), (200, none), (500, none),
          (404, some (.made 1))] := by
  intro health stats es journal
  have hempty : ({} : State).journal.Idle := Journal.idle_empty
  obtain ⟨-, -, -, hwritten, hidle, -⟩ := requests_keep_ids faulty hempty es
  refine ⟨hempty, hidle, ?_, ?_⟩
  · rw [hwritten]
    simp only [es, exchanges, serve_of_ahead ofRequest?_asked, List.flatMap_cons,
      Exchange.stamped, Exchange.notes, Exchange.ahead, ofRequest?_asked]
    decide +kernel
  · simp only [es, exchanges, serve_of_ahead ofRequest?_asked]
    decide +kernel

/-- A reply to a question ahead of a request and a reply of the server after a fault do not carry
the id that was sent. -/
theorem replies_without_id :
    let stats := "/api/v1/diagrams/stats".toList
    let xs := exchanges faulty {}
      [.request 1000 1000 asked,
        .request 1000 1000 ⟨"POST", stats, [], [("X-Correlation-ID", "b")], none⟩]
    xs.map Exchange.sentId? = [some "a", some "b"] ∧
      xs.map (fun x => (x.reply.status, x.reply.correlation)) = [(200, none), (500, none)] := by
  intro stats xs
  simp only [xs, exchanges, serve_of_ahead ofRequest?_asked]
  decide +kernel

end CaseChart.Http
