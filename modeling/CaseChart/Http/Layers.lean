import CaseChart.Http.App

namespace CaseChart.Http

/-- What serves a request: it gives a reply or raises a fault, and leaves a state either way. -/
abbrev Layer := State → (clock later : Float) → Request → Except Fault Reply × State

namespace Layer

def routes (c : Config) : Layer := fun s clock later r =>
  let served := route c s.limiter clock later r
  (served.outcome, ⟨served.limiter, s.journal.write served.notes⟩)

def noted (inner : Layer) : Layer := fun s clock later r =>
  let (outcome, s) := inner s clock later r
  (outcome, { s with journal := s.journal.write (requestNote r outcome) })

/-- Binds an id while a request is served and none after it, also after a fault; the id is put on
the reply, if there is one. -/
def correlated (inner : Layer) : Layer := fun s clock later r =>
  let (id, journal) := s.journal.bind (r.header? "X-Correlation-ID")
  let (outcome, s) := inner { s with journal } clock later r
  (outcome.map fun reply => { reply with correlation := some id },
    { s with journal := s.journal.clear })

def screened (inner : Layer) : Layer := fun s clock later r =>
  match Preflight.ofRequest? r with
  | some question => (.ok question.reply, s)
  | none => inner s clock later r

/-- Layers around another one, the first the innermost. -/
def add (layers : List (Layer → Layer)) (inner : Layer) : Layer :=
  layers.foldl (fun app layer => layer app) inner

/-- The routes with all layers, in the order in which they are added. -/
def app (c : Config) : Layer := add [noted, correlated, screened] (routes c)

/-- What is sent in the end: the server itself replies where a fault came through. -/
def send (app : Layer) (s : State) (clock later : Float) (r : Request) : Reply × State :=
  let (outcome, s) := app s clock later r
  let reply :=
    match outcome with
    | .ok reply => reply
    | .error _ => .failure
  (reply.sentTo r.method, s)

end Layer
end CaseChart.Http
