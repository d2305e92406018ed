import CaseChart.Http.Schema
import CaseChart.Http.Service

namespace CaseChart

def Tally.toValue (s : Tally) : Value :=
  .record [("total_entities", .int s.total), ("total_relationships", .int s.relationships),
    ("entities_by_type",
      .record (Category.all.map fun c => (c.name, .int (s.entities c))))]

def Verdict.fields (v : Verdict) : Value.Fields :=
  [("is_valid", .bool v.isValid), ("errors", .texts v.errors), ("warnings", .texts v.warnings)]

def Report.toValue (r : Report) : Value :=
  .record ([("diagram", .text (String.ofList r.chart)), ("source_count", .int r.sources)] ++
    r.verdict.fields ++ [("stats", r.tally.toValue)])

def Payload.toValue (p : Payload) : Value :=
  .record [("path", .text (String.ofList p.path)), ("content", .text (String.ofList p.content)),
    ("commit_message", .text (String.ofList p.message))]

namespace Http

inductive Endpoint where
  | validate
  | stats
  | merge
  | analyze
  | publication
  deriving DecidableEq, Repr

inductive Target where
  | health
  | charts (e : Endpoint)
  deriving DecidableEq, Repr

namespace Target

def routes : List (String × Target) :=
  [("/api/v1/health", health), ("/api/v1/diagrams/validate", charts .validate),
    ("/api/v1/diagrams/stats", charts .stats), ("/api/v1/diagrams/merge", charts .merge),
    ("/api/v1/diagrams/analyze", charts .analyze),
    ("/api/v1/diagrams/publication", charts .publication)]

def method : Target → String
  | health => "GET"
  | charts _ => "POST"

/-- The target at a path; one line feed at its end does not count. -/
def atPath? (path : Text) : Option Target :=
  let path := if path.getLast? = some '\n' then path.dropLast else path
  Entries.get? (String.ofList path) routes

end Target

def dropSlashes (path : Text) : Text := (path.reverse.dropWhile (· == '/')).reverse

/-- What becomes of a path and a method: a target, or the reply that says why there is none. -/
def resolve (method : String) (path : Text) : Except Reply Target :=
  match Target.atPath? path with
  | some target =>
    if target.method = method then .ok target
    else .error { Reply.detail 405 (.text "Method Not Allowed") with allow := some target.method }
  | none =>
    if path.getLast? = some '/' ∧ (Target.atPath? (dropSlashes path)).isSome then
      .error ⟨307, .empty, none, none, none⟩
    else .error (.detail 404 (.text "Not Found"))

/-- A reply, or a fault of the server itself, with what was written on the way to it. -/
structure Handled where
  outcome : Except Fault Reply
  notes : List Record := []

def Handled.after (notes : List Record) (h : Handled) : Handled :=
  { h with notes := notes ++ h.notes }

section
variable (h : Text.Halves)

def answer {α : Type} (p : Performed α) (onOk : α → Handled) : Handled :=
  match p.result with
  | .ok a => (onOk a).after p.notes
  | .error f => ⟨Reply.ofFault h f, p.notes ++ Notes.fault f⟩

def withFields {α : Type} (f : Schema.Field α) (run : α → Handled) : Handled :=
  match f with
  | .ok a => run a
  | .error ps => { outcome := Schema.reply h ps }

def success (v : Value) : Handled := { outcome := (checkWritable h v).map fun _ => .ok v }

end

def noteInvalid (chart : Text) (v : Verdict) : Performed Unit :=
  if v.isValid then ⟨.ok (), []⟩
  else
    match Record.withContext 0 .routes Level.info "Diagram failed validation"
      [("errors", .data (.texts v.errors)),
        ("diagram_preview", .data (.text (String.ofList (chart.take 200))))] with
    | .ok records => ⟨.ok (), records⟩
    | .error flaw => ⟨.error (.unwritableInteger flaw), []⟩

def Endpoint.run (s : Service) (now : Moment) (body : Content) (e : Endpoint) : Handled :=
  let h := body.halves
  match e with
  | validate =>
    withFields h (Schema.object body >>= (Schema.text h · "diagram" 0)) fun chart =>
      answer h (s.validate chart) fun v =>
        answer h (s.tally chart) fun t =>
          answer h (noteInvalid chart v) fun _ =>
            success h (.record (v.fields ++ [("stats", t.toValue)]))
  | stats =>
    withFields h (Schema.object body >>= (Schema.text h · "diagram" 0)) fun chart =>
      answer h (s.tally chart) fun t => success h t.toValue
  | merge =>
    withFields h (Schema.object body >>= (Schema.texts · "diagrams")) fun charts =>
      answer h (s.merge charts) fun m => success h (.record [("diagram", Notes.ofText m)])
  | analyze =>
    withFields h (Schema.object body >>= (Schema.texts · "diagrams")) fun charts =>
      answer h (s.analyze charts) fun r => success h r.toValue
  | publication =>
    withFields h (Schema.object body >>= fun fs =>
        Schema.Field.both (Schema.text h fs "diagram" 0) (Schema.text h fs "file_name" 1))
      fun (c, n) => answer h (s.prepare c n now) fun p => success h p.toValue

end Http
end CaseChart
