import CaseChart.Document.Extraction
import CaseChart.Document.Intake
import CaseChart.Journal.Record
import CaseChart.Publication.Gate
import CaseChart.Settings.Basic
import CaseChart.Throttle.Admission
import CaseChart.Throttle.Pruning

namespace CaseChart.Notes

def size {α : Type} (as : List α) : Value := .int as.length

def ofText (t : Text) : Value := .text (String.ofList t)

/-- Judging a chart, unless it is blank. -/
def validate (t : Text) : List Record :=
  if Text.isBlankText t then [] else
    let v := Chart.validate t
    [⟨.validation, Level.debug, "Diagram validated",
      [("is_valid", .bool v.isValid), ("error_count", size v.errors),
        ("warning_count", size v.warnings)]⟩]

/-- Group names that come up again, one record each; `seen` holds the names so far. -/
def repeated (position : Nat) : (seen names : List Text) → List Record
  | _, [] => []
  | seen, n :: ns =>
    if n ∈ seen then
      ⟨.merge, Level.debug, "Dropping duplicate group",
        [("position", .int position), ("group", ofText n)]⟩ :: repeated position seen ns
    else repeated position (n :: seen) ns

/-- Going through the charts of a merge from `position` on. -/
def mergeFrom (position : Nat) (seen : List Text) : List Sections → List Record
  | [] => []
  | s :: rest =>
    let names := s.groups.map Group.name
    (if s.unterminated.isEmpty then []
      else [⟨.merge, Level.warning, "Skipping unterminated groups during merge",
        [("position", .int position), ("groups", .list (s.unterminated.map ofText))]⟩]) ++
      repeated position seen names ++ mergeFrom (position + 1) (names.reverse ++ seen) rest

/-- Merging charts, unless there is at most one. -/
def merge : List Text → List Record
  | [] => []
  | [_] => []
  | ds =>
    let m := Merged.ofCharts ds
    mergeFrom 0 [] (ds.map Sections.ofChart) ++
      [⟨.merge, Level.info, "Merged diagrams",
        [("source_count", size ds), ("group_count", size m.groups),
          ("relationship_count", size m.relationships),
          ("class_definition_count", size m.styles)]⟩]

def analyze (ds : List Text) : List Record :=
  let r := Chart.analyze ds
  merge ds ++ validate r.chart ++
    [⟨.charts, Level.info, "Diagram analyzed",
      [("source_count", .int r.sources), ("is_valid", .bool r.verdict.isValid),
        ("total_entities", .int r.tally.total),
        ("total_relationships", .int r.tally.relationships)]⟩]

def prepare (chart name : Option Text) : List Record :=
  let chart := chart.getD []
  let v := Chart.validate chart
  validate chart ++
    if v.isValid then []
    else [⟨.charts, Level.warning, "Refusing to publish invalid diagram",
      [("file_name", .optional (name.map String.ofList)), ("errors", .texts v.errors)]⟩]

def publish (chart name : Option Text) (a : Publication.Attempt) : List Record :=
  prepare chart name ++
    match a.result, a.sent with
    | .ok o, p :: _ =>
      if o.success then
        [⟨.charts, Level.info, "Diagram published",
          [("path", ofText p.path), ("url", .optional o.url)]⟩]
      else
        [⟨.charts, Level.warning, "Diagram publication failed",
          [("path", ofText p.path), ("error", .optional o.error)]⟩]
    | _, _ => []

def intake : Except Fault Intake → List Record
  | .ok i =>
    [⟨.extraction, Level.info, "Documents extracted",
      [("document_count", size i.documents), ("failure_count", size i.failures)]⟩]
  | .error _ => []

def extract (l : Limits) (model : Model) (ds : List Document) : List Record :=
  if ds.isEmpty || (Guard.textLength l (Extraction.size ds)).isSome then []
  else match (Extraction.ask model 0 ds).charts with
    | .ok charts => analyze charts
    | .error (d, error) =>
      [⟨.extraction, Level.warning, "Entity extraction failed",
        [("file_name", .text d.name), ("error", .optional error)]⟩]

def check (key : String) (limit : Int) (d : Decision Float) : List Record :=
  if d.allowed then []
  else [⟨.throttle, Level.warning, "Rate limit exceeded",
    [("key", .text key), ("limit", .int limit), ("reset_time", .real d.reset)]⟩]

def prune (removed : Nat) : List Record :=
  if removed = 0 then []
  else [⟨.throttle, Level.info, "Pruned expired rate limit entries", [("removed", .int removed)]⟩]

def startup (s : Settings) : List Record :=
  [⟨.application, Level.info, "Application startup: logging configured",
      [("environment", .text s.environment)]⟩,
    ⟨.application, Level.info, "Rate limit pruning scheduled",
      [("interval_seconds", .real s.limits.pruneSeconds)]⟩]

def shutdown : List Record := [⟨.application, Level.info, "Application shutdown", []⟩]

def fault (f : Fault) : List Record :=
  match f with
  | .refusal r =>
    match r.kind with
    | .chart =>
      [⟨.faults, Level.warning, "Diagram rejected",
        [("errors", .texts r.errors), ("error", .text r.message)]⟩]
    | .argument => told Level.warning "Invalid diagram request"
    | .extraction => told Level.warning "Entity extraction failed"
    | .general => unexpected
  | .status _ _ => []
  | _ => unexpected
where
  /-- A record with the fault in words; none, if it cannot be put in words. -/
  told (level : Int) (message : String) : List Record :=
    match f.text with
    | .ok text => [⟨.faults, level, message, [("error", .text text)]⟩]
    | .error _ => []
  /-- What was not foreseen. -/
  unexpected : List Record := told Level.error "Unexpected failure in diagram operation"

end CaseChart.Notes
