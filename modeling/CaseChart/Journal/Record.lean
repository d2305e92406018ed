import CaseChart.Journal.Level
import CaseChart.Journal.Line

namespace CaseChart

inductive Origin where
  | validation
  | merge
  | charts
  | extraction
  | throttle
  | faults
  | routes
  | requests
  | application
  deriving DecidableEq, Repr

structure Record where
  origin : Origin
  level : Int
  message : String
  extra : Value.Fields

namespace Record

def reserved : List String :=
  ["name", "msg", "args", "levelname", "levelno", "pathname", "filename", "module", "exc_info",
    "exc_text", "stack_info", "lineno", "funcName", "created", "msecs", "relativeCreated",
    "thread", "threadName", "processName", "process", "message", "asctime"]

def extraName (key : String) : String := if key ∈ reserved then "ctx_" ++ key else key

/-- A context pair as it is stored: under its name, on a line. -/
def stored (e : String × Item) : Except Decimal.IntegerFlaw (String × Value) :=
  (e.2.line Item.usualBound).map fun line => (extraName e.1, .text (String.ofList line))

/-- Context pairs as extra values; of two under one name the later counts. -/
def extraOf (context : List (String × Item)) : Except Decimal.IntegerFlaw Value.Fields :=
  context.foldlM (fun fs e => (stored e).map fun p => Entries.set p.1 p.2 fs) []

/-- The record of a message with context, if its level passes the threshold. The context is put on
lines in any case. -/
def withContext (threshold : Int) (origin : Origin) (level : Int) (message : String)
    (context : List (String × Item)) : Except Decimal.IntegerFlaw (List Record) :=
  (extraOf context).map fun extra =>
    if Level.passes threshold level then [⟨origin, level, message, extra⟩] else []

end Record
end CaseChart
