import CaseChart.Json.Reader
import CaseChart.Settings.Environment
import CaseChart.Settings.Limits
import CaseChart.Settings.Number

namespace CaseChart

structure Settings where
  environment : String := "development"
  logLevel : String := "INFO"
  appName : String := "Legal Diagram API"
  limits : Limits := {}

namespace Settings

structure Problem where
  path : List String
  flaw : Flaw
  deriving DecidableEq, Repr

/-- The value of an argument in any case; of several the first counts. -/
def argument? (arguments : Value.Fields) (name : String) : Option Value :=
  (arguments.find? fun e => sameName e.1 name).map (·.2)

/-- Where the fields of a section come from: arguments, then variables with a lead in front. -/
structure Source where
  arguments : Value.Fields
  environment : Environment
  lead : String

def Source.get? (s : Source) (name : String) : Option Value :=
  (argument? s.arguments name).or ((s.environment.get? (s.lead ++ name)).map .text)

/-- Reading that goes on after a flaw and collects them all. -/
abbrev Reading := StateM (List Problem)

/-- A field: its default if it is not given or flawed. -/
def Source.field {α : Type} (s : Source) (name : String) (otherwise : α)
    (read : Value → Except Flaw α) : Reading α :=
  match s.get? name with
  | none => return otherwise
  | some v =>
    match read v with
    | .ok a => return a
    | .error flaw => do
      modify (· ++ [⟨[name], flaw⟩])
      return otherwise

def readText : Value → Except Flaw String
  | .text s => .ok s
  | _ => .error .stringType

def logLevels : List String := ["DEBUG", "INFO", "WARNING", "ERROR", "CRITICAL"]

def readLevel (v : Value) : Except Flaw String := do
  let s ← readText v
  let level := String.ofList (Text.upper (Text.trim s.toList))
  if level ∈ logLevels then return level else throw .valueError

def Source.limits (s : Source) : Reading Limits := do
  let d : Limits := {}
  return {
    environment := ← s.field "environment" d.environment readText
    logLevel := ← s.field "log_level" d.logLevel readLevel
    callsPerWindow := ← s.field "api_calls_per_minute" d.callsPerWindow readCount
    windowSeconds := ← s.field "rate_limit_window_seconds" d.windowSeconds readMeasure
    pruneSeconds := ← s.field "rate_limit_prune_interval_seconds" d.pruneSeconds readMeasure
    uploadMegabytes := ← s.field "upload_size_mb" d.uploadMegabytes readMeasure
    filesPerUpload := ← s.field "max_files_per_upload" d.filesPerUpload readCount
    textLength := ← s.field "max_text_length" d.textLength readCount
    keyLength := ← s.field "min_api_key_length" d.keyLength readCount }

def Reading.result {α : Type} (r : Reading α) : Except (List Problem) α :=
  match r.run [] with
  | (a, []) => .ok a
  | (_, ps) => .error ps

def readLimits (env : Environment) (arguments : Value.Fields) : Except (List Problem) Limits :=
  (Source.limits ⟨arguments, env, "LIMITS_"⟩).result

inductive VariableFlaw where
  | unreadable (field : String)
  | tooDeep (c : Json.Container)
  deriving DecidableEq, Repr

def VariableFlaw.message : VariableFlaw → String
  | unreadable field =>
    s!"error parsing value for field \"{field}\" from source \"EnvSettingsSource\""
  | tooDeep c => c.depthMessage

inductive Error where
  | problems (ps : List Problem)
  | variable (flaw : VariableFlaw)
  deriving Repr

def variableDepth : Nat := 984

def limitNames : List String := (({} : Limits).toFields).map (·.1)

/-- The fields of a record under the names of limits where they differ in case only; of two under
one name the later counts. -/
def nameLimits : Value → Value
  | .record fs =>
    .record (fs.foldl (fun named e =>
      Entries.set ((limitNames.find? (sameName e.1)).getD e.1) e.2 named) [])
  | v => v

/-- One structured value over another: the fields of both, and of a field in both the upper. -/
def overlay (upper lower : Option Value) : Option Value :=
  match upper, lower with
  | some (.record us), some (.record ls) =>
    some (.record (us.foldl (fun fs e => Entries.set e.1 e.2 fs) ls))
  | some v, _ => some v
  | none, v => v

/-- The limits that a variable holds as a whole; the missing value stands for none. -/
def Environment.limits? (env : Environment) : Except Error (Option Value) :=
  match env.get? "limits" with
  | none => .ok none
  | some s =>
    match Json.read {} variableDepth s.toList with
    | .ok .null => .ok none
    | .ok v => .ok (some (nameLimits v))
    | .error (.tooDeep c) => .error (.variable (.tooDeep c))
    | .error _ => .error (.variable (.unreadable "limits"))

/-- The limits given as a whole: by the argument, over the variable that holds them. -/
def givenLimits (env : Environment) (arguments : Value.Fields) : Except Error (Option Value) :=
  env.limits?.map (overlay (argument? arguments "limits"))

def nestedLimits (env : Environment) : Value → Reading Limits
  | .record fs =>
    match readLimits env fs with
    | .ok l => return l
    | .error ps => do
      modify (· ++ ps.map fun p => { p with path := "limits" :: p.path })
      return {}
  | _ => do
    modify (· ++ [⟨["limits"], .modelType⟩])
    return {}

/-- The settings of the application. Limits that are not given as a whole come from their own
variables, and their flaws are then reported alone. -/
def read (env : Environment) (arguments : Value.Fields) : Except Error Settings := do
  let s : Source := ⟨arguments, env, ""⟩
  let d : Settings := {}
  let given ← givenLimits env arguments
  let inherited ← if given.isNone then (readLimits env []).mapError .problems else .ok {}
  let reading : Reading Settings := do
    return {
      environment := ← s.field "environment" d.environment readText
      logLevel := ← s.field "log_level" d.logLevel readLevel
      appName := ← s.field "app_name" d.appName readText
      limits := ← match given with
        | some v => nestedLimits env v
        | none => pure inherited }
  reading.result.mapError .problems

end Settings

def Settings.toValue (s : Settings) : Value :=
  .record [("environment", .text s.environment), ("log_level", .text s.logLevel),
    ("app_name", .text s.appName), ("limits", .record s.limits.toFields)]

end CaseChart
