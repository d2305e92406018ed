import CaseChart.Value.Basic

namespace CaseChart

/-- Limits with their defaults; an accepted value of each number is positive. -/
structure Limits where
  environment : String := "development"
  logLevel : String := "INFO"
  callsPerWindow : Int := 10
  windowSeconds : Float := 60.0
  pruneSeconds : Float := 300.0
  uploadMegabytes : Float := 10.0
  filesPerUpload : Int := 5
  textLength : Int := 100000
  keyLength : Int := 20

def Limits.toFields (l : Limits) : Value.Fields :=
  [("environment", .text l.environment), ("log_level", .text l.logLevel),
    ("api_calls_per_minute", .int l.callsPerWindow),
    ("rate_limit_window_seconds", .real l.windowSeconds),
    ("rate_limit_prune_interval_seconds", .real l.pruneSeconds),
    ("upload_size_mb", .real l.uploadMegabytes), ("max_files_per_upload", .int l.filesPerUpload),
    ("max_text_length", .int l.textLength), ("min_api_key_length", .int l.keyLength)]

/-- The largest size of a document in bytes, a fraction of a byte cut off. Megabytes beyond the
range of bytes give none. -/
def Limits.uploadBytes (l : Limits) : Except Decimal.NonFinite Int :=
  (Decimal.Binary.ofFloat? (l.uploadMegabytes * 1024.0 * 1024.0)).map Decimal.Binary.truncate

end CaseChart
