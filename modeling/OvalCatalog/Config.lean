import OvalCatalog.Keyed
import OvalCatalog.Text.Path
import OvalCatalog.Text.Quoted
import OvalCatalog.Value.Kind

namespace OvalCatalog

inductive ConfigError where
  | noFile (path : String)
  | isDirectory (path : String)
  | nameTooLong (path : String)
  | noValue (path : String)
  | noDatabasePath
  | holdsNothing (v : Value)
  | notByKey (v : Value)
  | notSettings (v : Value)
  | notAPath (v : Value)

def ConfigError.message : ConfigError → String
  | noFile path => "Config file not found: " ++ path
  | isDirectory path => "Is a directory: " ++ Text.quoted path
  | nameTooLong path => "File name too long: " ++ Text.quoted path
  | noValue path => "Config file cannot be read: " ++ path
  | noDatabasePath => "Missing required config key: database.path"
  | holdsNothing v => "argument of type '" ++ v.kind ++ "' is not iterable"
  | notByKey v => v.kind ++ " indices must be integers"
  | notSettings v => v.lacks "get"
  | notAPath v => "expected a path, not " ++ v.kind

structure Config where
  database : Value
  feeds : Value
  http : Value
  reports : Value

structure DownloadSettings where
  maxRetries : Value := .whole 3
  baseDelay : Value := .decimal false 1 0
  maxDelay : Value := .decimal false 60 0
  jitterRatio : Value := .decimal false 3 (-1)
  timeout : Value := .decimal false 120 0
  proxy : Value := .null

namespace Config

def occurs (key : List Char) : List Char → Bool
  | [] => key.isEmpty
  | c :: s => (Text.after? key (c :: s)).isSome || occurs key s

def isText (s : String) : Value → Bool
  | .text t => s == t
  | _ => false

def holds (key : String) : Value → Except ConfigError Bool
  | .map entries => .ok (Keyed.find? key entries).isSome
  | .list items => .ok (items.any (isText key))
  | .text s => .ok (occurs key.toList s.toList)
  | v => .error (.holdsNothing v)

def required (key : String) (v : Value) : Except ConfigError Value := do
  if !(← holds key v) then throw .noDatabasePath
  match v with
  | .map entries => return (Keyed.find? key entries).getD .null
  | v => throw (.notByKey v)

def ofValue (v : Value) : Except ConfigError Config := do
  let database ← required "path" (← required "database" v.orEmpty).orEmpty
  let entry (key : String) : Value := (Keyed.find? key (v.entries?.getD [])).getD .null
  return ⟨database, entry "feeds", entry "http", entry "reports"⟩

def settings (v : Value) : Except ConfigError (List (String × Value)) :=
  match v.entries? with
  | some entries => .ok entries
  | none => .error (.notSettings v)

def downloadSettings (c : Config) : Except ConfigError DownloadSettings := do
  let entries ← settings c.http
  let entry (key : String) (otherwise : Value) : Value := (Keyed.find? key entries).getD otherwise
  let d : DownloadSettings := {}
  return ⟨entry "max_retries" d.maxRetries, entry "retry_base_seconds" d.baseDelay,
    entry "retry_max_seconds" d.maxDelay, entry "retry_jitter_ratio" d.jitterRatio,
    entry "timeout_seconds" d.timeout, entry "proxy" d.proxy⟩

def reportDirectory (c : Config) : Except ConfigError String := do
  match (Keyed.find? "output_dir" (← settings c.reports)).getD (.text "output") with
  | .text path => return Text.normalPath path
  | v => throw (.notAPath v)

end Config

end OvalCatalog
