import OvalCatalog.Arguments
import OvalCatalog.Catalog

namespace OvalCatalog

structure Surroundings where
  settings : String → Except ConfigError Value
  disk : Disk
  server : Server
  times : Run.Times

structure Session where
  exitCode : Nat
  output : String := ""
  files : List (String × String) := []
  database : Option (String × Database) := none
  complaint : Option String := none

namespace Session

def bar : String :=
  String.ofList (List.replicate 60 '=')

def summary (m : Report.Metrics Int) : String :=
  String.intercalate "\n"
    ["", bar, "Refresh Summary", bar, "Run ID: " ++ Text.shown m.runId, "Refreshed: " ++ toString m.refreshed,
      "Skipped: " ++ toString m.skipped, "Failed: " ++ toString m.failed,
      "Definitions: " ++ toString m.definitions, bar, ""]

def kept (c : Catalog) : Option (String × Database) :=
  match Location.ofPath? c.config.database, c.database with
  | some (.file path), some d => some (path, d)
  | _, _ => none

def failed (c : Catalog) (complaint : String) : Session :=
  { exitCode := 1, database := kept c, complaint := some complaint }

def fetch (x : Surroundings) (family : String) (versions : List String) (c : Catalog) : Session :=
  match c.refresh x.disk x.server x.times family versions with
  | (.error e, c) => failed c e.message
  | (.ok r, c) =>
    { exitCode := if r.metrics.failed = 0 then 0 else 1, output := summary r.metrics, files := r.files
      database := kept c }

def keyAndMode : Key → Option String × String
  | .package "" => (none, "cve")
  | .package name => (some name, "package")
  | .cve id => (some id, "cve")

def query (x : Surroundings) (family : String) (release : Option String) (key : Key) (c : Catalog) : Session :=
  let (key, mode) := keyAndMode key
  match c.query x.disk (some family) release key (some mode) with
  | (.error e, c) => failed c e.message
  | (.ok definitions, c) =>
    match Report.definitionTable? definitions with
    | none => failed c "a CVE has no identifier"
    | some table =>
      { exitCode := 0, output := table ++ "\n\n" ++ toString definitions.length ++ " definitions\n"
        database := kept c }

def catalogOf (x : Surroundings) (path : String) : Except ConfigError Catalog := do
  let config ← Config.ofValue (← x.settings path)
  let _ ← config.downloadSettings
  Catalog.ofConfig path config

def carryOut (x : Surroundings) (a : Arguments) : Session :=
  match catalogOf x a.config with
  | .error e => { exitCode := 1, complaint := some e.message }
  | .ok c =>
    match a.command with
    | .fetch family versions => fetch x family versions c
    | .query family release key => query x family release key c

def ofWords (x : Surroundings) (words : List String) : Session :=
  match Arguments.read words with
  | .error .help => { exitCode := 0 }
  | .error .usage => { exitCode := 2 }
  | .ok a => carryOut x a

end Session

end OvalCatalog
