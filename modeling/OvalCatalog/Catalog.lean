import OvalCatalog.Config
import OvalCatalog.Report.Directory
import OvalCatalog.Run
import OvalCatalog.Store.Schema

namespace OvalCatalog

inductive ConnectError where
  | noPath
  | cannotOpen (path : Value)

def ConnectError.messageWith (cause : String) : ConnectError → String
  | noPath => "no database is named"
  | cannotOpen path => "Failed to open DB. datafile: " ++ path.plain ++ ", err: " ++ cause

inductive CatalogError where
  | connect (e : ConnectError)
  | schema (e : SchemaError)
  | query (e : QueryError)
  | report (e : Report.DirectoryError)

def CatalogError.message : CatalogError → String
  | connect e => e.messageWith "cannot be opened"
  | schema e => e.message
  | query e => e.message
  | report e => e.message

inductive Location where
  | memory
  | file (path : String)

/-- The kind of storage that stands before a path: two or more word characters and a colon. -/
def Location.storage? (path : List Char) : Option (List Char × List Char) := do
  let (kind, rest) ← Text.cut? ':' path
  guard (1 < kind.length ∧ kind.all (fun c => c.isAlphanum || c == '_') ∧ rest.take 2 ≠ ['/', '/'])
  return (kind, rest)

def Location.ofPath? : Value → Option Location
  | .text path =>
    if path = "" ∨ path.startsWith ":memory:" then some .memory
    else match Location.storage? path.toList with
      | none => some (.file path)
      | some (kind, rest) => if kind = "duckdb".toList then some (.file (String.ofList rest)) else none
  | _ => none

/-- What the file of a database holds; none if it cannot be opened. -/
abbrev Disk := String → Option Database

def openDatabase (disk : Disk) (path : Value) : Except ConnectError Database :=
  match path, Location.ofPath? path with
  | .null, _ => .error .noPath
  | _, some .memory => .ok {}
  | _, some (.file name) =>
    match disk name with
    | some d => .ok d
    | none => .error (.cannotOpen path)
  | _, none => .error (.cannotOpen path)

structure Catalog where
  config : Config
  settingsPath : String
  reportDirectory : String
  database : Option Database := none

namespace Catalog

def ofConfig (settingsPath : String) (c : Config) : Except ConfigError Catalog := do
  return { config := c, settingsPath, reportDirectory := ← c.reportDirectory }

def isFile (c : Catalog) (path : String) : Bool :=
  path == Text.resolvedPath c.settingsPath ||
    match Location.ofPath? c.config.database with
    | some (.file database) => path == Text.resolvedPath database
    | _ => false

def connect (disk : Disk) (c : Catalog) : Except ConnectError Database :=
  match c.database with
  | some d => .ok d
  | none => openDatabase disk c.config.database

def withDatabase {α : Type} (disk : Disk) (work : Store → Except CatalogError α × Store) (c : Catalog) :
    Except CatalogError α × Catalog :=
  match c.connect disk with
  | .error e => (.error (.connect e), c)
  | .ok d =>
    match d.migrate [] with
    | (.error e, d) => (.error (.schema e), { c with database := some d })
    | (.ok (), d) =>
      let (result, store) := work d.store
      (result, { c with database := some { d with store } })

structure RunResult where
  metrics : Report.Metrics Int
  files : List (String × String)

def refresh (disk : Disk) (server : Server) (t : Run.Times) (family : String) (versions : List String)
    (c : Catalog) : Except CatalogError RunResult × Catalog :=
  c.withDatabase disk fun s =>
    match Family.find (some family) with
    | .error e => (.error (.query e), s)
    | .ok f =>
      let (outcomes, s) := Run.visitAll f c.config.feeds server versions s
      let m := Run.metrics f t versions outcomes
      match Report.makeDirectory c.isFile c.reportDirectory with
      | .error e => (.error (.report e), s)
      | .ok directory => (.ok ⟨m, Run.reportFiles directory t m s⟩, s)

def query (disk : Disk) (family release key mode : Option String) (c : Catalog) :
    Except CatalogError (List Definition) × Catalog :=
  c.withDatabase disk fun s => ((dispatch family release key mode (.live s)).mapError .query, s)

end Catalog

end OvalCatalog
