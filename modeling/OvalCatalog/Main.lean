import OvalCatalog.Session
import OvalCatalog.Store.Archive
import OvalCatalog.Value.Reading

/-! The command line. Configurations are JSON files, a database is kept as the JSON text of its tables, and
feeds are served from addresses that start with `file://`. -/

namespace OvalCatalog.Main

def usage : String :=
  "usage: ovalcatalog [-h] [--config FILE] [--debug] fetch FAMILY VERSION...\n" ++
  "       ovalcatalog [-h] [--config FILE] [--debug] query FAMILY RELEASE (--package NAME | --cve ID)"

def readSettings (path : String) : IO (Except ConfigError Value) := do
  try
    match Value.ofJson? (← IO.FS.readFile path) with
    | some v => return .ok v
    | none => return .error (.noValue path)
  catch
    | .noFileOrDirectory .. => return .error (.noFile path)
    | _ => return .error (.isDirectory path)

def readDatabase (path : String) : IO (Option Database) := do
  try
    return (Value.ofJson? (← IO.FS.readFile path)).bind Store.ofValue? |>.map fun store => { store }
  catch
    | .noFileOrDirectory .. => return some {}
    | _ => return none

def readDisk (settings : Except ConfigError Value) : IO (Option Database) := do
  match settings.bind Config.ofValue with
  | .error _ => return none
  | .ok c =>
    match Location.ofPath? c.database with
    | some (.file path) => readDatabase path
    | _ => return none

def scheme : String := "file://"

def readFeed (url : String) : IO (Except String (List UInt8)) := do
  if !url.startsWith scheme then return .error ("cannot reach " ++ url)
  try
    return .ok (← IO.FS.readBinFile (url.drop scheme.length).toString).toList
  catch e => return .error (toString e)

def addresses (settings : Except ConfigError Value) (a : Arguments) : List String :=
  match settings.bind Config.ofValue, a.command with
  | .ok c, .fetch family versions =>
    versions.filterMap fun v => ((Feed.Target.buildAll family c.feeds [v]).toOption.bind List.head?).map (·.url)
  | _, _ => []

def readServer (urls : List String) : IO Server := do
  let served ← urls.mapM fun url => do return (url, ← readFeed url)
  return fun url => (Keyed.find? url served).getD (.error ("cannot reach " ++ url))

def now : IO Time.Timestamp := do
  let (_, path) ← IO.FS.createTempFile
  let made := (← path.metadata).modified
  IO.FS.removeFile path
  let start := Time.Date.dayNumber ⟨1970, 1, 1⟩
  return (Time.Timestamp.ofMicros? ((start * 86400 + made.sec) * 1000000 + made.nsec.toNat / 1000)).getD
    { date := ⟨1970, 1, 1⟩ }

def directoryOf (path : String) : String :=
  match Text.cutLast? '/' path.toList with
  | some (directory, _) => String.ofList directory
  | none => "."

def leave (s : Session) : IO Unit := do
  for (path, text) in s.files do
    IO.FS.createDirAll (directoryOf path)
    IO.FS.writeFile path text
  if let some (path, d) := s.database then
    IO.FS.writeFile path d.store.toValue.compact
  if let some complaint := s.complaint then
    IO.eprintln ("Pipeline failed: " ++ complaint)
  IO.print s.output

def carryOut (a : Arguments) : IO Session := do
  let settings ← readSettings a.config
  let database ← readDisk settings
  let started ← now
  let server ← readServer (addresses settings a)
  let completed ← now
  return Session.carryOut
    ⟨fun _ => settings, fun _ => database, server, ⟨started, started, completed, completed⟩⟩ a

end OvalCatalog.Main

open OvalCatalog in
def main (words : List String) : IO UInt32 := do
  match Arguments.read words with
  | .error .help =>
    IO.println Main.usage
    return 0
  | .error .usage =>
    IO.eprintln Main.usage
    return 2
  | .ok a =>
    let s ← Main.carryOut a
    Main.leave s
    return s.exitCode.toUInt32
