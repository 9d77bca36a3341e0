import OvalCatalog.Feed.Fetch
import OvalCatalog.Report.Markdown
import OvalCatalog.Store.Dispatch
import OvalCatalog.Text.Path

/-! Runs over versions of a family. A version that fails is noted, and the run goes on with the store as
it was before that version. -/

namespace OvalCatalog

abbrev Server := String → Except String (List UInt8)

namespace Run

def receive (f : Family) (t : Feed.Target) (x : Feed.Fetched) (s : Store) : Report.Outcome Int × Store :=
  match s.insertOval f x.root x.file with
  | (.ok true, s) => (.refreshed (some t.fileName) x.root.definitions.length, s)
  | (.ok false, s) => (.skipped (some t.fileName), s)
  | (.error e, s) => (.failed (some t.fileName) (some e.message), s)

def visit (f : Family) (feeds : Value) (server : Server) (osVersion : String) (s : Store) : Report.Outcome Int × Store :=
  match Feed.Target.build f feeds osVersion with
  | .error e => (.failed none (some e.message), s)
  | .ok t =>
    match Feed.fetch server t with
    | .error e => (.failed (some t.fileName) (some (e.messageWith id Xml.Fault.message)), s)
    | .ok x => receive f t x s

def visitAll (f : Family) (feeds : Value) (server : Server) : List String → Store → List (Report.Outcome Int) × Store
  | [], s => ([], s)
  | osVersion :: rest, s =>
    let (o, s) := visit f feeds server osVersion s
    let (outcomes, s) := visitAll f feeds server rest s
    (o :: outcomes, s)

def key (f : Family) (osVersion : String) : String :=
  f.name ++ " " ++ osVersion

def recordAll (f : Family) :
    List String → List (Report.Outcome Int) → Report.Metrics Int → Report.Metrics Int
  | v :: versions, o :: outcomes, m => recordAll f versions outcomes (m.record (some (key f v)) o)
  | _, _, m => m

structure Times where
  named : Time.Timestamp
  started : Time.Timestamp
  completed : Time.Timestamp
  reported : Time.Timestamp

def Times.ofClock (clock : Nat → Time.Timestamp) : Times :=
  ⟨clock 0, clock 1, clock 2, clock 3⟩

def runId (t : Times) : String :=
  "run_" ++ t.named.digitText "_"

def metrics (f : Family) (t : Times) (versions : List String) (outcomes : List (Report.Outcome Int)) :
    Report.Metrics Int :=
  let start := Report.Metrics.start (some (runId t)) ⟨t.started, none⟩ (some (versions.length : Int))
  { recordAll f versions outcomes start with completed := some ⟨t.completed, none⟩ }

def reportFiles (directory : String) (t : Times) (m : Report.Metrics Int) (s : Store) : List (String × String) :=
  let duration := m.started.microsBetween ⟨t.completed, none⟩
  [(Text.inDirectory directory ("refresh-report-" ++ t.reported.digitText "-" ++ ".md"),
      m.reportWith (some duration) (s.checks.map Report.Finding.of)),
    (Text.inDirectory directory ("refresh-metrics-" ++ runId t ++ ".json"), m.toValue.pretty)]

end Run

end OvalCatalog
