import OvalCatalog.Definition
import OvalCatalog.Grid.Layout
import OvalCatalog.Report.Metrics
import OvalCatalog.Store.Quality
import OvalCatalog.Text.Quoted
import OvalCatalog.Value.Printing

namespace OvalCatalog.Report

structure Finding where
  name : Option String
  passed : Bool
  message : Option String

def Finding.of (c : Check) : Finding :=
  ⟨some c.name, c.passed, some c.message⟩

def mark (good : Bool) : String :=
  if good then "✓" else "✗"

variable {ν : Type} [Count ν]

def count (n : ν) : Grid.Cell :=
  match Count.toValue n with
  | .null => none
  | v => some v.plain

def summary (m : Metrics ν) : String :=
  let row (name : String) (n : Nat) : List Grid.Cell := [some name, some (toString n)]
  Grid.render ["Metric", "Value"]
    [[some "Targets", m.targets.bind count], row "Refreshed" m.refreshed,
      row "Skipped (same timestamp)" m.skipped, row "Failed" m.failed,
      [some "Definitions Stored", count m.definitions], row "Errors" m.errors]

def targetRow (target : Option String) (h : Health ν) : List Grid.Cell :=
  [some (mark (h.status ≠ .failed)), target, some h.status.name, h.file, count h.definitions, h.error]

def targetTable (health : List (Option String × Health ν)) : String :=
  let sorted := health.mergeSort fun a b => !decide (b.1.getD "" < a.1.getD "")
  Grid.render ["", "Target", "Status", "File", "Definitions", "Error"]
    (sorted.map fun (target, h) => targetRow target h)

def findingTable (findings : List Finding) : String :=
  Grid.render ["Status", "Check", "Details"]
    (findings.map fun f => [some (mark f.passed), f.name, f.message])

inductive ReportError where
  | incomparable (started completed : Time.Moment)
  | unnamedTarget
  deriving DecidableEq

def Metrics.duration? (m : Metrics ν) : Except ReportError (Option Int) :=
  match m.completed with
  | none => .ok none
  | some stop =>
    if m.started.offset.isSome = stop.offset.isSome then .ok (some (m.started.microsBetween stop))
    else .error (.incomparable m.started stop)

def Metrics.isOrdered (m : Metrics ν) : Bool :=
  m.health.length ≤ 1 || m.health.all (·.1.isSome)

def durationLine (micros : Int) : String :=
  "**Duration:** " ++ Number.fixed 1 (Number.nearest (micros < 0) micros.natAbs 1000000) ++ " seconds"

def Metrics.reportWith (duration : Option Int) (findings : List Finding) (m : Metrics ν) : String :=
  let targets := if m.health.isEmpty then [] else ["## Targets", targetTable m.health, ""]
  String.intercalate "\n"
    (["# OVAL Refresh Report", "**Run ID:** " ++ Text.shown m.runId, "**Started:** " ++ m.started.isoText] ++
      (duration.map durationLine).toList ++ ["", "## Summary", summary m, ""] ++ targets ++
      ["## Data Quality Checks", findingTable findings, ""])

def Metrics.report (findings : List Finding) (m : Metrics ν) : Except ReportError String := do
  let duration ← m.duration?
  if m.isOrdered then return m.reportWith duration findings else throw .unnamedTarget

def packageText (p : Package) : String :=
  Text.strip (p.name.getD "None" ++ " " ++ p.version.getD "None")

def definitionRow? (d : Definition) : Option (List Grid.Cell) :=
  (d.cveIds.mapM id).map fun cves =>
    [d.definitionId, d.title, d.severity, some (String.intercalate ", " cves),
      some (String.intercalate ", " (d.packages.map packageText))]

def definitionTable? (definitions : List Definition) : Option String :=
  (definitions.mapM definitionRow?).map
    (Grid.render ["Definition", "Title", "Severity", "CVEs", "Packages"])

end OvalCatalog.Report
