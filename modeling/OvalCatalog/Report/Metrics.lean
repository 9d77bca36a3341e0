import OvalCatalog.Keyed
import OvalCatalog.Time.Moment
import OvalCatalog.Value.Amount

/-! Metrics of a run: how many targets were refreshed, were skipped or failed, and how each target fared
last. Numbers of definitions are of a type `ν`; a run counts in whole numbers. -/

namespace OvalCatalog.Report

class Count (ν : Type) extends Zero ν, Add ν where
  toValue : ν → Value

instance : Count Int where
  zero := Int.ofNat 0
  add := Int.add
  toValue := .whole

instance : Count Value where
  zero := .whole 0
  add v w := ((v.amount?.bind fun a => w.amount?.map fun b => a + b).map Value.ofAmount).getD .null
  toValue := id

inductive Outcome (ν : Type) where
  | refreshed (file : Option String) (definitions : ν)
  | skipped (file : Option String)
  | failed (file : Option String) (error : Option String)
  deriving DecidableEq, Repr

inductive Status where
  | refreshed
  | skipped
  | failed
  deriving DecidableEq, Repr

def Status.name : Status → String
  | refreshed => "refreshed"
  | skipped => "skipped"
  | failed => "failed"

structure Health (ν : Type) where
  status : Status
  file : Option String
  definitions : ν
  error : Option String := none
  deriving DecidableEq, Repr

structure Issue where
  message : Option String
  context : Value := .map []

structure Metrics (ν : Type) where
  runId : Option String
  started : Time.Moment
  completed : Option Time.Moment := none
  targets : Option ν
  refreshed : Nat := 0
  skipped : Nat := 0
  failed : Nat := 0
  definitions : ν
  errors : Nat := 0
  health : List (Option String × Health ν) := []
  issues : List Issue := []

variable {ν : Type}

def Outcome.health [Count ν] : Outcome ν → Health ν
  | refreshed file definitions => ⟨.refreshed, file, definitions, none⟩
  | skipped file => ⟨.skipped, file, 0, none⟩
  | failed file error => ⟨.failed, file, 0, error⟩

namespace Metrics

def start [Count ν] (runId : Option String) (started : Time.Moment) (targets : Option ν) : Metrics ν :=
  { runId, started, targets, definitions := 0 }

def recordError (error : Option String) (context : Value) (m : Metrics ν) : Metrics ν :=
  { m with errors := m.errors + 1, issues := m.issues ++ [⟨error, context.orEmpty⟩] }

def record [Count ν] (target : Option String) (o : Outcome ν) (m : Metrics ν) : Metrics ν :=
  let m := { m with health := Keyed.put target o.health m.health }
  match o with
  | .refreshed _ n => { m with refreshed := m.refreshed + 1, definitions := m.definitions + n }
  | .skipped _ => { m with skipped := m.skipped + 1 }
  | .failed _ error =>
    { m with failed := m.failed + 1 }.recordError error (.map [("target", .text? target)])

end Metrics

def Health.toValue [Count ν] (h : Health ν) : Value :=
  .map [("status", .text h.status.name), ("file", .text? h.file),
    ("definitions", Count.toValue h.definitions), ("error", .text? h.error)]

def Issue.toValue (i : Issue) : Value :=
  .map [("type", .text "error"), ("message", .text? i.message), ("context", i.context)]

def Metrics.toValue [Count ν] (m : Metrics ν) : Value :=
  .map [("run_id", .text? m.runId),
    ("started_at", .text m.started.isoText),
    ("completed_at", .text? (m.completed.map Time.Moment.isoText)),
    ("targets_total", m.targets.elim .null Count.toValue),
    ("refreshed", .whole m.refreshed),
    ("skipped", .whole m.skipped),
    ("failed", .whole m.failed),
    ("definitions_stored", Count.toValue m.definitions),
    ("errors", .whole m.errors),
    ("target_health", .map (m.health.map fun (target, h) => (target.getD "null", h.toValue))),
    ("quality_issues", .list (m.issues.map Issue.toValue))]

end OvalCatalog.Report
