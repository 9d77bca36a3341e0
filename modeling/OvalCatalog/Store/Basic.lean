import OvalCatalog.Store.Row

namespace OvalCatalog

structure Store where
  fetches : Table FetchRow := {}
  roots : Table RootRow := {}
  definitions : Table DefinitionRow := {}
  packages : Table PackageRow := {}
  references : Table ReferenceRow := {}
  advisories : Table AdvisoryRow := {}
  cves : Table CveRow := {}
  bugzillas : Table BugzillaRow := {}
  cpes : Table CpeRow := {}
  debians : Table DebianRow := {}

namespace Store

def empty : Store := {}

def rollback (before after : Store) : Store where
  fetches := before.fetches.rollback after.fetches
  roots := before.roots.rollback after.roots
  definitions := before.definitions.rollback after.definitions
  packages := before.packages.rollback after.packages
  references := before.references.rollback after.references
  advisories := before.advisories.rollback after.advisories
  cves := before.cves.rollback after.cves
  bugzillas := before.bugzillas.rollback after.bugzillas
  cpes := before.cpes.rollback after.cpes
  debians := before.debians.rollback after.debians

def SameRows (s t : Store) : Prop :=
  s.fetches.rows = t.fetches.rows ∧ s.roots.rows = t.roots.rows ∧
  s.definitions.rows = t.definitions.rows ∧ s.packages.rows = t.packages.rows ∧
  s.references.rows = t.references.rows ∧ s.advisories.rows = t.advisories.rows ∧
  s.cves.rows = t.cves.rows ∧ s.bugzillas.rows = t.bugzillas.rows ∧
  s.cpes.rows = t.cpes.rows ∧ s.debians.rows = t.debians.rows

def counts (s : Store) : List (String × Nat) :=
  [("fetch_meta", s.fetches.rows.length),
   ("roots", s.roots.rows.length),
   ("definitions", s.definitions.rows.length),
   ("packages", s.packages.rows.length),
   ("oval_references", s.references.rows.length),
   ("advisories", s.advisories.rows.length),
   ("cves", s.cves.rows.length),
   ("bugzillas", s.bugzillas.rows.length),
   ("cpes", s.cpes.rows.length),
   ("debians", s.debians.rows.length)]

end Store

/-- A row was refused. The store that is left has used up numbers. -/
structure Refused where
  error : RowError
  left : Store

end OvalCatalog
