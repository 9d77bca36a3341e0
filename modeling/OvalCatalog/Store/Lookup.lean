import OvalCatalog.Family
import OvalCatalog.Release
import OvalCatalog.Store.Basic

namespace OvalCatalog.Store

def childrenOf {ρ : Type} [Row ρ] (parent : ρ → Int) (ids : List Int) (t : Table ρ) : List ρ :=
  t.ordered.filter fun r => ids.contains (parent r)

def groupOf {ρ : Type} (parent : ρ → Int) (id : Int) (rows : List ρ) : List ρ :=
  rows.filter fun r => parent r == id

structure Children where
  advisories : List AdvisoryRow
  packages : List PackageRow
  references : List ReferenceRow
  cves : List CveRow
  bugzillas : List BugzillaRow
  cpes : List CpeRow
  debians : List DebianRow

def children (family : Family) (rows : List DefinitionRow) (s : Store) : Children :=
  let ids := rows.map (·.id)
  let advisories := childrenOf (·.definitionId) ids s.advisories
  let advisoryIds := advisories.map (·.id)
  { advisories
    packages := childrenOf (·.definitionId) ids s.packages
    references := childrenOf (·.definitionId) ids s.references
    cves := childrenOf (·.advisoryId) advisoryIds s.cves
    bugzillas := if family.vendor = .redhat then childrenOf (·.advisoryId) advisoryIds s.bugzillas else []
    cpes := if family.vendor = .redhat then childrenOf (·.advisoryId) advisoryIds s.cpes else []
    debians := if family.vendor = .debian then childrenOf (·.definitionId) ids s.debians else [] }

def Children.advisory (c : Children) (a : AdvisoryRow) : Advisory where
  advisoryId := a.advisoryId
  severity := a.severity
  issued := a.issued
  updated := a.updated
  cves := (groupOf (·.advisoryId) a.id c.cves).map CveRow.cve
  bugzillas := (groupOf (·.advisoryId) a.id c.bugzillas).map BugzillaRow.bugzilla
  cpes := (groupOf (·.advisoryId) a.id c.cpes).map CpeRow.toCpe
  id := some a.id

def Children.definition (c : Children) (d : DefinitionRow) : Definition where
  definitionId := d.definitionId
  title := d.title
  description := d.description
  severity := d.severity
  advisory := (groupOf (·.definitionId) d.id c.advisories).head?.map c.advisory
  packages := (groupOf (·.definitionId) d.id c.packages).map PackageRow.package
  references := (groupOf (·.definitionId) d.id c.references).map ReferenceRow.reference
  debian := (groupOf (·.definitionId) d.id c.debians).head?.map DebianRow.debian
  id := some d.id
  rootId := some d.rootId

def hydrate (family : Family) (rows : List DefinitionRow) (s : Store) : List Definition :=
  let parts := s.children family rows
  rows.map parts.definition

def releaseRoots (family : Family) (release : Option String) (s : Store) : List Int :=
  let roots := s.roots.ordered.filter fun r =>
    r.family == family.name && some (Release.majorVersion r.osVersion) == release
  roots.map (·.id)

def definitionRows (roots ids : List Int) (s : Store) : List DefinitionRow :=
  s.definitions.ordered.filter fun d => roots.contains d.rootId && ids.contains d.id

def packageOwners (key : Option String) (s : Store) : List Int :=
  (s.packages.rows.filter fun p => some p.name == key).map (·.definitionId)

def advisoryOwners (key : Option String) (s : Store) : List Int :=
  let advisories := (s.cves.rows.filter fun c => some c.cveId == key).map (·.advisoryId)
  (s.advisories.rows.filter fun a => advisories.contains a.id).map (·.definitionId)

def debianOwners (key : Option String) (s : Store) : List Int :=
  (s.debians.rows.filter fun d => key.isSome && d.cveId == key).map (·.definitionId)

def cveOwners (family : Family) (key : Option String) (s : Store) : List Int :=
  if family.vendor = .debian then s.debianOwners key else s.advisoryOwners key

def byPackage (family : Family) (release key : Option String) (s : Store) : List Definition :=
  s.hydrate family (s.definitionRows (s.releaseRoots family release) (s.packageOwners key))

def byCve (family : Family) (release key : Option String) (s : Store) : List Definition :=
  s.hydrate family (s.definitionRows (s.releaseRoots family release) (s.cveOwners family key))

end OvalCatalog.Store
