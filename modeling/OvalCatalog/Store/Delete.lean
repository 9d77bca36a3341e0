import OvalCatalog.Store.Basic

/-! Deletion of a root with all that hangs off it, deepest rows first: each step finds its rows through
rows that later steps delete. -/

namespace OvalCatalog.Store

def definitionIds (root : Int) (s : Store) : List Int :=
  (s.definitions.rows.filter fun d => d.rootId == root).map (·.id)

def advisoryIds (root : Int) (s : Store) : List Int :=
  (s.advisories.rows.filter fun a => (s.definitionIds root).contains a.definitionId).map (·.id)

def deleteCves (root : Int) (s : Store) : Store :=
  let ids := s.advisoryIds root
  { s with cves := s.cves.delete fun r => ids.contains r.advisoryId }

def deleteBugzillas (root : Int) (s : Store) : Store :=
  let ids := s.advisoryIds root
  { s with bugzillas := s.bugzillas.delete fun r => ids.contains r.advisoryId }

def deleteCpes (root : Int) (s : Store) : Store :=
  let ids := s.advisoryIds root
  { s with cpes := s.cpes.delete fun r => ids.contains r.advisoryId }

def deleteAdvisories (root : Int) (s : Store) : Store :=
  let ids := s.definitionIds root
  { s with advisories := s.advisories.delete fun r => ids.contains r.definitionId }

def deletePackages (root : Int) (s : Store) : Store :=
  let ids := s.definitionIds root
  { s with packages := s.packages.delete fun r => ids.contains r.definitionId }

def deleteReferences (root : Int) (s : Store) : Store :=
  let ids := s.definitionIds root
  { s with references := s.references.delete fun r => ids.contains r.definitionId }

def deleteDebians (root : Int) (s : Store) : Store :=
  let ids := s.definitionIds root
  { s with debians := s.debians.delete fun r => ids.contains r.definitionId }

def deleteDefinitions (root : Int) (s : Store) : Store :=
  { s with definitions := s.definitions.delete fun r => r.rootId == root }

def deleteRootRow (root : Int) (s : Store) : Store :=
  { s with roots := s.roots.delete fun r => r.id == root }

def deleteRoot (root : Int) (s : Store) : Store :=
  s.deleteCves root |>.deleteBugzillas root |>.deleteCpes root |>.deleteAdvisories root
    |>.deletePackages root |>.deleteReferences root |>.deleteDebians root
    |>.deleteDefinitions root |>.deleteRootRow root

def rootIds (family osVersion : String) (s : Store) : List Int :=
  (s.roots.ordered.filter fun r => r.family == family && r.osVersion == osVersion).map (·.id)

end OvalCatalog.Store
