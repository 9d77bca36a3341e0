import OvalCatalog.Store.Basic

/-! Insertion of a root with all that hangs off it. The first row that is refused ends it: a name or an
identifier is missing, or the row's number is taken. -/

namespace OvalCatalog.Store

def placed {ρ : Type} (put : Table ρ → Store) :
    Except (RowError × Table ρ) (Table ρ) → Except Refused Store
  | .ok t => .ok (put t)
  | .error (e, t) => .error ⟨e, put t⟩

def addPackages (definition : Int) (items : List Package) (s : Store) : Except Refused Store :=
  placed ({ s with packages := · }) (s.packages.fill (PackageRow.of definition) items)

def addReferences (definition : Int) (items : List Reference) (s : Store) : Except Refused Store :=
  placed ({ s with references := · }) (s.references.appendAll (ReferenceRow.of definition) items)

def addCves (advisory : Int) (items : List Cve) (s : Store) : Except Refused Store :=
  placed ({ s with cves := · }) (s.cves.fill (CveRow.of advisory) items)

def addBugzillas (advisory : Int) (items : List Bugzilla) (s : Store) : Except Refused Store :=
  placed ({ s with bugzillas := · }) (s.bugzillas.appendAll (BugzillaRow.of advisory) items)

def addCpes (advisory : Int) (items : List Cpe) (s : Store) : Except Refused Store :=
  placed ({ s with cpes := · }) (s.cpes.appendAll (CpeRow.of advisory) items)

def addAdvisory (definition : Int) (a : Advisory) (s : Store) : Except Refused Store := do
  let id := s.advisories.next
  let s ← placed ({ s with advisories := · }) (s.advisories.append (AdvisoryRow.of definition a))
  let s ← s.addCves id a.cves
  let s ← s.addBugzillas id a.bugzillas
  s.addCpes id a.cpes

def addDebian (definition : Int) (d : Debian) (s : Store) : Except Refused Store :=
  placed ({ s with debians := · }) (s.debians.append (DebianRow.of definition d))

def addGiven {α : Type} (add : α → Store → Except Refused Store) : Option α → Store → Except Refused Store
  | some a, s => add a s
  | none, s => .ok s

def addDefinition (root : Int) (d : Definition) (s : Store) : Except Refused Store := do
  let id := s.definitions.next
  let s ← placed ({ s with definitions := · }) (s.definitions.append (DefinitionRow.of root d))
  let s ← s.addPackages id d.packages
  let s ← s.addReferences id d.references
  let s ← addGiven (addAdvisory id) d.advisory s
  addGiven (addDebian id) d.debian s

def addDefinitions (root : Int) : List Definition → Store → Except Refused Store
  | [], s => .ok s
  | d :: rest, s => do
    let s ← s.addDefinition root d
    addDefinitions root rest s

def addRoot (family osVersion : String) (definitions : List Definition) (s : Store) :
    Except Refused Store := do
  let id := s.roots.next
  let s ← placed ({ s with roots := · }) (s.roots.append fun n => ⟨n, family, osVersion⟩)
  s.addDefinitions id definitions

end OvalCatalog.Store
