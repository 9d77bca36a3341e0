import OvalCatalog.Definition
import OvalCatalog.Store.Table
import OvalCatalog.Time.Timestamp

namespace OvalCatalog

structure FetchRow where
  id : Int
  fileName : String
  timestamp : Time.Timestamp
  deriving DecidableEq

structure RootRow where
  id : Int
  family : String
  osVersion : String
  deriving DecidableEq, Repr

structure DefinitionRow where
  id : Int
  rootId : Int
  definitionId : Option String
  title : Option String
  description : Option String
  severity : Option String
  deriving DecidableEq, Repr

structure PackageRow where
  id : Int
  definitionId : Int
  name : String
  version : Option String
  notFixedYet : Option Bool
  deriving DecidableEq, Repr

structure ReferenceRow where
  id : Int
  definitionId : Int
  source : Option String
  refId : Option String
  refUrl : Option String
  deriving DecidableEq, Repr

structure AdvisoryRow where
  id : Int
  definitionId : Int
  advisoryId : Option String
  severity : Option String
  issued : Option String
  updated : Option String
  deriving DecidableEq, Repr

structure CveRow where
  id : Int
  advisoryId : Int
  cveId : String
  cvss2 : Option String
  cvss3 : Option String
  cwe : Option String
  href : Option String
  published : Option String
  deriving DecidableEq, Repr

structure BugzillaRow where
  id : Int
  advisoryId : Int
  bugzillaId : Option String
  url : Option String
  title : Option String
  deriving DecidableEq, Repr

structure CpeRow where
  id : Int
  advisoryId : Int
  cpe : Option String
  deriving DecidableEq, Repr

structure DebianRow where
  id : Int
  definitionId : Int
  cveId : Option String
  moreInfo : Option String
  dsa : Option String
  date : Option String
  deriving DecidableEq, Repr

instance : Row FetchRow := ⟨FetchRow.id⟩
instance : Row RootRow := ⟨RootRow.id⟩
instance : Row DefinitionRow := ⟨DefinitionRow.id⟩
instance : Row PackageRow := ⟨PackageRow.id⟩
instance : Row ReferenceRow := ⟨ReferenceRow.id⟩
instance : Row AdvisoryRow := ⟨AdvisoryRow.id⟩
instance : Row CveRow := ⟨CveRow.id⟩
instance : Row BugzillaRow := ⟨BugzillaRow.id⟩
instance : Row CpeRow := ⟨CpeRow.id⟩
instance : Row DebianRow := ⟨DebianRow.id⟩

def DefinitionRow.of (rootId : Int) (d : Definition) (id : Int) : DefinitionRow :=
  ⟨id, rootId, d.definitionId, d.title, d.description, d.severity⟩

def PackageRow.of (definitionId id : Int) (p : Package) : Except Column PackageRow :=
  match p.name with
  | some name => .ok ⟨id, definitionId, name, p.version, p.notFixedYet⟩
  | none => .error .packageName

def PackageRow.package (r : PackageRow) : Package :=
  ⟨some r.name, r.version, some (r.notFixedYet.getD false), some r.id⟩

def ReferenceRow.of (definitionId id : Int) (r : Reference) : ReferenceRow :=
  ⟨id, definitionId, r.source, r.refId, r.refUrl⟩

def ReferenceRow.reference (r : ReferenceRow) : Reference :=
  ⟨r.source, r.refId, r.refUrl, some r.id⟩

def AdvisoryRow.of (definitionId : Int) (a : Advisory) (id : Int) : AdvisoryRow :=
  ⟨id, definitionId, a.advisoryId, a.severity, a.issued, a.updated⟩

def CveRow.of (advisoryId id : Int) (c : Cve) : Except Column CveRow :=
  match c.cveId with
  | some cve => .ok ⟨id, advisoryId, cve, c.cvss2, c.cvss3, c.cwe, c.href, c.published⟩
  | none => .error .cveId

def CveRow.cve (r : CveRow) : Cve :=
  ⟨some r.cveId, r.cvss2, r.cvss3, r.cwe, r.href, r.published, some r.id⟩

def BugzillaRow.of (advisoryId id : Int) (b : Bugzilla) : BugzillaRow :=
  ⟨id, advisoryId, b.bugzillaId, b.url, b.title⟩

def BugzillaRow.bugzilla (r : BugzillaRow) : Bugzilla :=
  ⟨r.bugzillaId, r.url, r.title, some r.id⟩

def CpeRow.of (advisoryId id : Int) (c : Cpe) : CpeRow :=
  ⟨id, advisoryId, c.cpe⟩

def CpeRow.toCpe (r : CpeRow) : Cpe :=
  ⟨r.cpe, some r.id⟩

def FetchRow.of (fileName : Option String) (t : Time.Timestamp) (id : Int) : Except Column FetchRow :=
  match fileName with
  | some name => .ok ⟨id, name, t⟩
  | none => .error .fileName

def DebianRow.of (definitionId : Int) (d : Debian) (id : Int) : DebianRow :=
  ⟨id, definitionId, d.cveId, d.moreInfo, d.dsa, d.date⟩

def DebianRow.debian (r : DebianRow) : Debian :=
  ⟨r.cveId, r.moreInfo, r.dsa, r.date, some r.id⟩

end OvalCatalog
