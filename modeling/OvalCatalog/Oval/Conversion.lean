import OvalCatalog.Family
import OvalCatalog.Oval.Criteria

namespace OvalCatalog.Oval

open Xml (Element)

structure Target where
  family : String
  osVersion : String

def references (metadata : Element) : List Reference :=
  (metadata.childrenNamed "reference").map fun r =>
    { source := some (r.attributeText "source"), refId := some (r.attributeText "ref_id"),
      refUrl := some (r.attributeText "ref_url") }

def isCveSource (r : Reference) : Bool :=
  (r.source.getD "").toUpper == "CVE"

def advisoryId (references : List Reference) : Option String :=
  match references.find? fun r => r.source != some "" && !isCveSource r with
  | some r => r.refId
  | none => some ""

def listedCves (advisory : Element) : List Cve :=
  ((advisory.childrenNamed "cve").filter fun c => c.content != "").map fun c =>
    { cveId := some c.content, cvss2 := some (c.attributeText "cvss2"),
      cvss3 := some (c.attributeText "cvss3"), cwe := some (c.attributeText "cwe"),
      href := some (c.attributeText "href"), published := some (c.attributeText "public") }

def referredCves (references : List Reference) : List Cve :=
  (references.filter fun r => isCveSource r && r.refId != some "").map fun r =>
    { cveId := r.refId, href := r.refUrl }

def bugzillas (advisory : Element) : List Bugzilla :=
  (advisory.childrenNamed "bugzilla").map fun b =>
    { bugzillaId := some (b.attributeText "id"), url := some (b.attributeText "href"),
      title := some b.content }

def cpes (advisory : Element) : List Cpe :=
  match advisory.child? "affected_cpe_list" with
  | none => []
  | some list => ((list.childrenNamed "cpe").filter fun c => c.content != "").map fun c => ⟨some c.content, none⟩

def dateOf (name : String) (advisory : Element) : String :=
  ((advisory.child? name).map (·.attributeText "date")).getD ""

def describedAdvisory (advisory : Element) : Advisory :=
  { severity := some (advisory.childContent "severity"), issued := some (dateOf "issued" advisory),
    updated := some (dateOf "updated" advisory), cves := listedCves advisory,
    bugzillas := bugzillas advisory, cpes := cpes advisory }

def advisoryOf (metadata : Element) (references : List Reference) : Advisory :=
  let advisory := ((metadata.child? "advisory").map describedAdvisory).getD {}
  { advisory with
    advisoryId := advisoryId references
    cves := if advisory.cves.isEmpty then referredCves references else advisory.cves }

def debianOf (title : String) (metadata : Element) : Debian :=
  let debian := (metadata.child? "debian").getD { tag := "debian" }
  { cveId := some title, moreInfo := some (debian.childContent "moreinfo"),
    dsa := some (debian.childContent "dsa"), date := some (debian.childContent "date") }

def appliesToOracle (osVersion : String) (metadata : Element) : Bool :=
  match metadata.child? "affected" with
  | none => false
  | some affected => (affected.childrenNamed "platform").any fun p =>
      p.content == "Oracle Linux " ++ Release.majorVersion osVersion

def metadataOf (e : Element) : Element :=
  (e.child? "metadata").getD { tag := "metadata" }

def applies (target : Target) (e : Element) : Bool :=
  target.family != Family.oracle.name || appliesToOracle target.osVersion (metadataOf e)

def definition (target : Target) (id : String) (e : Element) : Definition :=
  let metadata := metadataOf e
  let references := references metadata
  let advisory := advisoryOf metadata references
  let title := metadata.childContent "title"
  { definitionId := some id
    title := some title
    description := some (metadata.childContent "description")
    severity := advisory.severity
    advisory := some advisory
    packages := ((e.child? "criteria").map (affectedPackages target.osVersion)).getD []
    references := references
    debian := if target.family = Family.debian.name then some (debianOf title metadata) else none }

end OvalCatalog.Oval
