/-! Vulnerability definitions and their parts. A text that is absent is `none`; row ids are given to
records that were read back from the store. -/

namespace OvalCatalog

structure Cve where
  cveId : Option String
  cvss2 : Option String := some ""
  cvss3 : Option String := some ""
  cwe : Option String := some ""
  href : Option String := some ""
  published : Option String := some ""
  id : Option Int := none
  deriving DecidableEq, Repr

structure Bugzilla where
  bugzillaId : Option String
  url : Option String := some ""
  title : Option String := some ""
  id : Option Int := none
  deriving DecidableEq, Repr

structure Cpe where
  cpe : Option String
  id : Option Int := none
  deriving DecidableEq, Repr

structure Advisory where
  advisoryId : Option String := some ""
  severity : Option String := some ""
  issued : Option String := some ""
  updated : Option String := some ""
  cves : List Cve := []
  bugzillas : List Bugzilla := []
  cpes : List Cpe := []
  id : Option Int := none
  deriving DecidableEq, Repr

structure Package where
  name : Option String
  version : Option String := some ""
  notFixedYet : Option Bool := some false
  id : Option Int := none
  deriving DecidableEq, Repr

structure Reference where
  source : Option String := some ""
  refId : Option String := some ""
  refUrl : Option String := some ""
  id : Option Int := none
  deriving DecidableEq, Repr

structure Debian where
  cveId : Option String := some ""
  moreInfo : Option String := some ""
  dsa : Option String := some ""
  date : Option String := some ""
  id : Option Int := none
  deriving DecidableEq, Repr

structure Definition where
  definitionId : Option String
  title : Option String := some ""
  description : Option String := some ""
  severity : Option String := some ""
  advisory : Option Advisory := none
  packages : List Package := []
  references : List Reference := []
  debian : Option Debian := none
  id : Option Int := none
  rootId : Option Int := none
  deriving DecidableEq, Repr

structure Root where
  family : Option String
  osVersion : Option String
  definitions : List Definition := []
  deriving DecidableEq, Repr

namespace Definition

def cveIds (d : Definition) : List (Option String) :=
  let listed := match d.advisory with
    | some advisory => advisory.cves.map (·.cveId)
    | none => []
  match d.debian with
  | some debian =>
    match debian.cveId with
    | none | some "" => listed
    | some cve => if listed.contains (some cve) then listed else listed ++ [some cve]
  | none => listed

end Definition

end OvalCatalog
