import OvalCatalog.Family
import OvalCatalog.Feed.Template
import OvalCatalog.Keyed
import OvalCatalog.Release
import OvalCatalog.Value.Kind

namespace OvalCatalog.Feed

structure Target where
  family : String
  osVersion : String
  url : String
  deriving DecidableEq, Repr

inductive TargetError where
  | unknownFamily (name : String)
  | noCodename (osVersion : String)
  | template (e : TemplateError)
  | notAMap (v : Value)
  | notAText (v : Value)

def TargetError.message : TargetError → String
  | unknownFamily name => "Unknown OS family: " ++ name
  | noCodename osVersion => "No Debian codename known for version " ++ osVersion
  | template e => e.message
  | notAMap v => v.lacks "get"
  | notAText v => v.lacks "format"

/-- The last part of the address, slashes at its end apart; a file that holds every release is told
apart by the major version. -/
def Target.fileName (t : Target) : String :=
  let url := (t.url.toList.reverse.dropWhile (· == '/')).reverse
  let name := String.ofList (Text.afterLast '/' url)
  if t.family = Family.oracle.name then name ++ ":" ++ Release.majorVersion t.osVersion else name

def defaultTemplate (f : Family) : String :=
  match f.vendor with
  | .redhat => "https://www.redhat.com/security/data/oval/com.redhat.rhsa-RHEL\x7bmajor\x7d.xml.bz2"
  | .oracle => "https://linux.oracle.com/oval/com.oracle.elsa-all.xml.bz2"
  | .debian => "https://www.debian.org/security/oval/oval-definitions-\x7bcodename\x7d.xml"
  | .suse => "http://ftp.suse.com/pub/projects/security/oval/\x7bfamily\x7d.\x7bversion\x7d.xml"

def entry? (key : String) (v : Value) : Except TargetError (Option Value) :=
  match v.entries? with
  | some entries => .ok (Keyed.find? key entries)
  | none => .error (.notAMap v)

def templateOf (f : Family) (feeds : Value) : Except TargetError Value := do
  let settings := (← entry? f.name feeds).getD .null
  let template ← entry? "url_template" settings
  return template.getD (.text (defaultTemplate f))

def codenameOf (f : Family) (osVersion : String) : Except TargetError String :=
  if f = .debian then
    match Family.codename? (Release.majorVersion osVersion) with
    | some name => .ok name
    | none => .error (.noCodename osVersion)
  else .ok ""

def Target.build (f : Family) (feeds : Value) (osVersion : String) : Except TargetError Target := do
  let template ← templateOf f feeds
  let codename ← codenameOf f osVersion
  match template with
  | .text template =>
    let fields := [("family", f.name), ("version", osVersion), ("major", Release.majorVersion osVersion),
      ("codename", codename)]
    let url ← (Template.render fields template).mapError .template
    return ⟨f.name, osVersion, url⟩
  | v => throw (.notAText v)

def Target.buildAll (family : String) (feeds : Value) (versions : List String) :
    Except TargetError (List Target) :=
  versions.mapM fun osVersion =>
    match Family.ofName? family with
    | none => .error (.unknownFamily family)
    | some f => Target.build f feeds osVersion

end OvalCatalog.Feed
