import OvalCatalog.Oval.Navigation
import OvalCatalog.PackageComment
import OvalCatalog.Release

namespace OvalCatalog.Oval

open Xml (Element)

abbrev ScopedPackage := Package × Option (List Char)

def comment (e : Element) : String :=
  e.attributeText "comment"

/-- The release that criteria are limited to: the last one that a criterion right inside them names,
else the one they are limited to from outside. -/
def releaseOf (outer : Option (List Char)) (children : List Element) : Option (List Char) :=
  (children.filter (Element.named "criterion")).foldl
    (fun release c => (oracleRelease? (comment c)).or release) outer

mutual

def packagesIn (outer : Option (List Char)) : Element → List ScopedPackage
  | ⟨_, _, _, children⟩ => packagesAmong (releaseOf outer children) children

def packagesAmong (release : Option (List Char)) : List Element → List ScopedPackage
  | [] => []
  | e :: rest =>
    (if e.named "criterion" then ((Package.ofComment? (comment e)).map (·, release)).toList
     else if e.named "criteria" then packagesIn release e
     else []) ++ packagesAmong release rest

end

def firstOfEach (seen : List (Option String × Option String)) : List Package → List Package
  | [] => []
  | p :: rest =>
    if seen.contains (p.name, p.version) then firstOfEach seen rest
    else p :: firstOfEach ((p.name, p.version) :: seen) rest

def affectedPackages (osVersion : String) (criteria : Element) : List Package :=
  let inScope := (packagesIn none criteria).filter fun p =>
    p.2.all (· == Release.major osVersion.toList)
  firstOfEach [] (inScope.map (·.1))

end OvalCatalog.Oval
