import OvalCatalog.Definition
import OvalCatalog.Text.Blank
import OvalCatalog.Text.Digit
import OvalCatalog.Text.Lines

/-! Comments that name an affected package. Each vendor has a shape of its own; a comment has at most
one of the four. -/

namespace OvalCatalog

inductive PackageComment where
  /-- `name is earlier than version` -/
  | earlier (name version : List Char)
  /-- `name DPKG is earlier than version` -/
  | dpkgEarlier (name version : List Char)
  /-- `name DPKG is installed` -/
  | dpkgInstalled (name : List Char)
  /-- `name-version-release is installed` -/
  | installed (name version release : List Char)
  deriving DecidableEq, Repr

namespace PackageComment

def earlierThan : List Char := " is earlier than ".toList
def dpkg : List Char := " DPKG".toList
def isInstalled : List Char := " is installed".toList

def render : PackageComment → List Char
  | earlier name version => name ++ earlierThan ++ version
  | dpkgEarlier name version => name ++ dpkg ++ earlierThan ++ version
  | dpkgInstalled name => name ++ dpkg ++ isInstalled
  | installed name version release => name ++ '-' :: version ++ '-' :: release ++ isInstalled

def isWord (s : List Char) : Bool :=
  !s.isEmpty && s.all fun c => !Text.isBlank c

def earlierVersion? (s : List Char) : Option (List Char) :=
  (Text.after? earlierThan s).bind fun version => if isWord version then some version else none

def installed? (s : List Char) : Option PackageComment := do
  let (s, release) ← Text.cutLast? '-' s
  let (name, version) ← Text.cutLast? '-' s
  if name.isEmpty || version.isEmpty || release.isEmpty then none
  else return installed name version release

def read? (comment : List Char) : Option PackageComment :=
  let s := Text.trim comment
  let name := s.takeWhile fun c => !Text.isBlank c
  let rest := s.dropWhile fun c => !Text.isBlank c
  if name.isEmpty then none
  else match Text.after? dpkg rest with
    | some rest =>
      match earlierVersion? rest with
      | some version => some (dpkgEarlier name version)
      | none => if rest = isInstalled then some (dpkgInstalled name) else none
    | none =>
      match earlierVersion? rest with
      | some version => some (earlier name version)
      | none => if rest = isInstalled then installed? name else none

def package : PackageComment → Package
  | earlier name version | dpkgEarlier name version =>
    { name := some (String.ofList name), version := some (String.ofList version) }
  | dpkgInstalled name => { name := some (String.ofList name), notFixedYet := some true }
  | installed name version release =>
    { name := some (String.ofList name), version := some (String.ofList (version ++ '-' :: release)) }

end PackageComment

def Package.ofComment? (comment : String) : Option Package :=
  (PackageComment.read? comment.toList).map PackageComment.package

def oracleRelease? (comment : String) : Option (List Char) := do
  let rest ← Text.after? "Oracle Linux ".toList (Text.trim comment.toList)
  let release := rest.takeWhile fun c => !Text.isBlank c
  if rest.dropWhile (fun c => !Text.isBlank c) = PackageComment.isInstalled ∧
      !release.isEmpty ∧ release.all Text.isDigit then some release
  else none

end OvalCatalog
