import OvalCatalog.Text.Lines

namespace OvalCatalog.Text

def pathRoot : List Char → String
  | '/' :: '/' :: '/' :: _ => "/"
  | '/' :: '/' :: _ => "//"
  | '/' :: _ => "/"
  | _ => ""

def pathParts (path : List Char) : List String :=
  ((words (· == '/') path).map String.ofList).filter (· != ".")

def normalPath (path : String) : String :=
  match pathRoot path.toList ++ String.intercalate "/" (pathParts path.toList) with
  | "" => "."
  | s => s

/-- Where a part of a path leads. A place is the list of its parts, the last one first; two dots lead back out
of it. -/
def enter (rooted : Bool) : List String → String → List String
  | [], ".." => if rooted then [] else [".."]
  | ".." :: here, ".." => ".." :: ".." :: here
  | _ :: here, ".." => here
  | here, part => part :: here

def placeText (root : String) (here : List String) : String :=
  match root ++ String.intercalate "/" here.reverse with
  | "" => "."
  | s => s

def resolvedPath (path : String) : String :=
  let root := pathRoot path.toList
  placeText root ((pathParts path.toList).foldl (enter (root != "")) [])

def inDirectory (directory file : String) : String :=
  normalPath (directory ++ "/" ++ file)

def nameLimit : Nat := 255

def pathLimit : Nat := 4095

end OvalCatalog.Text
