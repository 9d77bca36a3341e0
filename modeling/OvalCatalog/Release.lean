import OvalCatalog.Text.Blank

namespace OvalCatalog.Release

def isSeparator (c : Char) : Bool :=
  c == '.' || c == '-' || c == '(' || Text.isBlank c

def major (version : List Char) : List Char :=
  (Text.trim version).takeWhile fun c => !isSeparator c

def majorVersion (version : String) : String :=
  String.ofList (major version.toList)

end OvalCatalog.Release
