import OvalCatalog.Text.Path

namespace OvalCatalog.Report

inductive DirectoryError where
  | nullCharacter
  | nameTooLong
  | insideFile
  | isFile

def DirectoryError.message : DirectoryError → String
  | nullCharacter => "embedded null byte"
  | nameTooLong => "File name too long"
  | insideFile => "Not a directory"
  | isFile => "File exists"

/-- Follows the parts of a path from a place. Once a directory has been made on the way, each further one is made
in its turn, so that a file then stands where a directory is to be made. -/
def follow (isFile : String → Bool) (root : String) (here : List String) (made : Bool) :
    List String → Except DirectoryError (List String)
  | [] => .ok here
  | part :: rest => do
    if Text.nameLimit < part.utf8ByteSize then throw .nameTooLong
    let here := Text.enter (root != "") here part
    if isFile (Text.placeText root here) then throw (if made || rest.isEmpty then .isFile else .insideFile)
    follow isFile root here (made || part != "..") rest

def makeDirectory (isFile : String → Bool) (path : String) : Except DirectoryError String := do
  if path.toList.contains '\x00' then throw .nullCharacter
  if Text.pathLimit < path.utf8ByteSize then throw .nameTooLong
  let root := Text.pathRoot path.toList
  return Text.placeText root (← follow isFile root [] false (Text.pathParts path.toList))

end OvalCatalog.Report
