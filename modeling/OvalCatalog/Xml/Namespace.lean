import OvalCatalog.Xml.Flaw

namespace OvalCatalog.Xml

/-- Bindings, innermost first; the empty part before the colon is the default. -/
abbrev Scope := List (String × String)

namespace Scope

def xmlSpace : String := "http://www.w3.org/XML/1998/namespace"
def bindingSpace : String := "http://www.w3.org/2000/xmlns/"

def outermost : Scope := [("xml", xmlSpace)]

def lookup? (scope : Scope) (key : String) : Option String :=
  (scope.find? fun b => b.1 == key).map (·.2)

def split (name : String) : String × String :=
  match Text.cut? ':' name.toList with
  | some (key, rest) => (String.ofList key, String.ofList rest)
  | none => ("", name)

def boundKey? (attr : String) : Option String :=
  if attr = "xmlns" then some ""
  else match split attr with
    | ("xmlns", key) => some key
    | _ => none

def bind (scope : Scope) (key identifier : String) : Except Flaw Scope :=
  if identifier = "" ∧ key ≠ "" then .error ⟨.undeclaredPrefix, none⟩
  else if key = "xmlns" then .error ⟨.reservedXmlns, none⟩
  else if identifier.contains '\x7d' then .error ⟨.syntaxError, none⟩
  else if key = "xml" ∧ identifier ≠ xmlSpace then .error ⟨.reservedXml, none⟩
  else if key ≠ "xml" ∧ (identifier = xmlSpace ∨ identifier = bindingSpace) then .error ⟨.reservedIdentifier, none⟩
  else .ok ((key, identifier) :: scope)

def expanded (identifier name : String) : String :=
  if identifier = "" then name else "\x7b" ++ identifier ++ "\x7d" ++ name

def resolve (scope : Scope) (key name : String) : Except Flaw String :=
  match scope.lookup? key with
  | some identifier => .ok (expanded identifier name)
  | none => .error ⟨.unboundPrefix, none⟩

def elementName (scope : Scope) (name : String) : Except Flaw String :=
  match split name with
  | ("", name) => .ok (expanded ((scope.lookup? "").getD "") name)
  | (key, name) => scope.resolve key name

def attributeNames (scope : Scope) (seen : List (String × String)) :
    List (String × String) → Except Flaw (List (String × String))
  | [] => .ok seen.reverse
  | (name, value) :: rest =>
    match split name with
    | ("", _) => attributeNames scope ((name, value) :: seen) rest
    | (key, name) => do
      let name ← scope.resolve key name
      if seen.any (·.1 == name) then throw ⟨.duplicateAttribute, none⟩
      attributeNames scope ((name, value) :: seen) rest

end Scope

end OvalCatalog.Xml
