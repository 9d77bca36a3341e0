import OvalCatalog.Xml.Reference

namespace OvalCatalog.Xml

inductive Entity where
  | internal (text : List Char)
  | external
  | binary

structure AttributeRule where
  element : String
  name : String
  /-- The value is kept as it is; else runs of white space in it are one blank. -/
  isVerbatim : Bool
  default : Option (List Char)

structure Dtd where
  entities : List (String × Entity) := []
  rules : List AttributeRule := []
  standalone : Bool := false
  /-- Part of the type is outside the document or behind a parameter entity. -/
  isPartial : Bool := false
  isOpen : Bool := true

namespace Dtd

def entity? (d : Dtd) (name : String) : Option Entity :=
  (d.entities.find? fun e => e.1 == name).map (·.2)

def isComplete (d : Dtd) : Bool :=
  d.standalone || !d.isPartial

def addEntity (name : String) (e : Entity) (d : Dtd) : Dtd :=
  if !d.isOpen || (d.entity? name).isSome || (Reference.predefined? name).isSome then d
  else { d with entities := d.entities ++ [(name, e)] }

def rule? (d : Dtd) (element name : String) : Option AttributeRule :=
  d.rules.find? fun r => r.element == element && r.name == name

def addRule (r : AttributeRule) (d : Dtd) : Dtd :=
  if !d.isOpen then d else { d with rules := d.rules ++ [r] }

/-- A reference to a parameter entity hides what follows, unless the document stands alone. -/
def hideRest (d : Dtd) : Dtd :=
  { d with isPartial := true, isOpen := d.standalone }

def depth (d : Dtd) : Nat :=
  d.entities.length + 1

end Dtd

structure Literal where
  text : List Char
  after : List Char

namespace Literal

def flaw (l : Literal) (kind : FlawKind) (here : List Char) : Flaw :=
  .within (some l.after) kind here

def lapse (l : Literal) (here : List Char) : Lapse → Flaw
  | .invalid place => l.flaw .invalidToken place
  | _ => l.flaw .invalidToken here

/-- The text of an entity from its literal: characters by number are put in, other references are kept.
`fuel` exceeds the length of the rest, and `seen` is what precedes, last character first. -/
def entityTextFrom (l : Literal) : Nat → List Char → List Char → Except Flaw (List Char)
  | fuel + 1, seen, c :: s =>
    if c == '%' then
      match name s with
      | .ok (_, ';' :: _) => .error (l.flaw .parameterReference (c :: s))
      | .ok (_, rest) => .error (l.lapse (c :: s) (if rest.isEmpty then .unfinished else .invalid rest))
      | .error e => .error (l.lapse (c :: s) e)
    else if c == '&' then
      match Reference.read s with
      | .ok (.number (some c), rest) => entityTextFrom l fuel (c :: seen) rest
      | .ok (.number none, _) => .error (l.flaw .characterNumber (c :: s))
      | .ok (_, rest) => entityTextFrom l fuel ((s.take (s.length - rest.length)).reverse ++ '&' :: seen) rest
      | .error e => .error (l.lapse (c :: s) e)
    else entityTextFrom l fuel (c :: seen) s
  | _, seen, _ => .ok seen.reverse

def entityText (l : Literal) : Except Flaw (List Char) :=
  l.entityTextFrom (l.text.length + 1) [] l.text

end Literal

end OvalCatalog.Xml
