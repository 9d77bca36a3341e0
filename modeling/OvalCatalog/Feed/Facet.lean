import OvalCatalog.Text.Quoted

/-! Facets of values: what dots and brackets in a field of a template lead to. A text has characters and a
kind; a kind has a name and the kinds that it is a special case of. -/

namespace OvalCatalog.Feed

inductive Kind where
  | text
  | kind
  | kinds
  | nothing
  | thing
  deriving DecidableEq, Repr

inductive Facet where
  | text (s : List Char)
  | kind (k : Kind)
  | kinds (ks : List Kind)
  | nothing
  deriving DecidableEq, Repr

inductive FacetError where
  | noAttribute (owner : Facet) (name : String)
  | noSuchIndex (owner : Facet)
  | keyIndex (owner : Facet)
  | noLayout (owner : Facet)
  deriving DecidableEq, Repr

namespace Kind

def name : Kind → String
  | text => "str"
  | kind => "type"
  | kinds => "tuple"
  | nothing => "NoneType"
  | thing => "object"

def lineage : Kind → List Kind
  | thing => [thing]
  | k => [k, thing]

def display (k : Kind) : String :=
  "<class '" ++ k.name ++ "'>"

def account? : Kind → Option String
  | text => some (
    "str(object='') -> str\n" ++
    "str(bytes_or_buffer[, encoding[, errors]]) -> str\n" ++
    "\n" ++
    "Create a new string object from the given object. If encoding or\n" ++
    "errors is specified, then the object must expose a data buffer\n" ++
    "that will be decoded using the given encoding and error handler.\n" ++
    "Otherwise, returns the result of object.__str__() (if defined)\n" ++
    "or repr(object).\n" ++
    "encoding defaults to sys.getdefaultencoding().\n" ++
    "errors defaults to 'strict'.")
  | kind => some (
    "type(object) -> the object's type\n" ++
    "type(name, bases, dict, **kwds) -> a new type")
  | kinds => some (
    "Built-in immutable sequence.\n" ++
    "\n" ++
    "If no argument is given, the constructor returns an empty tuple.\n" ++
    "If iterable is specified the tuple is initialized from iterable's items.\n" ++
    "\n" ++
    "If the argument is a tuple, the return value is the same object.")
  | nothing => none
  | thing => some (
    "The base class of the class hierarchy.\n" ++
    "\n" ++
    "When called, it accepts no arguments and returns a new featureless\n" ++
    "instance that has no instance attributes and cannot be given any.\n")

end Kind

namespace Facet

def displayKinds (ks : List Kind) : String :=
  "(" ++ String.intercalate ", " (ks.map Kind.display) ++ (if ks.length = 1 then ",)" else ")")

def plain : Facet → List Char
  | text s => s
  | kind k => k.display.toList
  | kinds ks => (displayKinds ks).toList
  | nothing => "None".toList

def quotedBy (quote : String → String) : Facet → List Char
  | text s => (quote (String.ofList s)).toList
  | f => f.plain

def ownKind : Facet → Kind
  | text _ => .text
  | kind _ => .kind
  | kinds _ => .kinds
  | nothing => .nothing

def ofText (s : String) : Facet :=
  text s.toList

def ofText? (s : Option String) : Facet :=
  s.elim nothing ofText

def kindParts (k : Kind) : List (String × Facet) :=
  [("__name__", ofText k.name), ("__qualname__", ofText k.name), ("__module__", ofText "builtins"),
    ("__mro__", kinds k.lineage), ("__bases__", kinds (k.lineage.drop 1)),
    ("__base__", (k.lineage[1]?).elim nothing kind)]

def parts (f : Facet) : List (String × Facet) :=
  match f with
  | kind k => [("__class__", kind f.ownKind), ("__doc__", ofText? k.account?)] ++ kindParts k
  | f => [("__class__", kind f.ownKind), ("__doc__", ofText? f.ownKind.account?)]

def named (f : Facet) (name : String) : Except FacetError Facet :=
  match f.parts.find? fun a => a.1 == name with
  | some (_, g) => .ok g
  | none => .error (.noAttribute f name)

def item (f : Facet) (i : Nat) : Except FacetError Facet :=
  match f with
  | text s => (s[i]?).elim (.error (.noSuchIndex f)) fun c => .ok (text [c])
  | kinds ks => (ks[i]?).elim (.error (.noSuchIndex f)) fun k => .ok (kind k)
  | _ => .error (.keyIndex f)

end Facet

def FacetError.message : FacetError → String
  | noAttribute (.kind k) name => "type object '" ++ k.name ++ "' has no attribute '" ++ name ++ "'"
  | noAttribute f name => "'" ++ f.ownKind.name ++ "' object has no attribute '" ++ name ++ "'"
  | noSuchIndex (.kinds _) => "tuple index out of range"
  | noSuchIndex _ => "string index out of range"
  | keyIndex (.text _) => "string indices must be integers, not 'str'"
  | keyIndex (.kinds _) => "tuple indices must be integers or slices, not str"
  | keyIndex (.kind k) => "type '" ++ k.name ++ "' is not subscriptable"
  | keyIndex f => "'" ++ f.ownKind.name ++ "' object is not subscriptable"
  | noLayout f => "unsupported format string passed to " ++ f.ownKind.name ++ ".__format__"

end OvalCatalog.Feed
