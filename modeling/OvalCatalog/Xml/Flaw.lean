import OvalCatalog.Text.Lines
import OvalCatalog.Xml.Character

namespace OvalCatalog.Xml

inductive FlawKind where
  | syntaxError
  | noElement
  | invalidToken
  | unclosedToken
  | partialCharacter
  | mismatchedTag
  | duplicateAttribute
  | junkAfterRoot
  | parameterReference
  | undefinedEntity
  /-- The entity may be declared where the document type is not read, or it stands outside the document. -/
  | skippedEntity (name : String)
  | recursiveEntity
  | asynchronousEntity
  | characterNumber
  | binaryEntity
  | externalEntity
  | misplacedDeclaration
  | unknownEncoding
  | wrongEncoding
  | unclosedSection
  | unboundPrefix
  | undeclaredPrefix
  | reservedXml
  | reservedXmlns
  | reservedIdentifier
  | badDeclaration
  | publicId
  | amplification

namespace FlawKind

/-- The characters of a text that fit into so many bytes; one that fits in part is shown as a replacement. -/
def fitting : Nat → List Char → List Char
  | _, [] => []
  | room, c :: s =>
    if c.utf8Size ≤ room then c :: fitting (room - c.utf8Size) s else if room = 0 then [] else ['\ufffd']

def referenceLimit : Nat := 100

def text : FlawKind → String
  | syntaxError => "syntax error"
  | noElement => "no element found"
  | invalidToken => "not well-formed (invalid token)"
  | unclosedToken => "unclosed token"
  | partialCharacter => "partial character"
  | mismatchedTag => "mismatched tag"
  | duplicateAttribute => "duplicate attribute"
  | junkAfterRoot => "junk after document element"
  | parameterReference => "illegal parameter entity reference"
  | undefinedEntity => "undefined entity"
  | skippedEntity name => "undefined entity " ++ String.ofList (fitting referenceLimit ('&' :: name.toList ++ [';']))
  | recursiveEntity => "recursive entity reference"
  | asynchronousEntity => "asynchronous entity"
  | characterNumber => "reference to invalid character number"
  | binaryEntity => "reference to binary entity"
  | externalEntity => "reference to external entity in attribute"
  | misplacedDeclaration => "XML or text declaration not at start of entity"
  | unknownEncoding => "unknown encoding"
  | wrongEncoding => "encoding specified in XML declaration is incorrect"
  | unclosedSection => "unclosed CDATA section"
  | unboundPrefix => "unbound prefix"
  | undeclaredPrefix => "must not undeclare prefix"
  | reservedXml => "reserved prefix (xml) must not be undeclared or bound to another namespace name"
  | reservedXmlns => "reserved prefix (xmlns) must not be declared or undeclared"
  | reservedIdentifier => "prefix must not be bound to one of the reserved namespace names"
  | badDeclaration => "XML declaration not well-formed"
  | publicId => "illegal character(s) in public id"
  | amplification => "limit on input amplification factor (from DTD and entities) breached"

end FlawKind

/-- What is wrong, and how many characters are left from there on. A flaw in the text of an entity has no place of
its own. -/
structure Flaw where
  kind : FlawKind
  left : Option Nat := none

namespace Flaw

def before (kind : FlawKind) (here : List Char) : Flaw :=
  ⟨kind, some here.length⟩

def within (after : Option (List Char)) (kind : FlawKind) (here : List Char) : Flaw :=
  ⟨kind, after.map fun after => here.length + after.length⟩

def placed (here : List Char) (f : Flaw) : Flaw :=
  match f.left with
  | some _ => f
  | none => before f.kind here

def unplaced (f : Flaw) : Flaw :=
  ⟨f.kind, none⟩

end Flaw

inductive Lapse where
  | invalid (here : List Char)
  | unfinished
  | cut

namespace Lapse

def flaw (here : List Char) : Lapse → Flaw
  | invalid place => .before .invalidToken place
  | unfinished => .before .unclosedToken here
  | cut => .before .partialCharacter here

end Lapse

def misfit {α : Type} (s : List Char) : Except Lapse α :=
  .error (if s.isEmpty || s.head? == some halfUnit then .unfinished else .invalid s)

def refuse {α : Type} (s : List Char) : Except Lapse α :=
  if s.head? == some incomplete then .error .cut else misfit s

end OvalCatalog.Xml
