import OvalCatalog.Xml.AttributeValue
import OvalCatalog.Xml.Element
import OvalCatalog.Xml.Markup

namespace OvalCatalog.Xml

namespace OpenElement

def defaults (element : String) (known : List String) : List AttributeRule → List (String × String)
  | [] => []
  | r :: rest =>
    if r.element != element || known.contains r.name then defaults element known rest
    else match r.default with
      | some value => (r.name, String.ofList value) :: defaults element (r.name :: known) rest
      | none => defaults element (r.name :: known) rest

def addAttribute (name value : String) (x : Scope × List (String × String)) :
    Except Flaw (Scope × List (String × String)) :=
  match Scope.boundKey? name with
  | some key => do return (← x.1.bind key value, x.2)
  | none => .ok (x.1, (name, value) :: x.2)

def readAttributes (d : Dtd) (opened : List String) (element : String) (names : List String)
    (x : Scope × List (String × String)) :
    List Attribute → Expander (List String × Scope × List (String × String))
  | [] => pure (names, x)
  | a :: rest => do
    if names.contains a.name then throw (.before .duplicateAttribute a.here)
    let isVerbatim := ((d.rule? element a.name).map (·.isVerbatim)).getD true
    let value ← AttributeValue.read d isVerbatim opened a.value
    let x ← addAttribute a.name (String.ofList value) x
    readAttributes d opened element (a.name :: names) x rest

def ofTag (d : Dtd) (opened : List String) (scope : Scope) (name : String) (attributes : List Attribute) :
    Expander OpenElement := do
  let (names, x) ← readAttributes d opened name [] (scope, []) attributes
  let (scope, attributes) ← (defaults name names d.rules).foldlM (fun x a => addAttribute a.1 a.2 x) x
  let attributes ← scope.attributeNames [] attributes.reverse
  return { name, tag := ← scope.elementName name, attributes, scope }

end OpenElement

namespace Content

def run (step : Builder → Markup → Expander Builder) : Nat → Builder → List Char → Expander (Builder × List Char)
  | 0, b, s => pure (b, s)
  | fuel + 1, b, here => do
    if here.isEmpty || b.root.isSome then return (b, here)
    let (markup, rest) ← Markup.read (fuel + 1) here
    let b ← (step b markup).placed here
    run step fuel b rest

def step (expand : String → Builder → Expander Builder) (d : Dtd) (opened : List String) (b : Builder) :
    Markup → Expander Builder
  | .text s => pure (b.addText s)
  | .reference (.number none) => throw ⟨.characterNumber, none⟩
  | .reference (.number (some c)) | .reference (.character c) => pure (b.addText [c])
  | .reference (.entity name) => expand name b
  | .start name attributes isEmpty => do
    return b.start (← OpenElement.ofTag d opened b.scope name attributes) isEmpty
  | .stop name here => b.stop name here
  | .declaration => throw ⟨.misplacedDeclaration, none⟩
  | .openSection => pure b

def expand (d : Dtd) : Nat → List String → String → Builder → Expander Builder
  | 0, _, _, _ => throw ⟨.recursiveEntity, none⟩
  | depth + 1, opened, name, b =>
    match d.entity? name with
    | none => throw ⟨if d.isComplete then .undefinedEntity else .skippedEntity name, none⟩
    | some e =>
      if opened.contains name then throw ⟨.recursiveEntity, none⟩
      else match e with
        | .binary => throw ⟨.binaryEntity, none⟩
        | .external => throw ⟨.skippedEntity name, none⟩
        | .internal text => do
          spend text.length
          let opened := name :: opened
          let (b, _) ← (run (step (expand d depth opened) d opened) (text.length + 1) b.enter text).unplaced
          b.leave

def read (d : Dtd) (fuel : Nat) (s : List Char) : Expander (Builder × List Char) :=
  run (step (expand d d.depth []) d []) fuel {} s

end Content

end OvalCatalog.Xml
