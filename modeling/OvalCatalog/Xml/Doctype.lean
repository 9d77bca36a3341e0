import OvalCatalog.Xml.AttributeValue
import OvalCatalog.Xml.Token

namespace OvalCatalog.Xml.Doctype

def isName : Token → Bool
  | .name _ => true
  | _ => false

def isNameToken : Token → Bool
  | .name _ | .qualified _ | .nameToken => true
  | _ => false

def readName (s : List Char) : Except Flaw (String × List Char) := do
  let w ← Word.read s
  match w.token with
  | .name n => return (n, w.rest)
  | _ => w.refused

def readElementName (s : List Char) : Except Flaw (String × List Char) := do
  let w ← Word.read s
  match w.token with
  | .name n | .qualified n => return (n, w.rest)
  | _ => w.refused

def readClose (s : List Char) : Except Flaw (List Char) := do
  let w ← Word.read s
  match w.token with
  | .close => return w.rest
  | _ => w.refused

def readLiteral (s : List Char) : Except Flaw (Literal × List Char) := do
  let w ← Word.read s
  match w.token with
  | .literal l => return (l, w.rest)
  | _ => w.refused

def isPublicIdChar (c : Char) : Bool :=
  c.isAlphanum || "-'()+,/=?;!*%#:_.$@ \n\r".contains c

def checkPublicId (l : Literal) : Except Flaw Unit :=
  match l.text.dropWhile isPublicIdChar with
  | [] => .ok ()
  | bad => .error (l.flaw .publicId bad)

def readPublicId (s : List Char) : Except Flaw (List Char) := do
  let (l, s) ← readLiteral s
  checkPublicId l
  return s

def skipExternalId (w : Word) : Except Flaw (List Char) :=
  match w.token with
  | .name "SYSTEM" => do return (← readLiteral w.rest).2
  | .name "PUBLIC" => do return (← readLiteral (← readPublicId w.rest)).2
  | _ => w.refused

def parameterEntity (d : Dtd) (s : List Char) : Except Flaw (List Char) := do
  let (_, s) ← readName s
  let w ← Word.read s
  match w.token with
  | .literal l => do
    if d.isOpen then discard l.entityText
    readClose w.rest
  | _ => readClose (← skipExternalId w)

def generalEntity (d : Dtd) (n : String) (s : List Char) : Except Flaw (Dtd × List Char) := do
  let w ← Word.read s
  match w.token with
  | .literal l =>
    let d ← if d.isOpen then (fun text => d.addEntity n (.internal text)) <$> l.entityText else pure d
    return (d, ← readClose w.rest)
  | _ =>
    let w ← Word.read (← skipExternalId w)
    match w.token with
    | .close => return (d.addEntity n .external, w.rest)
    | .name "NDATA" =>
      let (_, s) ← readName w.rest
      return (d.addEntity n .binary, ← readClose s)
    | _ => w.refused

def entity (d : Dtd) (s : List Char) : Except Flaw (Dtd × List Char) := do
  let w ← Word.read s
  match w.token with
  | .percent => return (d, ← parameterEntity d w.rest)
  | .name n => generalEntity d n w.rest
  | _ => w.refused

def skipNotation (s : List Char) : Except Flaw (List Char) := do
  let (_, s) ← readName s
  let w ← Word.read s
  match w.token with
  | .name "PUBLIC" => do
    let w ← Word.read (← readPublicId w.rest)
    match w.token with
    | .close => return w.rest
    | .literal _ => readClose w.rest
    | _ => w.refused
  | _ => readClose (← skipExternalId w)

def skipChoices (isChoice : Token → Bool) : Nat → List Char → Except Flaw (List Char)
  | 0, s => .ok s
  | fuel + 1, s => do
    let w ← Word.read s
    if !isChoice w.token then w.refused
    let w ← Word.read w.rest
    match w.token with
    | .closeParen => return w.rest
    | .bar => skipChoices isChoice fuel w.rest
    | _ => w.refused

def tokenTypes : List String :=
  ["ID", "IDREF", "IDREFS", "ENTITY", "ENTITIES", "NMTOKEN", "NMTOKENS"]

def readType (fuel : Nat) (s : List Char) : Except Flaw (Bool × List Char) := do
  let w ← Word.read s
  match w.token with
  | .openParen => return (false, ← skipChoices isNameToken fuel w.rest)
  | .name "CDATA" => return (true, w.rest)
  | .name "NOTATION" =>
    let w ← Word.read w.rest
    match w.token with
    | .openParen => return (false, ← skipChoices isName fuel w.rest)
    | _ => w.refused
  | .name t => if tokenTypes.contains t then return (false, w.rest) else w.refused
  | _ => w.refused

def readDefault (s : List Char) : Except Flaw (Option (Literal × List Char) × List Char) := do
  let w ← Word.read s
  match w.token with
  | .pound "IMPLIED" | .pound "REQUIRED" => return (none, w.rest)
  | .pound "FIXED" =>
    let w ← Word.read w.rest
    match w.token with
    | .literal l => return (some (l, w.here), w.rest)
    | _ => w.refused
  | .literal l => return (some (l, w.here), w.rest)
  | _ => w.refused

def attributes (element : String) : Nat → Dtd → List Char → Expander (Dtd × List Char)
  | 0, d, s => pure (d, s)
  | fuel + 1, d, s => do
    let w ← Word.read s
    match w.token with
    | .close => return (d, w.rest)
    | .name key | .qualified key => do
      let (isVerbatim, s) ← readType (fuel + 1) w.rest
      let (default, s) ← readDefault s
      let value ← match default with
        | some (l, here) =>
          if d.isOpen then some <$> (AttributeValue.read d isVerbatim [] l).placed here else pure none
        | none => pure none
      attributes element fuel (d.addRule ⟨element, key, isVerbatim, value⟩) s
    | _ => w.refused (α := Dtd × List Char)

def attributeList (fuel : Nat) (d : Dtd) (s : List Char) : Expander (Dtd × List Char) := do
  let (element, s) ← readElementName s
  attributes element fuel d s

def skipMixed : Nat → List Char → Except Flaw (List Char)
  | 0, s => .ok s
  | fuel + 1, s => do
    let w ← Word.read s
    match w.token with
    | .closeParenStar => return w.rest
    | .bar => skipMixed fuel (← readElementName w.rest).2
    | _ => w.refused

def skipGroups : Nat → List (Option Bool) → Bool → List Char → Except Flaw (List Char)
  | 0, _, _, s => .ok s
  | _ + 1, [], _, s => .ok s
  | fuel + 1, separator :: groups, isItem, s => do
    let w ← Word.read s
    match isItem, w.token with
    | true, .openParen => skipGroups fuel (none :: separator :: groups) true w.rest
    | true, .name _ | true, .qualified _ | true, .repeated => skipGroups fuel (separator :: groups) false w.rest
    | false, .closeParen | false, .closeParenStar | false, .closeParenMark => skipGroups fuel groups false w.rest
    | false, .comma =>
      if separator == some true then w.refused else skipGroups fuel (some false :: groups) true w.rest
    | false, .bar =>
      if separator == some false then w.refused else skipGroups fuel (some true :: groups) true w.rest
    | _, _ => w.refused

def skipContent (fuel : Nat) (s : List Char) : Except Flaw (List Char) := do
  let w ← Word.read s
  match w.token with
  | .pound "PCDATA" =>
    let v ← Word.read w.rest
    match v.token with
    | .closeParen => return v.rest
    | _ => skipMixed fuel w.rest
  | _ => skipGroups fuel [none] true s

def skipElement (fuel : Nat) (s : List Char) : Except Flaw (List Char) := do
  let (_, s) ← readElementName s
  let w ← Word.read s
  match w.token with
  | .name "EMPTY" | .name "ANY" => readClose w.rest
  | .openParen => readClose (← skipContent fuel w.rest)
  | _ => w.refused

def subset : Nat → Dtd → List Char → Expander (Dtd × List Char)
  | 0, d, s => pure (d, s)
  | fuel + 1, d, s => do
    let w ← Word.read s
    match w.token with
    | .closeBracket => return (d, w.rest)
    | .comment | .instruction => subset fuel d w.rest
    | .parameter => subset fuel d.hideRest w.rest
    | .keyword "ENTITY" =>
      let (d, s) ← entity d w.rest
      subset fuel d s
    | .keyword "ATTLIST" =>
      let (d, s) ← attributeList fuel d w.rest
      subset fuel d s
    | .keyword "ELEMENT" => subset fuel d (← skipElement fuel w.rest)
    | .keyword "NOTATION" => subset fuel d (← skipNotation w.rest)
    | _ => w.refused (α := Dtd × List Char)

def readEnd (fuel : Nat) (d : Dtd) (w : Word) : Expander (Dtd × List Char) :=
  match w.token with
  | .close => pure (d, w.rest)
  | .openBracket => do
    let (d, s) ← subset fuel d w.rest
    return (d, ← readClose s)
  | _ => w.refused (α := Dtd × List Char)

def read (fuel : Nat) (standalone : Bool) (s : List Char) : Expander (Dtd × List Char) := do
  let (_, s) ← readElementName s
  let w ← Word.read s
  match w.token with
  | .name _ => do
    let w ← Word.read (← skipExternalId w)
    readEnd fuel { standalone, isPartial := true } w
  | _ => readEnd fuel { standalone } w

end OvalCatalog.Xml.Doctype
