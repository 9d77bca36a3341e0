import OvalCatalog.Xml.Dtd

namespace OvalCatalog.Xml

/-- Work that puts in entities' texts; the state is how many characters may still be put in. -/
abbrev Expander := StateT Nat (Except Flaw)

def spend (n : Nat) : Expander Unit := fun budget =>
  if n ≤ budget then .ok ((), budget - n) else .error ⟨.amplification, none⟩

def Expander.placed {α : Type} (here : List Char) (x : Expander α) : Expander α := fun budget =>
  (x budget).mapError (Flaw.placed here)

def Expander.unplaced {α : Type} (x : Expander α) : Expander α := fun budget =>
  (x budget).mapError Flaw.unplaced

inductive Piece where
  | plain (c : Char)
  | reference (here : List Char) (r : Reference)
  | bad (here : List Char)

namespace Piece

def readAll : Nat → List Piece → List Char → List Piece
  | fuel + 1, seen, c :: s =>
    if c == '&' then
      match Reference.read s with
      | .ok (r, rest) => readAll fuel (reference (c :: s) r :: seen) rest
      | .error (.invalid place) => (bad place :: seen).reverse
      | .error _ => (bad (c :: s) :: seen).reverse
    else if c == '<' then (bad (c :: s) :: seen).reverse
    else readAll fuel (plain c :: seen) s
  | _, seen, _ => seen.reverse

def ofText (s : List Char) : List Piece :=
  readAll (s.length + 1) [] s

end Piece

namespace AttributeValue

def addBlank (isVerbatim : Bool) (seen : List Char) : List Char :=
  if !isVerbatim && (seen.isEmpty || seen.head? == some ' ') then seen else ' ' :: seen

/-- Adds the value of a text to what precedes it, last character first. The entities that hold the text are
`opened`, and `after` follows it unless there are some. -/
def fill (d : Dtd) (isVerbatim : Bool) :
    Nat → List String → Option (List Char) → List Char → List Char → Expander (List Char)
  | 0, _, _, _, _ => throw ⟨.recursiveEntity, none⟩
  | depth + 1, opened, after, seen, text =>
    (Piece.ofText text).foldlM (fun seen piece =>
      match piece with
      | .plain c => pure (if isSpace c then addBlank isVerbatim seen else c :: seen)
      | .bad here => throw (.within after .invalidToken here)
      | .reference here (.number none) => throw (.within after .characterNumber here)
      | .reference _ (.number (some c)) => pure (if c == ' ' then addBlank isVerbatim seen else c :: seen)
      | .reference _ (.character c) => pure (c :: seen)
      | .reference here (.entity name) =>
        match d.entity? name with
        | none => if d.isComplete then throw ⟨.undefinedEntity, none⟩ else pure seen
        | some e =>
          if opened.contains name then throw (.within after .recursiveEntity here)
          else match e with
            | .binary => throw (.within after .binaryEntity here)
            | .external => throw (.within after .externalEntity here)
            | .internal text => do
              spend text.length
              fill d isVerbatim depth (name :: opened) none seen text) seen

def read (d : Dtd) (isVerbatim : Bool) (opened : List String) (l : Literal) : Expander (List Char) := do
  let seen ← fill d isVerbatim d.depth opened (some l.after) [] l.text
  return (if !isVerbatim && seen.head? == some ' ' then seen.drop 1 else seen).reverse

end AttributeValue

end OvalCatalog.Xml
