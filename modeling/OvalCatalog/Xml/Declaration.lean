import OvalCatalog.Xml.Name

namespace OvalCatalog.Xml

structure Declaration where
  encoding : Option (String × List Char) := none
  standalone : Bool := false

namespace Declaration

/-- Reading fails where the rest no longer makes a declaration. -/
abbrev Reading := Except (List Char)

structure Item where
  name : String
  value : String
  here : List Char
  valueHere : List Char

def isValueChar (c : Char) : Bool :=
  c.isAlphanum || c == '.' || c == '-' || c == '_'

def isItemNameChar (c : Char) : Bool :=
  c.toNat < 0x80 && !isSpace c && c != '='

def value : List Char → Reading (String × List Char)
  | mark :: s =>
    if mark == '"' || mark == '\'' then
      let rest := s.dropWhile isValueChar
      if rest.head? == some mark then return (String.ofList (s.takeWhile isValueChar), rest.drop 1) else throw rest
    else throw (mark :: s)
  | [] => throw []

def item (s : List Char) : Reading (Option Item × List Char) :=
  let here := skipSpaces s
  if here.isEmpty then return (none, s)
  else if !(s.head?.elim false isSpace) then throw s
  else
    let name := here.takeWhile isItemNameChar
    match skipSpaces (here.dropWhile isItemNameChar) with
    | '=' :: rest => do
      if name.isEmpty then throw here
      let mark := skipSpaces rest
      let (value, rest) ← value mark
      return (some ⟨String.ofList name, value, here, mark.drop 1⟩, rest)
    | rest => throw rest

def lastItem (encoding : Option (String × List Char)) (x : Item) (s : List Char) : Reading Declaration :=
  if x.name != "standalone" then throw x.here
  else if x.value != "yes" && x.value != "no" then throw x.valueHere
  else match skipSpaces s with
    | [] => return ⟨encoding, x.value == "yes"⟩
    | rest => throw rest

def read (s : List Char) : Reading Declaration := do
  match ← item s with
  | (none, s) => throw s
  | (some version, s) =>
    if version.name != "version" then throw version.here
    match ← item s with
    | (none, _) => return {}
    | (some x, s) =>
      if x.name != "encoding" then lastItem none x s
      else
        if !(x.value.toList.head?.elim false Char.isAlpha) then throw x.valueHere
        let encoding := some (x.value, x.valueHere)
        match ← item s with
        | (none, _) => return { encoding }
        | (some x, s) => lastItem encoding x s

end Declaration

end OvalCatalog.Xml
