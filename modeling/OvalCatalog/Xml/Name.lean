import OvalCatalog.Xml.Flaw

namespace OvalCatalog.Xml

def skipSpaces (s : List Char) : List Char :=
  s.dropWhile isSpace

def isWordChar (c : Char) : Bool :=
  isNameChar c || c == ':'

def name (s : List Char) : Except Lapse (List Char × List Char) :=
  match s with
  | [] => refuse s
  | c :: rest =>
    if isNameStart c then .ok (c :: rest.takeWhile isNameChar, rest.dropWhile isNameChar) else refuse s

def qualifiedName (s : List Char) : Except Lapse (String × List Char) := do
  let (first, s) ← name s
  match s with
  | ':' :: s =>
    let (second, s) ← name s
    if s.head? = some ':' then misfit s else return (String.ofList (first ++ ':' :: second), s)
  | s => return (String.ofList first, s)

def skipComment : List Char → Except Lapse (List Char)
  | '-' :: '-' :: '>' :: s => .ok s
  | '-' :: '-' :: s => misfit s
  | c :: s => if isAllowed c then skipComment s else refuse (c :: s)
  | [] => misfit []

def skipToMark : List Char → Except Lapse (List Char)
  | '?' :: '>' :: s => .ok s
  | c :: s => if isAllowed c then skipToMark s else refuse (c :: s)
  | [] => misfit []

def declarationTarget : List Char := ['x', 'm', 'l']

def skipInstruction (s : List Char) : Except Lapse (Bool × List Char) := do
  let (target, s) ← name s
  if !(s.head?.elim false fun c => isSpace c || c == '?') then refuse s
  let isDeclaration := target == declarationTarget
  if !isDeclaration && target.map Char.toLower == declarationTarget then misfit s
  match s with
  | '?' :: '>' :: s => return (isDeclaration, s)
  | '?' :: s => misfit s
  | s => return (isDeclaration, ← skipToMark (s.drop 1))

end OvalCatalog.Xml
