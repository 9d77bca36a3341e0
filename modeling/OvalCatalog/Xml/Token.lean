import OvalCatalog.Xml.Dtd

namespace OvalCatalog.Xml

inductive Token where
  | comment
  | instruction
  | declaration
  | keyword (word : String)
  | openSection
  | closeSection
  | element
  | name (s : String)
  | qualified (s : String)
  | nameToken
  | repeated
  | literal (l : Literal)
  | pound (s : String)
  | percent
  | parameter
  | comma
  | bar
  | openParen
  | closeParen
  | closeParenStar
  | closeParenMark
  | openBracket
  | closeBracket
  | close

namespace Token

def endsName (c : Char) : Bool :=
  isSpace c || c == '>' || c == ')' || c == ',' || c == '|' || c == '[' || c == '%'

def endsLiteral (c : Char) : Bool :=
  isSpace c || c == '>' || c == '%' || c == '['

def endsPound (c : Char) : Bool :=
  isSpace c || c == ')' || c == '>' || c == '%' || c == '|'

def endsParen (c : Char) : Bool :=
  isSpace c || c == '>' || c == ',' || c == '|' || c == ')'

def isMark (c : Char) : Bool :=
  c == '?' || c == '*' || c == '+'

def endsBefore (ends : Char → Bool) (s : List Char) : Bool :=
  s.head?.elim true ends

def ofWord (word : List Char) : Token :=
  let first := word.takeWhile (· != ':')
  match word.dropWhile (· != ':') with
  | [] => if word.head?.elim false isNameStart then name (String.ofList word) else nameToken
  | _ :: second =>
    if first.head?.elim false isNameStart && !second.isEmpty && !second.contains ':' then
      qualified (String.ofList word)
    else nameToken

/-- The word is a name and a colon, which might go on to be a name with a colon. -/
def isHalfQualified (word : List Char) : Bool :=
  word.head?.elim false isNameStart && word.dropWhile (· != ':') == [':']

def word (s : List Char) : Except Lapse (Token × List Char) :=
  let word := s.takeWhile isWordChar
  let t := ofWord word
  match s.dropWhile isWordChar with
  | [] => if isHalfQualified word then misfit [] else .ok (t, [])
  | c :: rest =>
    if isMark c then
      match t with
      | nameToken => misfit (c :: rest)
      | _ => .ok (repeated, rest)
    else if endsName c then .ok (t, c :: rest)
    else refuse (c :: rest)

def literalEnd (mark : Char) : List Char → Except Lapse (List Char)
  | c :: s => if c == mark then .ok (c :: s) else if isAllowed c then literalEnd mark s else refuse (c :: s)
  | [] => misfit []

def quoted (mark : Char) (s : List Char) : Except Lapse (Token × List Char) := do
  let after ← literalEnd mark s
  let rest := after.drop 1
  if endsBefore endsLiteral rest then return (literal ⟨s.takeWhile (· != mark), after⟩, rest) else misfit rest

def isKeywordChar (c : Char) : Bool :=
  c.isAlpha || c == '_'

def bang : List Char → Except Lapse (Token × List Char)
  | '-' :: '-' :: s => do return (comment, ← skipComment s)
  | '-' :: s => misfit s
  | '[' :: s => .ok (openSection, s)
  | s =>
    let word := s.takeWhile isKeywordChar
    let rest := s.dropWhile isKeywordChar
    if word.isEmpty then misfit s
    else match rest with
      | '%' :: c :: _ => if isSpace c || c == '%' then misfit rest else .ok (keyword (String.ofList word), rest)
      | ['%'] => misfit []
      | c :: _ => if isSpace c then .ok (keyword (String.ofList word), rest) else misfit rest
      | [] => misfit []

def percentOrParameter (s : List Char) : Except Lapse (Token × List Char) :=
  if s.head?.elim false fun c => isSpace c || c == '%' then .ok (percent, s)
  else do
    let (_, rest) ← Xml.name s
    match rest with
    | ';' :: rest => return (parameter, rest)
    | rest => refuse rest

def afterParen : List Char → Except Lapse (Token × List Char)
  | '*' :: s => .ok (closeParenStar, s)
  | '?' :: s => .ok (closeParenMark, s)
  | '+' :: s => .ok (closeParenMark, s)
  | s => if endsBefore endsParen s then .ok (closeParen, s) else misfit s

def afterBracket : List Char → Except Lapse (Token × List Char)
  | ']' :: '>' :: s => .ok (closeSection, s)
  | [']'] => misfit []
  | s => .ok (closeBracket, s)

def startsElement (c : Char) : Bool :=
  isNameStart c || (0x80 ≤ c.toNat && c != halfUnit)

def angle : List Char → Except Lapse (Token × List Char)
  | '!' :: s => bang s
  | '?' :: s => do
    let (isDeclaration, s) ← skipInstruction s
    return (if isDeclaration then declaration else instruction, s)
  | s => if s.head?.elim false startsElement then .ok (element, s) else misfit s

def read : List Char → Except Lapse (Token × List Char)
  | '<' :: s => angle s
  | '"' :: s => quoted '"' s
  | '\'' :: s => quoted '\'' s
  | '%' :: s => percentOrParameter s
  | ',' :: s => .ok (comma, s)
  | '|' :: s => .ok (bar, s)
  | '(' :: s => .ok (openParen, s)
  | ')' :: s => afterParen s
  | '[' :: s => .ok (openBracket, s)
  | ']' :: s => afterBracket s
  | '>' :: s => .ok (close, s)
  | '#' :: s => do
    let (word, rest) ← Xml.name s
    if endsBefore endsPound rest then return (pound (String.ofList word), rest) else refuse rest
  | s => if s.head?.elim false isWordChar then word s else refuse s

end Token

structure Word where
  token : Token
  here : List Char
  rest : List Char

namespace Word

def next? (s : List Char) : Except Flaw (Option Word) :=
  let here := skipSpaces s
  if here.isEmpty then .ok none
  else match Token.read here with
    | .ok (token, rest) => .ok (some ⟨token, here, rest⟩)
    | .error e => .error (e.flaw here)

def read (s : List Char) : Except Flaw Word := do
  match ← next? s with
  | some w => return w
  | none => throw (.before .noElement [])

def refused {α : Type} (w : Word) : Except Flaw α :=
  .error (.before (match w.token with
    | .parameter => .parameterReference
    | .declaration => .misplacedDeclaration
    | _ => .syntaxError) w.here)

end Word

end OvalCatalog.Xml
