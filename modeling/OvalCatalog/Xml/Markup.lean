import OvalCatalog.Xml.Dtd

namespace OvalCatalog.Xml

structure Attribute where
  name : String
  here : List Char
  value : Literal

inductive Markup where
  | text (s : List Char)
  | reference (r : Reference)
  | start (name : String) (attributes : List Attribute) (isEmpty : Bool)
  | stop (name : String) (here : List Char)
  | declaration
  | openSection

namespace Markup

def tagClose : List Char → Except Lapse (Bool × List Char)
  | '>' :: s => .ok (false, s)
  | '/' :: '>' :: s => .ok (true, s)
  | '/' :: s => misfit s
  | s => refuse s

def skipEquals (s : List Char) : Except Lapse (List Char) :=
  match skipSpaces s with
  | '=' :: rest => .ok (skipSpaces rest)
  | rest => if s.head?.elim false isSpace then misfit rest else refuse rest

def valueEnd (mark : Char) : Nat → List Char → Except Lapse (List Char)
  | fuel + 1, c :: s =>
    if c == mark then .ok (c :: s)
    else if c == '&' then do
      let (_, s) ← Reference.read s
      valueEnd mark fuel s
    else if c == '<' then misfit (c :: s)
    else if isAllowed c then valueEnd mark fuel s
    else refuse (c :: s)
  | _, s => misfit s

def value (fuel : Nat) : List Char → Except Lapse Literal
  | mark :: s => do
    if !(mark == '"' || mark == '\'') then misfit (mark :: s)
    return ⟨s.takeWhile (· != mark), ← valueEnd mark fuel s⟩
  | [] => misfit []

def attributes : Nat → List Attribute → List Char → Except Lapse (List Attribute × Bool × List Char)
  | 0, _, s => misfit s
  | fuel + 1, seen, here => do
    let (name, s) ← qualifiedName here
    let l ← value fuel (← skipEquals s)
    let seen := ⟨name, here, l⟩ :: seen
    let rest := l.after.drop 1
    match skipSpaces rest with
    | '>' :: s => return (seen.reverse, false, s)
    | '/' :: s => return (seen.reverse, ← tagClose ('/' :: s))
    | s => if rest.head?.elim false isSpace then attributes fuel seen s else misfit rest

def startTag (fuel : Nat) (s : List Char) : Except Lapse (Markup × List Char) := do
  let (name, rest) ← qualifiedName s
  match skipSpaces rest with
  | c :: s =>
    if isNameStart c && rest.head?.elim false isSpace then
      let (attributes, isEmpty, s) ← attributes fuel [] (c :: s)
      return (start name attributes isEmpty, s)
    else
      let (isEmpty, s) ← tagClose (c :: s)
      return (start name [] isEmpty, s)
  | [] => misfit []

/-- Colons may stand anywhere in the name of an end tag: it must equal that of the start tag. -/
def stopTag (here : List Char) : Except Lapse (Markup × List Char) := do
  let (first, rest) ← name here
  let tag := stop (String.ofList (first ++ rest.takeWhile isWordChar)) here
  let rest := rest.dropWhile isWordChar
  match skipSpaces rest with
  | '>' :: s => return (tag, s)
  | s => if rest.head?.elim false isSpace then misfit s else refuse s

def sectionMark : List Char := "CDATA[".toList

def skipWord : List Char → List Char → Except Lapse (List Char)
  | [], s => .ok s
  | w :: word, c :: s => if w == c then skipWord word s else misfit (c :: s)
  | _, [] => misfit []

def sectionStart (s : List Char) : Except Lapse (Markup × List Char) := do
  let size := (s.take sectionMark.length).foldl (fun n c => n + c.utf8Size) 0
  if size < sectionMark.length then throw .unfinished
  return (openSection, ← skipWord sectionMark s)

def tag (fuel : Nat) : List Char → Except Lapse (Markup × List Char)
  | '!' :: '-' :: '-' :: s => do return (text [], ← skipComment s)
  | '!' :: '-' :: s => misfit s
  | '!' :: '[' :: s => sectionStart s
  | '!' :: s => misfit s
  | '?' :: s => do
    let (isDeclaration, s) ← skipInstruction s
    return (if isDeclaration then declaration else text [], s)
  | '/' :: s => stopTag s
  | s => startTag fuel s

def characters (seen : List Char) : List Char → Except Lapse (Markup × List Char)
  | ']' :: ']' :: '>' :: s => misfit ('>' :: s)
  | c :: s =>
    if c != '<' && c != '&' && isAllowed c then characters (c :: seen) s
    else if seen.isEmpty then refuse (c :: s)
    else .ok (text seen.reverse, c :: s)
  | [] => .ok (text seen.reverse, [])

def next (fuel : Nat) : List Char → Except Lapse (Markup × List Char)
  | '<' :: s => tag fuel s
  | '&' :: s => do
    let (r, s) ← Reference.read s
    return (reference r, s)
  | s => characters [] s

/-- How many characters at the end of a marked section might still belong to something else. -/
def openEnd : List Char → Nat
  | ']' :: ']' :: _ => 2
  | ']' :: _ | '\r' :: _ => 1
  | _ => 0

def sectionText (seen : List Char) : List Char → Except Flaw (List Char × List Char)
  | ']' :: ']' :: '>' :: s => .ok (seen.reverse, s)
  | c :: s =>
    if isAllowed c then sectionText (c :: seen) s
    else if c == incomplete then .error (.before .partialCharacter (c :: s))
    else if c == halfUnit then .error (.before .unclosedSection (c :: s))
    else .error (.before .invalidToken (c :: s))
  | [] => .error ⟨.unclosedSection, some (openEnd seen)⟩

def read (fuel : Nat) (here : List Char) : Except Flaw (Markup × List Char) :=
  match next fuel here with
  | .error e => .error (e.flaw here)
  | .ok (openSection, s) => do
    let (s, rest) ← sectionText [] s
    return (text s, rest)
  | .ok result => .ok result

end Markup

end OvalCatalog.Xml
