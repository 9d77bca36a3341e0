import OvalCatalog.Text.Printable

namespace OvalCatalog.Text

def hexDigit (n : Nat) : Char :=
  Char.ofNat (if n < 10 then 48 + n else 87 + n)

def hex : Nat → Nat → List Char
  | 0, _ => []
  | width + 1, n => hex width (n / 16) ++ [hexDigit (n % 16)]

def quotationMark (s : List Char) : Char :=
  if s.contains '\'' && !s.contains '"' then '"' else '\''

def numbered (c : Char) : List Char :=
  if c.toNat < 0x100 then '\\' :: 'x' :: hex 2 c.toNat
  else if c.toNat < 0x10000 then '\\' :: 'u' :: hex 4 c.toNat
  else '\\' :: 'U' :: hex 8 c.toNat

def escaped (isShown : Char → Bool) (mark c : Char) : List Char :=
  if c == mark || c == '\\' then ['\\', c]
  else if c == '\n' then ['\\', 'n']
  else if c == '\r' then ['\\', 'r']
  else if c == '\t' then ['\\', 't']
  else if isShown c then [c]
  else numbered c

def quotedBy (isShown : Char → Bool) (s : String) : String :=
  let mark := quotationMark s.toList
  String.ofList (mark :: s.toList.flatMap (escaped isShown mark) ++ [mark])

def quoted : String → String :=
  quotedBy isPrintable

def quotedAscii : String → String :=
  quotedBy fun c => isPrintable c && c.toNat < 0x80

def shown (s : Option String) : String :=
  s.getD "None"

def shownQuoted (s : Option String) : String :=
  match s with
  | some s => quoted s
  | none => "None"

end OvalCatalog.Text
