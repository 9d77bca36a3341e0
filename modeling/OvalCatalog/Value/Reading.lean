import OvalCatalog.Keyed
import OvalCatalog.Text.Digit
import OvalCatalog.Value

namespace OvalCatalog.Value

def isJsonBlank (c : Char) : Bool :=
  c == ' ' || c == '\t' || c == '\n' || c == '\r'

def skipBlanks (s : List Char) : List Char :=
  s.dropWhile isJsonBlank

def hexValue? (c : Char) : Option Nat :=
  if '0' ≤ c ∧ c ≤ '9' then some (c.toNat - 48)
  else if 'a' ≤ c ∧ c ≤ 'f' then some (c.toNat - 87)
  else if 'A' ≤ c ∧ c ≤ 'F' then some (c.toNat - 55)
  else none

def readUnit? : List Char → Option (Nat × List Char)
  | a :: b :: c :: d :: rest => do
    let digits ← [a, b, c, d].mapM hexValue?
    return (digits.foldl (fun n d => 16 * n + d) 0, rest)
  | _ => none

def readEscapedUnit? (s : List Char) : Option (Char × List Char) := do
  let (high, rest) ← readUnit? s
  if 0xd800 ≤ high ∧ high < 0xdc00 then
    match rest with
    | '\\' :: 'u' :: rest =>
      let (low, rest) ← readUnit? rest
      return (Char.ofNat (0x10000 + (high - 0xd800) * 0x400 + (low - 0xdc00)), rest)
    | _ => none
  else return (Char.ofNat high, rest)

def simpleEscape? : Char → Option Char
  | 'n' => some '\n'
  | 'r' => some '\r'
  | 't' => some '\t'
  | 'b' => some (Char.ofNat 8)
  | 'f' => some (Char.ofNat 12)
  | '"' => some '"'
  | '\\' => some '\\'
  | '/' => some '/'
  | _ => none

def readText? : Nat → List Char → List Char → Option (String × List Char)
  | 0, _, _ => none
  | _ + 1, _, [] => none
  | fuel + 1, seen, c :: rest =>
    if c == '"' then some (String.ofList seen.reverse, rest)
    else if c == '\\' then
      match rest with
      | 'u' :: rest => do
        let (c, rest) ← readEscapedUnit? rest
        readText? fuel (c :: seen) rest
      | e :: rest => do
        let c ← simpleEscape? e
        readText? fuel (c :: seen) rest
      | [] => none
    else readText? fuel (c :: seen) rest

def isNumberChar (c : Char) : Bool :=
  c.isDigit || c == '-' || c == '+' || c == '.' || c == 'e' || c == 'E'

def spanAscii (s : List Char) : List Char × List Char :=
  (s.takeWhile Char.isDigit, s.dropWhile Char.isDigit)

def readPower? : List Char → Option Int
  | [] => some 0
  | c :: rest =>
    if c == 'e' || c == 'E' then
      let (negative, digits) := match rest with
        | '-' :: rest => (true, rest)
        | '+' :: rest => (false, rest)
        | rest => (false, rest)
      (Text.readDigits? Text.asciiDigit? digits).map fun n => if negative then -(n : Int) else n
    else none

def readNumber? (s : List Char) : Option Value := do
  let (negative, s) := match s with
    | '-' :: rest => (true, rest)
    | s => (false, s)
  let (digits, rest) := spanAscii s
  if rest.isEmpty then
    let n ← Text.readDigits? Text.asciiDigit? digits
    return .whole (if negative then -(n : Int) else n)
  let (fraction, rest) := match rest with
    | '.' :: rest => spanAscii rest
    | rest => ([], rest)
  let n ← Text.readDigits? Text.asciiDigit? (digits ++ fraction)
  return .decimal negative n ((← readPower? rest) - fraction.length)

mutual

def readValue? : Nat → List Char → Option (Value × List Char)
  | 0, _ => none
  | fuel + 1, s =>
    match skipBlanks s with
    | '\x7b' :: rest =>
      match skipBlanks rest with
      | '\x7d' :: rest => some (.map [], rest)
      | rest => (readEntries? fuel [] rest).map fun (es, rest) => (.map es, rest)
    | '[' :: rest =>
      match skipBlanks rest with
      | ']' :: rest => some (.list [], rest)
      | rest => (readItems? fuel [] rest).map fun (xs, rest) => (.list xs, rest)
    | '"' :: rest => (readText? fuel [] rest).map fun (s, rest) => (.text s, rest)
    | 'n' :: 'u' :: 'l' :: 'l' :: rest => some (.null, rest)
    | 't' :: 'r' :: 'u' :: 'e' :: rest => some (.bool true, rest)
    | 'f' :: 'a' :: 'l' :: 's' :: 'e' :: rest => some (.bool false, rest)
    | s => (readNumber? (s.takeWhile isNumberChar)).map fun v => (v, s.dropWhile isNumberChar)

def readItems? : Nat → List Value → List Char → Option (List Value × List Char)
  | 0, _, _ => none
  | fuel + 1, seen, s => do
    let (v, rest) ← readValue? fuel s
    match skipBlanks rest with
    | ',' :: rest => readItems? fuel (v :: seen) rest
    | ']' :: rest => return ((v :: seen).reverse, rest)
    | _ => none

def readEntries? : Nat → List (String × Value) → List Char → Option (List (String × Value) × List Char)
  | 0, _, _ => none
  | fuel + 1, seen, s =>
    match skipBlanks s with
    | '"' :: rest => do
      let (key, rest) ← readText? fuel [] rest
      match skipBlanks rest with
      | ':' :: rest =>
        let (v, rest) ← readValue? fuel rest
        match skipBlanks rest with
        | ',' :: rest => readEntries? fuel (Keyed.put key v seen) rest
        | '\x7d' :: rest => return (Keyed.put key v seen, rest)
        | _ => none
      | _ => none
    | _ => none

end

def ofJson? (s : String) : Option Value :=
  match readValue? (2 * s.length + 2) s.toList with
  | some (v, rest) => if (skipBlanks rest).isEmpty then some v else none
  | none => none

end OvalCatalog.Value
