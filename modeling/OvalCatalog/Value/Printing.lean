import OvalCatalog.Number.Shortest
import OvalCatalog.Text.Quoted
import OvalCatalog.Value

namespace OvalCatalog.Value

def unitEscape (n : Nat) : List Char :=
  '\\' :: 'u' :: Text.hex 4 n

def jsonEscaped (c : Char) : List Char :=
  let n := c.toNat
  if c == '"' || c == '\\' then ['\\', c]
  else if c == '\n' then ['\\', 'n']
  else if c == '\r' then ['\\', 'r']
  else if c == '\t' then ['\\', 't']
  else if n == 8 then ['\\', 'b']
  else if n == 12 then ['\\', 'f']
  else if 0x20 ≤ n && n < 0x7f then [c]
  else if n < 0x10000 then unitEscape n
  else unitEscape (0xd7c0 + n / 0x400) ++ unitEscape (0xdc00 + n % 0x400)

def jsonText (s : String) : String :=
  String.ofList ('"' :: s.toList.flatMap jsonEscaped ++ ['"'])

def decimalText (negative : Bool) (mantissa : Nat) (exponent : Int) : String :=
  Number.shortest (Number.nearestDecimal negative mantissa exponent)

structure Layout where
  step : Option Nat

def Layout.newline (l : Layout) (depth : Nat) : String :=
  match l.step with
  | none => ""
  | some n => "\n" ++ String.ofList (List.replicate (n * depth) ' ')

def Layout.colon (l : Layout) : String :=
  if l.step.isSome then ": " else ":"

def bracketed (l : Layout) (depth : Nat) (left right : String) (items : List String) : String :=
  if items.isEmpty then left ++ right
  else
    left ++ l.newline (depth + 1) ++ String.intercalate ("," ++ l.newline (depth + 1)) items ++
      l.newline depth ++ right

mutual

def print (l : Layout) (depth : Nat) : Value → String
  | null => "null"
  | bool b => if b then "true" else "false"
  | whole n => toString n
  | decimal negative m e => decimalText negative m e
  | text s => jsonText s
  | list xs => bracketed l depth "[" "]" (printItems l (depth + 1) xs)
  | map es => bracketed l depth "\x7b" "\x7d" (printEntries l (depth + 1) es)

def printItems (l : Layout) (depth : Nat) : List Value → List String
  | [] => []
  | v :: rest => print l depth v :: printItems l depth rest

def printEntries (l : Layout) (depth : Nat) : List (String × Value) → List String
  | [] => []
  | (k, v) :: rest => (jsonText k ++ l.colon ++ print l depth v) :: printEntries l depth rest

end

def compact (v : Value) : String :=
  print ⟨none⟩ 0 v

def pretty (v : Value) : String :=
  print ⟨some 2⟩ 0 v

mutual

def display : Value → String
  | null => "None"
  | bool b => if b then "True" else "False"
  | whole n => toString n
  | decimal negative m e => decimalText negative m e
  | text s => Text.quoted s
  | list xs => "[" ++ String.intercalate ", " (displayItems xs) ++ "]"
  | map es => "\x7b" ++ String.intercalate ", " (displayEntries es) ++ "\x7d"

def displayItems : List Value → List String
  | [] => []
  | v :: rest => display v :: displayItems rest

def displayEntries : List (String × Value) → List String
  | [] => []
  | (k, v) :: rest => (Text.quoted k ++ ": " ++ display v) :: displayEntries rest

end

def plain : Value → String
  | text s => s
  | v => display v

end OvalCatalog.Value
