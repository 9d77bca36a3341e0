import OvalCatalog.Xml.Name

namespace OvalCatalog.Xml

inductive Reference where
  | number (c : Option Char)
  | character (c : Char)
  | entity (name : String)

namespace Reference

def digit? (base : Nat) (c : Char) : Option Nat :=
  let n :=
    if '0' ≤ c ∧ c ≤ '9' then c.toNat - 48
    else if 'a' ≤ c ∧ c ≤ 'f' then c.toNat - 87
    else if 'A' ≤ c ∧ c ≤ 'F' then c.toNat - 55
    else base
  if n < base then some n else none

def character? (n : Nat) : Option Char :=
  if n.isValidChar then
    let c := Char.ofNat n
    if isAllowed c then some c else none
  else none

def readNumber (base : Nat) (s : List Char) : Except Lapse (Reference × List Char) :=
  let isDigit := fun c => (digit? base c).isSome
  let values := (s.takeWhile isDigit).filterMap (digit? base)
  match s.dropWhile isDigit with
  | ';' :: rest =>
    if values.isEmpty then misfit s
    else .ok (number (character? (values.foldl (fun n d => base * n + d) 0)), rest)
  | rest => misfit rest

def predefined? : String → Option Char
  | "amp" => some '&'
  | "lt" => some '<'
  | "gt" => some '>'
  | "quot" => some '"'
  | "apos" => some '\''
  | _ => none

def named (name : String) : Reference :=
  match predefined? name with
  | some c => character c
  | none => entity name

def read : List Char → Except Lapse (Reference × List Char)
  | '#' :: 'x' :: s => readNumber 16 s
  | '#' :: s => readNumber 10 s
  | s => do
    let (name, s) ← name s
    match s with
    | ';' :: s => return (named (String.ofList name), s)
    | s => refuse s

end Reference

end OvalCatalog.Xml
