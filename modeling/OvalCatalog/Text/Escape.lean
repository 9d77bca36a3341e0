import OvalCatalog.Text.Lines
import OvalCatalog.Text.Word

/-! Escape sequences for a terminal: what is written but not shown. A control sequence sets a colour or
the like and shows nothing; a link shows its text and not its address. -/

namespace OvalCatalog.Text

structure Escape where
  length : Nat
  shown : List Char := []
  deriving DecidableEq, Repr

namespace Escape

def mark : Char := '\x1b'

def isParameter (c : Char) : Bool :=
  0x30 ≤ c.toNat && c.toNat ≤ 0x3f

def isIntermediate (c : Char) : Bool :=
  0x20 ≤ c.toNat && c.toNat ≤ 0x2f

def isFinal (c : Char) : Bool :=
  0x40 ≤ c.toNat && c.toNat ≤ 0x7e

def control? (s : List Char) : Option Escape := do
  let body ← after? [mark, '['] s
  let parameters := body.takeWhile isParameter
  let body := body.dropWhile isParameter
  let intermediates := body.takeWhile isIntermediate
  let final ← (body.dropWhile isIntermediate).head?
  if isFinal final then return { length := 3 + parameters.length + intermediates.length } else none

def isKeyed (s : List Char) : Bool :=
  match (splitOn (· == '=') s).map List.length with
  | key :: values =>
    0 < key && values.getLast?.elim false (0 < ·) && values.dropLast.all (2 ≤ ·)
  | [] => false

def areLinkParameters (s : List Char) : Bool :=
  let parts := splitOn (· == ':') s
  s.isEmpty ||
    match parts.getLast? with
    | some [] => 2 ≤ parts.length && parts.dropLast.all isKeyed
    | _ => parts.all isKeyed

def isLinkParameter (c : Char) : Bool :=
  c == '=' || c == ':' || isWord c

def beforeMark? (s : List Char) : Option (List Char × List Char) :=
  match s.takeWhile (· != mark) with
  | [] => none
  | before => some (before, s.dropWhile (· != mark))

def link? (s : List Char) : Option Escape := do
  let body ← after? [mark, ']', '8', ';'] s
  if !areLinkParameters (body.takeWhile isLinkParameter) then none
  let body ← after? [';'] (body.dropWhile isLinkParameter)
  let (_, body) ← beforeMark? body
  let (shown, body) ← beforeMark? (← after? [mark, '\\'] body)
  let body ← after? [mark, ']', '8', ';', ';', mark, '\\'] body
  return { length := s.length - body.length, shown }

def start? (s : List Char) : Option Escape :=
  control? s <|> link? s

def occursIn : List Char → Bool
  | [] => false
  | c :: s => (start? (c :: s)).isSome || occursIn s

def visibleAfter : Nat → List Char → List Char
  | _, [] => []
  | n + 1, _ :: s => visibleAfter n s
  | 0, c :: s =>
    match start? (c :: s) with
    | some x => x.shown ++ visibleAfter (x.length - 1) s
    | none => c :: visibleAfter 0 s

end Escape

def visible (s : List Char) : List Char :=
  Escape.visibleAfter 0 s

end OvalCatalog.Text
