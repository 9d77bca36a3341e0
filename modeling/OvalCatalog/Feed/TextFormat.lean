import OvalCatalog.Number.Power
import OvalCatalog.Text.Digit

namespace OvalCatalog.Feed

inductive FormatError where
  | tooManyDigits
  | bothSeparators
  | noPrecision
  | malformed (text : List Char)
  | separator (mark type : Char)
  | unknownType (type : Char)
  | sign (mark : Char)
  | negativeZero
  | alternate
  | signPadding
  | tooWide

def shownChar (last : Nat) (c : Char) : String :=
  if 32 < c.toNat ∧ c.toNat < last then toString c
  else "\\x" ++ String.ofList (Nat.toDigits 16 c.toNat)

def FormatError.message : FormatError → String
  | tooManyDigits => "Too many decimal digits in format string"
  | bothSeparators => "Cannot specify both ',' and '_'."
  | noPrecision => "Format specifier missing precision"
  | malformed text => "Invalid format specifier '" ++ String.ofList text ++ "' for object of type 'str'"
  | separator mark type => "Cannot specify '" ++ toString mark ++ "' with '" ++ shownChar 128 type ++ "'."
  | unknownType type => "Unknown format code '" ++ shownChar 128 type ++ "' for object of type 'str'"
  | sign mark =>
    (if mark = ' ' then "Space" else "Sign") ++ " not allowed in string format specifier"
  | negativeZero => "Negative zero coercion (z) not allowed in string format specifier"
  | alternate => "Alternate form (#) not allowed in string format specifier"
  | signPadding => "'=' alignment not allowed in string format specifier"
  | tooWide => ""

structure TextFormat where
  fill : Char := ' '
  align : Char := '<'
  width : Option Nat := none
  precision : Option Nat := none

def greatestWidth : Nat := Number.twoTo 28

def greatestIndex : Nat := Number.twoTo 63 - 1

def spanNumber (s : List Char) : Except FormatError (Option Nat × List Char) :=
  match Text.readDigits? Text.digitValue? (s.takeWhile Text.isDigit) with
  | none => .ok (none, s)
  | some n =>
    if greatestIndex < n then .error .tooManyDigits else .ok (some n, s.dropWhile Text.isDigit)

def spanMark (isMark : Char → Bool) : List Char → Option Char × List Char
  | [] => (none, [])
  | c :: s => if isMark c then (some c, s) else (none, c :: s)

namespace TextFormat

def isAlignment (c : Char) : Bool :=
  c == '<' || c == '>' || c == '=' || c == '^'

def spanAlignment : List Char → Option Char × Option Char × List Char
  | c :: d :: s =>
    if isAlignment d then (some c, some d, s)
    else if isAlignment c then (none, some c, d :: s)
    else (none, none, c :: d :: s)
  | [c] => if isAlignment c then (none, some c, []) else (none, none, [c])
  | [] => (none, none, [])

def spanSeparator (s : List Char) : Except FormatError (Option Char × List Char) :=
  match s with
  | ',' :: '_' :: _ => .error .bothSeparators
  | '_' :: ',' :: _ => .error .bothSeparators
  | ',' :: s => .ok (some ',', s)
  | '_' :: s => .ok (some '_', s)
  | s => .ok (none, s)

def spanPrecision : List Char → Except FormatError (Option Nat × List Char)
  | '.' :: s => do
    match ← spanNumber s with
    | (none, _) => throw .noPrecision
    | r => return r
  | s => .ok (none, s)

def allowsSeparator (mark type : Char) : Bool :=
  ['d', 'e', 'f', 'g', 'E', 'G', '%', 'F', Char.ofNat 0].contains type ||
    (mark == '_' && ['b', 'o', 'x', 'X'].contains type)

def read (text : List Char) : Except FormatError TextFormat := do
  let (fill, align, s) := spanAlignment text
  let (sign, s) := spanMark (fun c => c == '+' || c == '-' || c == ' ') s
  let (zero, s) := spanMark (· == 'z') s
  let (alternate, s) := spanMark (· == '#') s
  let (padding, s) := if fill.isNone then spanMark (· == '0') s else (none, s)
  let (width, s) ← spanNumber s
  let (separator, s) ← spanSeparator s
  let (precision, s) ← spanPrecision s
  if 1 < s.length then throw (.malformed text)
  let type := s.headD 's'
  if let some mark := separator then
    if !allowsSeparator mark type then throw (.separator mark type)
  if type ≠ 's' then throw (.unknownType type)
  if let some mark := sign then throw (.sign mark)
  if zero.isSome then throw .negativeZero
  if alternate.isSome then throw .alternate
  if align = some '=' then throw .signPadding
  if width.any (greatestWidth < ·) then throw .tooWide
  return { fill := (fill.or padding).getD ' ', align := align.getD '<', width, precision }

def apply (f : TextFormat) (text : List Char) : List Char :=
  let text := match f.precision with
    | some n => text.take n
    | none => text
  let missing := f.width.getD 0 - text.length
  let left := if f.align = '>' then missing else if f.align = '^' then missing / 2 else 0
  List.replicate left f.fill ++ text ++ List.replicate (missing - left) f.fill

end TextFormat

def layOut (spec text : List Char) : Except FormatError (List Char) :=
  if spec.isEmpty then .ok text else (TextFormat.read spec).map fun f => f.apply text

end OvalCatalog.Feed
