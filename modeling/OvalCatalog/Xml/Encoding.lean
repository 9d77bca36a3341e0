import OvalCatalog.Charset.Lookup
import OvalCatalog.Xml.Character

namespace OvalCatalog.Xml

inductive Encoding where
  | utf8
  | utf16 (bigEndian : Bool)
  | charset (c : Charset)
  deriving DecidableEq, Repr

namespace Encoding

def width : Encoding → Nat
  | utf16 _ => 2
  | _ => 1

def isContinuation (b : UInt8) : Bool :=
  0x80 ≤ b && b < 0xc0

def lengthOf (b : UInt8) : Option Nat :=
  if b < 0x80 then some 1
  else if 0xc0 ≤ b && b < 0xe0 then some 2
  else if 0xe0 ≤ b && b < 0xf0 then some 3
  else if 0xf0 ≤ b && b < 0xf5 then some 4
  else none

def leastOf : Nat → Nat
  | 2 => 0x80
  | 3 => 0x800
  | 4 => 0x10000
  | _ => 0

def leadLimit : Nat → Nat
  | 2 => 0x20
  | 3 => 0x10
  | 4 => 0x08
  | _ => 0x80

def codePoint : List UInt8 → Nat
  | [] => 0
  | lead :: rest => rest.foldl (fun n b => n * 0x40 + b.toNat % 0x40) (lead.toNat % leadLimit (rest.length + 1))

def character (n : Nat) : Char :=
  if n.isValidChar && isAllowed (Char.ofNat n) then Char.ofNat n else malformed

def utf8Char (bytes : List UInt8) : Char :=
  let n := codePoint bytes
  if bytes.tail.all isContinuation && leastOf bytes.length ≤ n then character n else malformed

def ofUtf8 : Nat → List Char → List UInt8 → List Char
  | fuel + 1, seen, b :: rest =>
    match lengthOf b with
    | none => (malformed :: seen).reverse
    | some length =>
      let bytes := (b :: rest).take length
      if bytes.length < length then (incomplete :: seen).reverse
      else
        let c := utf8Char bytes
        if c == malformed then (malformed :: seen).reverse else ofUtf8 fuel (c :: seen) (rest.drop (length - 1))
  | _, seen, _ => seen.reverse

/-- A high surrogate takes ten bits from whatever unit follows; a low one does not stand alone. -/
def ofUtf16 (unit : UInt8 → UInt8 → Nat) (seen : List Char) : List UInt8 → List Char
  | a :: b :: rest =>
    let u := unit a b
    if 0xd800 ≤ u ∧ u < 0xdc00 then
      match rest with
      | a :: b :: rest => ofUtf16 unit (character (0x10000 + (u - 0xd800) * 0x400 + unit a b % 0x400) :: seen) rest
      | _ => (incomplete :: seen).reverse
    else if 0xdc00 ≤ u ∧ u < 0xe000 then (malformed :: seen).reverse
    else ofUtf16 unit (character u :: seen) rest
  | [_] => (halfUnit :: seen).reverse
  | [] => seen.reverse

def unit (bigEndian : Bool) (a b : UInt8) : Nat :=
  if bigEndian then a.toNat * 256 + b.toNat else b.toNat * 256 + a.toNat

def decode (e : Encoding) (bytes : List UInt8) : List Char :=
  match e with
  | utf8 => (ofUtf8 (bytes.length + 1) [] bytes)
  | utf16 bigEndian => ofUtf16 (unit bigEndian) [] bytes
  | charset c => (c.decode bytes).map fun c => (c.filter isAllowed).getD malformed

def isUndecided : List UInt8 → Bool
  | [b] => b == 0xfe || b == 0xff || b == 0xef || b == 0 || b == 0x3c
  | [a, b] => a == 0xef && b == 0xbb
  | _ => false

def detect : List UInt8 → Encoding × List UInt8
  | 0xfe :: 0xff :: rest => (utf16 true, rest)
  | 0xff :: 0xfe :: rest => (utf16 false, rest)
  | 0xef :: 0xbb :: 0xbf :: rest => (utf8, rest)
  | a :: b :: rest =>
    if a == 0 then (utf16 true, a :: b :: rest)
    else if b == 0 then (utf16 false, a :: b :: rest)
    else (utf8, a :: b :: rest)
  | bytes => (utf8, bytes)

def registered? (start : Encoding) (name : String) : Option Encoding :=
  match name.toUpper with
  | "UTF-8" => some utf8
  | "UTF-16" => some (if start.width = 2 then start else utf16 true)
  | "UTF-16BE" => some (utf16 true)
  | "UTF-16LE" => some (utf16 false)
  | "ISO-8859-1" => some (charset .latin1)
  | "US-ASCII" => some (charset .ascii)
  | _ => none

def agrees (start declared : Encoding) : Bool :=
  declared.width == start.width && (start.width == 1 || declared == start)

end Encoding

end OvalCatalog.Xml
