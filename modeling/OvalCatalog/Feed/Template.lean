import OvalCatalog.Feed.Facet
import OvalCatalog.Feed.TextFormat
import OvalCatalog.Text.Lines

/-! Templates: text with fields in braces, such as `release-\x7bmajor\x7d.xml`. A doubled brace stands for
itself. A field is a name, parts of its value, a conversion after `!` and a layout after `:`, which may
hold fields again. -/

namespace OvalCatalog.Feed

inductive TemplateError where
  | loneBrace (brace : Char)
  | braceInName
  | noConversion
  | junkAfterConversion
  | openFormat
  | openField
  | tooDeep
  | unknownConversion (c : Char)
  | tooManyDigits
  | noArgument (index : Nat)
  | unknownField (name : String)
  | emptyPart
  | openBracket
  | junkAfterBracket
  | facet (e : FacetError)
  | format (e : FormatError)

def TemplateError.message : TemplateError → String
  | loneBrace brace => "Single '" ++ toString brace ++ "' encountered in format string"
  | braceInName => "unexpected '\x7b' in field name"
  | noConversion => "end of string while looking for conversion specifier"
  | junkAfterConversion => "expected ':' after conversion specifier"
  | openFormat => "unmatched '\x7b' in format spec"
  | openField => "expected '\x7d' before end of string"
  | tooDeep => "Max string recursion exceeded"
  | unknownConversion c => "Unknown conversion specifier " ++ shownChar 127 c
  | tooManyDigits => "Too many decimal digits in format string"
  | noArgument index =>
    "Replacement index " ++ toString index ++ " out of range for positional args tuple"
  | unknownField name => Text.quoted name
  | emptyPart => "Empty attribute in format string"
  | openBracket => "Missing ']' in format string"
  | junkAfterBracket => "Only '.' or '[' may follow ']' in format field specifier"
  | facet e => e.message
  | format e => e.message

namespace Template

structure Field where
  name : List Char
  conversion : Option Char := none
  format : List Char := []

def index? (s : List Char) : Except TemplateError (Option Nat) :=
  let digits := s.takeWhile Text.isDigit
  match Text.readDigits? Text.digitValue? digits with
  | none => .ok none
  | some n =>
    if greatestIndex < n then .error .tooManyDigits
    else if digits.length = s.length then .ok (some n) else .ok none

def spanName (seen : List Char) : Bool → List Char → Except TemplateError (List Char × Char × List Char)
  | _, [] => .error .openField
  | true, c :: s => spanName (c :: seen) (c != ']') s
  | false, c :: s =>
    if c == '\x7b' then .error .braceInName
    else if c == '\x7d' || c == ':' || c == '!' then .ok (seen.reverse, c, s)
    else spanName (c :: seen) (c == '[') s

def spanFormat (seen : List Char) (depth : Nat) : List Char → Except TemplateError (List Char × List Char)
  | [] => .error .openFormat
  | c :: s =>
    if c == '\x7b' then spanFormat (c :: seen) (depth + 1) s
    else if c == '\x7d' then
      match depth with
      | 0 => .ok (seen.reverse, s)
      | depth + 1 => spanFormat (c :: seen) depth s
    else spanFormat (c :: seen) depth s

def spanField (s : List Char) : Except TemplateError (Field × List Char) := do
  let (name, mark, s) ← spanName [] false s
  if mark == '\x7d' then return ({ name }, s)
  else if mark == ':' then
    let (format, s) ← spanFormat [] 0 s
    return ({ name, format }, s)
  else match s with
    | [] => throw .noConversion
    | c :: '\x7d' :: s => return ({ name, conversion := some c }, s)
    | c :: ':' :: s =>
      let (format, s) ← spanFormat [] 0 s
      return ({ name, conversion := some c, format }, s)
    | [_] => throw .openFormat
    | _ => throw .junkAfterConversion

def facet (f : Facet) : Nat → List Char → Except TemplateError Facet
  | 0, _ => .error .junkAfterBracket
  | _ + 1, [] => .ok f
  | fuel + 1, '[' :: s => do
    match Text.cut? ']' s with
    | none => throw .openBracket
    | some (key, rest) =>
      let index ← index? key
      if key.isEmpty then throw .emptyPart
      match index with
      | none => throw (.facet (.keyIndex f))
      | some i => facet (← (f.item i).mapError .facet) fuel rest
  | fuel + 1, '.' :: s => do
    let isNameChar := fun c => c != '[' && c != '.'
    match s.takeWhile isNameChar with
    | [] => throw .emptyPart
    | name =>
      facet (← (f.named (String.ofList name)).mapError .facet) fuel (s.dropWhile isNameChar)
  | _ + 1, _ :: _ => .error .junkAfterBracket

def value (fields : List (String × String)) (name : List Char) : Except TemplateError Facet := do
  let isNameChar := fun c => c != '[' && c != '.'
  let first := name.takeWhile isNameChar
  match ← index? first with
  | some index => throw (.noArgument index)
  | none =>
    if first.isEmpty then throw (.noArgument 0)
    else
      let key := String.ofList first
      match fields.find? fun f => f.1 == key with
      | none => throw (.unknownField key)
      | some (_, v) => facet (.ofText v) (name.length + 1) (name.dropWhile isNameChar)

def convert (conversion : Option Char) (f : Facet) : Except TemplateError Facet :=
  match conversion with
  | none => .ok f
  | some 's' => .ok (.text f.plain)
  | some 'r' => .ok (.text (f.quotedBy Text.quoted))
  | some 'a' => .ok (.text (f.quotedBy Text.quotedAscii))
  | some c => .error (.unknownConversion c)

def laidOut (format : List Char) (f : Facet) : Except TemplateError (List Char) :=
  match f with
  | .text s => (layOut format s).mapError .format
  | f => if format.isEmpty then .ok f.plain else .error (.facet (.noLayout f))

/-- The text of a template; layouts may hold fields while `depth` lasts, and `fuel` exceeds the length. -/
def renderFrom (fields : List (String × String)) : Nat → Nat → List Char → List Char →
    Except TemplateError (List Char)
  | 0, _, _, _ => .error .tooDeep
  | _, 0, _, _ => .error .tooDeep
  | _ + 1, _ + 1, seen, [] => .ok seen.reverse
  | depth + 1, fuel + 1, seen, c :: s =>
    if c == '\x7d' then
      match s with
      | '\x7d' :: s => renderFrom fields (depth + 1) fuel (c :: seen) s
      | _ => .error (.loneBrace c)
    else if c == '\x7b' then
      match s with
      | '\x7b' :: s => renderFrom fields (depth + 1) fuel (c :: seen) s
      | [] => .error (.loneBrace c)
      | s => do
        let (field, s) ← spanField s
        let v ← convert field.conversion (← value fields field.name)
        let format ←
          if field.format.contains '\x7b' then renderFrom fields depth fuel [] field.format
          else .ok field.format
        let text ← laidOut format v
        renderFrom fields (depth + 1) fuel (text.reverse ++ seen) s
    else renderFrom fields (depth + 1) fuel (c :: seen) s

end Template

def Template.render (fields : List (String × String)) (template : String) : Except TemplateError String :=
  (Template.renderFrom fields 2 (template.length + 1) [] template.toList).map String.ofList

end OvalCatalog.Feed
