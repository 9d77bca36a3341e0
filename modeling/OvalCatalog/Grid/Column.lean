import OvalCatalog.Number.Decimal
import OvalCatalog.Number.Reading
import OvalCatalog.Text.Blank
import OvalCatalog.Text.Escape
import OvalCatalog.Text.Lines

/-! Columns of a grid. What all cells of a column look like decides how each of them is printed. -/

namespace OvalCatalog.Grid

abbrev Cell := Option String

inductive ColumnType where
  | truth
  | whole
  | real
  | text
  deriving DecidableEq, Repr

def ColumnType.rank : ColumnType → Nat
  | truth => 0
  | whole => 1
  | real => 2
  | text => 3

def ColumnType.join (a b : ColumnType) : ColumnType :=
  if a.rank < b.rank then b else a

def skipGroups : List Char → List Char
  | ',' :: a :: b :: c :: rest =>
    if a.isDigit && b.isDigit && c.isDigit then skipGroups rest else ',' :: a :: b :: c :: rest
  | s => s

def isOver (s : List Char) : Bool :=
  s == [] || s == ['\n']

/-- Digits in groups of three with commas between them, and decimals after a point; every part may be
missing. -/
def isGrouped (s : List Char) : Bool :=
  let unsigned := (Number.cutSign s).2
  let digits := unsigned.takeWhile Char.isDigit
  if digits.isEmpty then
    match s with
    | '.' :: d :: rest => d.isDigit && isOver (rest.dropWhile Char.isDigit)
    | s => isOver s
  else
    digits.length ≤ 3 &&
      match skipGroups (unsigned.dropWhile Char.isDigit) with
      | '.' :: rest => isOver (rest.dropWhile Char.isDigit)
      | rest => isOver rest

def isReal (s : List Char) : Bool :=
  match Number.readReal? s with
  | none => false
  | some x =>
    x.toFloat.isFinite ||
      [['i', 'n', 'f'], ['-', 'i', 'n', 'f'], ['n', 'a', 'n']].contains (Number.lowerAscii s)

def isWhole (s : List Char) : Bool :=
  (Number.readWhole? s).isSome

def typeOf (s : List Char) : ColumnType :=
  if s = "True".toList ∨ s = "False".toList then .truth
  else if isWhole s || (isGrouped s && !s.contains '.') then .whole
  else if isReal s || isGrouped s then .real
  else .text

def cellType : Cell → ColumnType
  | none | some "" => .truth
  | some s => typeOf (Text.visible s.toList)

def columnType (cells : List Cell) : ColumnType :=
  (cells.map cellType).foldl ColumnType.join .truth

structure Style where
  /-- Some cell or header holds an escape sequence; then only what is visible has a width. -/
  escapes : Bool
  /-- Some cell holds a line break; then cells are spread over lines. -/
  spread : Bool

def replaceAfter (old new : List Char) : Nat → List Char → List Char
  | _, [] => []
  | n + 1, _ :: s => replaceAfter old new n s
  | 0, c :: s =>
    if (Text.after? old (c :: s)).isSome then new ++ replaceAfter old new (old.length - 1) s
    else c :: replaceAfter old new 0 s

def rounded (escapes : Bool) (s : List Char) : List Char :=
  let number := if escapes then Text.visible s else s.filter (· != ',')
  match Number.readReal? number with
  | some x =>
    let digits := (Number.general x.toFloat).toList
    if escapes then replaceAfter number digits 0 s else digits
  | none => s

def isByteEscaped (c : Char) : Bool :=
  let n := c.toNat
  (n < 0x20 && c != '\t' && c != '\n' && c != '\r') || (0x7f ≤ n && n ≤ 0xff)

def isEscaped (c : Char) : Bool :=
  c == '\\' || c.toNat < 0x20 || 0x7f ≤ c.toNat

def isHexDigit (c : Char) : Bool :=
  c.isDigit || ('a' ≤ c && c ≤ 'f') || ('A' ≤ c && c ≤ 'F')

def some? (p : Char → Bool) (s : List Char) : Option (List Char × List Char) :=
  if (s.takeWhile p).isEmpty then none else some (s.takeWhile p, s.dropWhile p)

/-- A number in a plain colour, at the start of a text: the code of the colour, the number, and the code
or the other escaped character that follows it. -/
def coloured? (s : List Char) : Option (List Char × List Char × List Char) := do
  let c ← s.head?
  if !isByteEscaped c then none
  let rest ← Text.after? ['['] (s.tail.dropWhile isHexDigit)
  let (_, rest) ← some? Char.isDigit rest
  let (_, rest) ← some? (fun c => c == 'm' || c == 'M') rest
  let (number, after) ← some? (fun c => c.isDigit || c == '.') rest
  if (after.head?.elim false isEscaped) then return (s.take (s.length - rest.length), number, after)
  else none

def firstColoured? : List Char → Option (List Char × List Char × List Char)
  | [] => none
  | c :: s => coloured? (c :: s) <|> firstColoured? s

/-- A number in a plain colour loses the zeros in front, and what stands before the colour. -/
def plainWhole (s : List Char) : List Char :=
  match firstColoured? s with
  | some (colour, number, after) =>
    match Text.readDigits? Text.asciiDigit? number with
    | some n => colour ++ (toString n).toList ++ after
    | none => s
  | none => s

def printed (escapes : Bool) (t : ColumnType) (c : Cell) : List Char :=
  let s := (c.getD "").toList
  match t with
  | .real => rounded escapes s
  | .whole => plainWhole s
  | _ => s

def decimals (s : List Char) : Int :=
  if (isReal s || isGrouped s) && !isWhole s then
    match Text.cutLast? '.' s with
    | some (_, rest) => rest.length
    | none =>
      match Text.cutLast? 'e' (Number.lowerAscii s) with
      | some (_, rest) => rest.length
      | none => -1
  else -1

def isBreak (c : Char) : Bool :=
  c == '\r' || c == '\n'

def greatest (ns : List Nat) : Nat :=
  ns.foldl max 0

namespace Style

def onScreen (st : Style) (s : List Char) : List Char :=
  if st.escapes then Text.visible s else s

def pieces (st : Style) (s : List Char) : List (List Char) :=
  if st.spread then Text.splitOn isBreak s else [s]

def width (st : Style) (s : List Char) : Nat :=
  greatest ((st.pieces s).map fun line => (st.onScreen line).length)

end Style

def hidden (s : List Char) : Nat :=
  s.length - (Text.visible s).length

structure Column where
  style : Style
  header : List Char
  type : ColumnType
  decimals : Int
  width : Nat
  outerWidth : Nat

namespace Column

def isNumeric (c : Column) : Bool :=
  c.type = .whole || c.type = .real

def text (c : Column) (cell : Cell) : List Char :=
  let s := printed c.style.escapes c.type cell
  if c.isNumeric then s ++ List.replicate (c.decimals - Grid.decimals (c.style.onScreen s)).toNat ' '
  else Text.trim s

def fill (c : Column) (width : Nat) (s : List Char) : List Char :=
  let blanks := List.replicate (width - s.length) ' '
  if c.isNumeric then blanks ++ s else s ++ blanks

/-- The lines of a cell. More breaks end a line than a piece; where there are escape sequences a line is
filled up as the piece in its place asks for, and a line without a piece is dropped. -/
def lines (c : Column) (cell : Cell) : List (List Char) :=
  let s := c.text cell
  if !c.style.spread then [c.fill (c.width + hidden s) s]
  else if c.style.escapes then
    List.zipWith (fun line piece => c.fill (c.width + hidden piece) line) (Text.lines s) (c.style.pieces s)
  else (Text.lines s).map (c.fill c.width)

def leastWidth (st : Style) (header : List Char) : Nat :=
  st.width header + 2

def mostDecimals (st : Style) (t : ColumnType) (cells : List Cell) : Int :=
  (cells.map fun c => Grid.decimals (st.onScreen (printed st.escapes t c))).foldl max (-1)

def of (st : Style) (header : String) (cells : List Cell) : Column :=
  let least := leastWidth st header.toList
  let t := columnType cells
  let c : Column := ⟨st, header.toList, t, mostDecimals st t cells, least, least⟩
  let width := greatest (cells.map fun cell => st.width (c.text cell))
  let c := { c with width := max least width }
  let outer := greatest (cells.flatMap fun cell => (c.lines cell).map fun s => (st.onScreen s).length)
  { c with outerWidth := max least outer }

def headerText (c : Column) : List Char :=
  c.fill (c.outerWidth + (c.header.length - c.style.width c.header)) c.header

def blank (c : Column) : List Char :=
  List.replicate c.outerWidth ' '

end Column

end OvalCatalog.Grid
