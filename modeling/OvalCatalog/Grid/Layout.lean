import OvalCatalog.Grid.Column

namespace OvalCatalog.Grid

def isRule (row : List Cell) : Bool :=
  (row.take 2).any fun c => Text.trim (c.getD "").toList = ['\x01']

def columnsOf (st : Style) : List String → List (List Cell) → List Column
  | [], _ => []
  | h :: headers, rows =>
    Column.of st h (rows.map fun r => r.head?.join) :: columnsOf st headers (rows.map List.tail)

def line (cells : List (List Char)) : String :=
  "| " ++ String.intercalate " | " (cells.map String.ofList) ++ " |"

def rule (columns : List Column) : String :=
  "|" ++ String.intercalate "|" (columns.map fun c => String.ofList (List.replicate (c.outerWidth + 2) '-')) ++ "|"

def rowLines (columns : List Column) (row : List Cell) : List String :=
  let cells := List.zipWith Column.lines columns row
  (List.range (greatest (cells.map List.length))).map fun i =>
    line (List.zipWith (fun (c : Column) lines => lines[i]?.getD c.blank) columns cells)

def hasBreak (c : Cell) : Bool :=
  (c.getD "").toList.any isBreak

def joined (headers : List String) (rows : List (List Cell)) : String :=
  String.intercalate "\t" (headers ++ rows.flatMap fun r => r.map fun c => c.getD "None")

def styleOf (headers : List String) (rows : List (List Cell)) : Style :=
  ⟨Text.Escape.occursIn (joined headers rows).toList, rows.any fun r => r.any hasBreak⟩

def render (headers : List String) (rows : List (List Cell)) : String :=
  let data := rows.filter fun r => !isRule r
  let columns := columnsOf (styleOf headers data) headers data
  let body (row : List Cell) : List String :=
    if isRule row then [rule columns] else rowLines columns row
  String.intercalate "\n"
    (line (columns.map Column.headerText) :: rule columns :: rows.flatMap body)

end OvalCatalog.Grid
