namespace OvalCatalog.Text

def isLineEnd (c : Char) : Bool :=
  let n := c.toNat
  (0x0a ≤ n && n ≤ 0x0d) || (0x1c ≤ n && n ≤ 0x1e) || n == 0x85 || n == 0x2028 || n == 0x2029

def splitLines : List Char → List Char → List (List Char)
  | [], [] => []
  | line, [] => [line.reverse]
  | line, '\r' :: '\n' :: rest => line.reverse :: splitLines [] rest
  | line, c :: rest =>
    if isLineEnd c then line.reverse :: splitLines [] rest else splitLines (c :: line) rest

def lines (s : List Char) : List (List Char) :=
  splitLines [] s

def splitOn (p : Char → Bool) : List Char → List (List Char)
  | [] => [[]]
  | c :: rest =>
    if p c then [] :: splitOn p rest
    else match splitOn p rest with
      | [] => [[c]]
      | part :: parts => (c :: part) :: parts

def words (p : Char → Bool) (s : List Char) : List (List Char) :=
  (splitOn p s).filter (!·.isEmpty)

def cut? (mark : Char) : List Char → Option (List Char × List Char)
  | [] => none
  | c :: rest =>
    if c == mark then some ([], rest)
    else (cut? mark rest).map fun (before, after) => (c :: before, after)

def cutLast? (mark : Char) (s : List Char) : Option (List Char × List Char) :=
  (cut? mark s.reverse).map fun (after, before) => (before.reverse, after.reverse)

def after? : List Char → List Char → Option (List Char)
  | [], s => some s
  | _ :: _, [] => none
  | c :: start, d :: s => if c == d then after? start s else none

def afterLast (mark : Char) (s : List Char) : List Char :=
  (s.reverse.takeWhile (· != mark)).reverse

end OvalCatalog.Text
