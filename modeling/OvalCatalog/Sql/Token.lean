import OvalCatalog.Text.Lines

namespace OvalCatalog.Sql

inductive Token where
  | word (s : String)
  | name (s : String)
  | text (s : String)
  | whole
  | real
  | mark (s : String)
  deriving DecidableEq, Repr

namespace Token

def isSpace (c : Char) : Bool :=
  let n := c.toNat
  (0x09 ≤ n && n ≤ 0x0d) || n == 0x20 || n == 0xa0 || (0x2000 ≤ n && n ≤ 0x200d) || n == 0x202f ||
    n == 0x205f || n == 0x2060 || n == 0x3000 || n == 0xfeff

def isLetter (c : Char) : Bool :=
  c.isAlpha || c == '_' || (0x80 ≤ c.toNat && !isSpace c)

def isWordChar (c : Char) : Bool :=
  isLetter c || c.isDigit || c == '$'

def quoted? (closing : Char) (seen : List Char) : List Char → Option (List Char × List Char)
  | [] => none
  | [c] => if c == closing then some (seen.reverse, []) else none
  | c :: d :: s =>
    if c != closing then quoted? closing (c :: seen) (d :: s)
    else if d == closing then quoted? closing (c :: seen) s
    else some (seen.reverse, d :: s)

def afterRemark? : Nat → List Char → Option (List Char)
  | 0, '*' :: '/' :: s => some s
  | depth + 1, '*' :: '/' :: s => afterRemark? depth s
  | depth, '/' :: '*' :: s => afterRemark? (depth + 1) s
  | depth, _ :: s => afterRemark? depth s
  | _, [] => none

def marks : List String :=
  ["::", "||", "<>", "!=", "<=", ">=", "==", "//", "**", "(", ")", ",", ";", ".", "=", "<", ">", "+", "-", "*",
    "/", "%", "^"]

def mark? (s : List Char) : Option (Token × List Char) :=
  marks.findSome? fun m => (Text.after? m.toList s).map fun rest => (.mark m, rest)

def dropExponent (s : List Char) : List Char :=
  match s with
  | c :: rest =>
    let digits := match rest with
      | '+' :: rest | '-' :: rest => rest
      | rest => rest
    if (c == 'e' || c == 'E') && (digits.head?.elim false Char.isDigit) then digits.dropWhile Char.isDigit
    else s
  | [] => s

def number (s : List Char) : Token × List Char :=
  let afterDigits := s.dropWhile Char.isDigit
  let afterPoint := match afterDigits with
    | '.' :: rest => rest.dropWhile Char.isDigit
    | rest => rest
  let rest := dropExponent afterPoint
  (if rest.length = afterDigits.length then .whole else .real, rest)

def next? (s : List Char) : Option (Token × List Char) :=
  match s with
  | [] => none
  | '"' :: s =>
    match quoted? '"' [] s with
    | some ([], _) | none => none
    | some (inner, s) => some (.name (String.ofList inner), s)
  | '\'' :: s => (quoted? '\'' [] s).map fun (inner, s) => (.text (String.ofList inner), s)
  | c :: _ =>
    if isLetter c then some (.word (String.ofList (s.takeWhile isWordChar)), s.dropWhile isWordChar)
    else if c.isDigit then some (number s)
    else mark? s

def read? : Nat → List Char → Option (List Token)
  | 0, _ => none
  | _ + 1, [] => some []
  | fuel + 1, '-' :: '-' :: s => read? fuel (s.dropWhile fun c => c != '\n' && c != '\r')
  | fuel + 1, '/' :: '*' :: s => (afterRemark? 0 s).bind (read? fuel)
  | fuel + 1, c :: s =>
    if isSpace c then read? fuel s
    else do
      let (t, rest) ← next? (c :: s)
      return t :: (← read? fuel rest)

def ofText? (s : String) : Option (List Token) :=
  read? (s.length + 1) s.toList

def keywords : List String :=
  ["all", "analyse", "analyze", "and", "anti", "any", "array", "as", "asc", "asof", "asymmetric",
    "authorization", "binary", "both", "case", "cast", "check", "collate", "collation", "column",
    "concurrently", "constraint", "create", "cross", "default", "deferrable", "desc", "describe", "distinct",
    "do", "else", "end", "except", "false", "fetch", "for", "foreign", "freeze", "from", "full", "glob", "grant",
    "group", "having", "ilike", "in", "initially", "inner", "intersect", "into", "is", "isnull", "join",
    "lambda", "lateral", "leading", "left", "like", "limit", "natural", "not", "notnull", "null", "offset",
    "on", "only", "or", "order", "outer", "overlaps", "pivot", "pivot_longer", "pivot_wider", "placing",
    "positional", "primary", "qualify", "references", "returning", "right", "select", "semi", "show",
    "similar", "some", "summarize", "symmetric", "table", "tablesample", "then", "to", "trailing", "true",
    "union", "unique", "unpivot", "using", "variadic", "verbose", "when", "where", "window", "with"]

def isKeyword (keyword : String) : Token → Bool
  | word s => s.toLower == keyword
  | _ => false

def given? : Token → Option String
  | word s => if keywords.contains s.toLower then none else some s
  | name s => some s
  | _ => none

end Token

def sameName (a b : String) : Bool :=
  a.toLower == b.toLower

end OvalCatalog.Sql
