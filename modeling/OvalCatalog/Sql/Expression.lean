import OvalCatalog.Sql.Token

namespace OvalCatalog.Sql

inductive Kind where
  | text
  | whole
  | real
  | truth
  | time
  | any
  deriving DecidableEq, Repr

inductive Expression where
  | column (name : String)
  | constant (k : Kind)
  | call (function : String) (arguments : List Expression)
  | apply (operator : String) (left right : Expression)
  | isNull (e : Expression)
  | convert (e : Expression) (k : Kind)
  deriving Repr

namespace Expression

def binding? : Token → Option (String × Nat)
  | .mark m =>
    if ["=", "==", "<>", "!=", "<", ">", "<=", ">="].contains m then some (m, 4)
    else if m == "||" then some (m, 6)
    else if m == "+" || m == "-" then some (m, 7)
    else if ["*", "/", "//", "%"].contains m then some (m, 8)
    else if m == "^" || m == "**" then some (m, 9)
    else none
  | .word s =>
    if s.toLower == "or" then some ("or", 1)
    else if s.toLower == "and" then some ("and", 2)
    else if s.toLower == "like" || s.toLower == "ilike" then some ("like", 5)
    else none
  | _ => none

def kindOf? (name : String) : Option Kind :=
  let name := name.toLower
  if ["varchar", "text", "string", "char", "bpchar"].contains name then some .text
  else if ["bigint", "integer", "int", "smallint", "tinyint", "hugeint", "int2", "int4", "int8", "long"].contains name
  then some .whole
  else if ["double", "float", "real", "float4", "float8"].contains name then some .real
  else if ["boolean", "bool", "logical"].contains name then some .truth
  else if ["timestamp", "date", "datetime"].contains name then some .time
  else none

def typeName? : List Token → Option (Kind × List Token)
  | .word s :: rest | .name s :: rest => (kindOf? s).map fun k => (k, rest)
  | _ => none

def isFunctionName (s : String) : Bool :=
  !Token.keywords.contains s.toLower || s.toLower == "left" || s.toLower == "right"

def afterNullTest? : List Token → Option (List Token)
  | [] => none
  | t :: rest =>
    if t.isKeyword "isnull" || t.isKeyword "notnull" then some rest
    else if !t.isKeyword "is" then none
    else
      let rest := if rest.head?.elim false (Token.isKeyword "not") then rest.tail else rest
      if rest.head?.elim false (Token.isKeyword "null") then some rest.tail else none

def suffix? (e : Expression) : Nat → List Token → Option (Expression × List Token)
  | 0, _ => none
  | fuel + 1, .mark "::" :: rest => do
    let (k, rest) ← typeName? rest
    suffix? (.convert e k) fuel rest
  | fuel + 1, ts =>
    match afterNullTest? ts with
    | some rest => suffix? (.isNull e) fuel rest
    | none => some (e, ts)

mutual

/-- A value with the operators around it that bind at least as tightly as `level`. -/
def read? : Nat → Nat → List Token → Option (Expression × List Token)
  | 0, _, _ => none
  | fuel + 1, level, ts => do
    let (e, rest) ← readValue? fuel ts
    let (e, rest) ← suffix? e (rest.length + 1) rest
    readOperators? fuel level e rest

def readOperators? : Nat → Nat → Expression → List Token → Option (Expression × List Token)
  | 0, _, _, _ => none
  | _ + 1, _, e, [] => some (e, [])
  | fuel + 1, level, e, t :: ts =>
    match binding? t with
    | some (operator, n) =>
      if level ≤ n then do
        let (right, rest) ← read? fuel (n + 1) ts
        readOperators? fuel level (.apply operator e right) rest
      else some (e, t :: ts)
    | none => some (e, t :: ts)

def readValue? : Nat → List Token → Option (Expression × List Token)
  | 0, _ => none
  | fuel + 1, ts =>
    match ts with
    | .text _ :: rest => some (.constant .any, rest)
    | .whole :: rest => some (.constant .whole, rest)
    | .real :: rest => some (.constant .real, rest)
    | .mark "(" :: rest =>
      match read? fuel 0 rest with
      | some (e, .mark ")" :: rest) => some (e, rest)
      | _ => none
    | .mark "-" :: rest | .mark "+" :: rest =>
      (read? fuel 9 rest).map fun (e, rest) => (.apply "-" (.constant .whole) e, rest)
    | .word s :: .mark "(" :: rest =>
      if s.toLower == "cast" then readCast? fuel rest
      else if isFunctionName s then readCall? fuel s rest
      else none
    | .name s :: .mark "(" :: rest => readCall? fuel s rest
    | .word s :: rest =>
      if s.toLower == "not" then
        (read? fuel 3 rest).map fun (e, rest) => (.apply "and" e (.constant .truth), rest)
      else if s.toLower == "true" || s.toLower == "false" then some (.constant .truth, rest)
      else if s.toLower == "null" then some (.constant .any, rest)
      else (Token.given? (.word s)).map fun s => (.column s, rest)
    | .name s :: rest => some (.column s, rest)
    | _ => none

def readCast? : Nat → List Token → Option (Expression × List Token)
  | 0, _ => none
  | fuel + 1, ts => do
    let (e, rest) ← read? fuel 0 ts
    match rest with
    | as :: rest =>
      let (k, rest) ← typeName? rest
      match rest with
      | .mark ")" :: rest => if as.isKeyword "as" then some (.convert e k, rest) else none
      | _ => none
    | [] => none

def readCall? : Nat → String → List Token → Option (Expression × List Token)
  | 0, _, _ => none
  | fuel + 1, function, ts =>
    match ts with
    | .mark ")" :: rest => some (.call function [], rest)
    | ts => (readItems? fuel ts).map fun (items, rest) => (.call function items, rest)

def readItems? : Nat → List Token → Option (List Expression × List Token)
  | 0, _ => none
  | fuel + 1, ts => do
    let (e, rest) ← read? fuel 0 ts
    match rest with
    | .mark ")" :: rest => return ([e], rest)
    | .mark "," :: rest =>
      let (items, rest) ← readItems? fuel rest
      return (e :: items, rest)
    | _ => none

end

def functions : List (String × List Kind × Kind) :=
  [("lower", [.text], .text), ("upper", [.text], .text), ("lcase", [.text], .text), ("ucase", [.text], .text),
    ("trim", [.text], .text), ("ltrim", [.text], .text), ("rtrim", [.text], .text), ("trim", [.text, .text], .text),
    ("ltrim", [.text, .text], .text), ("rtrim", [.text, .text], .text), ("reverse", [.text], .text),
    ("md5", [.text], .text), ("sha1", [.text], .text), ("sha256", [.text], .text),
    ("strip_accents", [.text], .text), ("nfc_normalize", [.text], .text), ("length", [.text], .whole),
    ("len", [.text], .whole), ("strlen", [.text], .whole), ("char_length", [.text], .whole),
    ("character_length", [.text], .whole), ("bit_length", [.text], .whole), ("ascii", [.text], .whole),
    ("ord", [.text], .whole), ("unicode", [.text], .whole), ("substring", [.text, .whole], .text),
    ("substring", [.text, .whole, .whole], .text), ("substr", [.text, .whole], .text),
    ("substr", [.text, .whole, .whole], .text), ("left", [.text, .whole], .text), ("right", [.text, .whole], .text),
    ("repeat", [.text, .whole], .text), ("lpad", [.text, .whole, .text], .text),
    ("rpad", [.text, .whole, .text], .text), ("replace", [.text, .text, .text], .text),
    ("translate", [.text, .text, .text], .text), ("split_part", [.text, .text, .whole], .text),
    ("regexp_replace", [.text, .text, .text], .text), ("regexp_extract", [.text, .text], .text),
    ("regexp_matches", [.text, .text], .truth), ("regexp_full_match", [.text, .text], .truth),
    ("starts_with", [.text, .text], .truth), ("ends_with", [.text, .text], .truth),
    ("prefix", [.text, .text], .truth), ("suffix", [.text, .text], .truth), ("contains", [.text, .text], .truth),
    ("instr", [.text, .text], .whole), ("strpos", [.text, .text], .whole), ("levenshtein", [.text, .text], .whole),
    ("ifnull", [.any, .any], .any), ("nullif", [.any, .any], .any), ("abs", [.real], .real),
    ("sign", [.real], .whole), ("ceil", [.real], .real), ("floor", [.real], .real), ("round", [.real], .real),
    ("sqrt", [.real], .real), ("hash", [.any], .whole), ("concat", [.any], .text), ("concat", [.any, .any], .text),
    ("concat", [.any, .any, .any], .text), ("concat_ws", [.text, .any, .any], .text), ("coalesce", [.any], .any),
    ("coalesce", [.any, .any], .any), ("coalesce", [.any, .any, .any], .any), ("greatest", [.any, .any], .any),
    ("least", [.any, .any], .any), ("year", [.time], .whole), ("month", [.time], .whole), ("day", [.time], .whole),
    ("hour", [.time], .whole), ("minute", [.time], .whole), ("second", [.time], .whole),
    ("date_trunc", [.text, .time], .time), ("date_part", [.text, .time], .whole), ("epoch", [.time], .real),
    ("strftime", [.time, .text], .text)]

def fits (asked given : Kind) : Bool :=
  asked = given || asked = .any || given = .any || (asked = .real && given = .whole)

def callKind? (function : String) (given : List Kind) : Option Kind :=
  (functions.find? fun (name, asked, _) =>
    sameName name function && asked.length = given.length &&
      (List.zipWith fits asked given).all id).map fun (_, _, k) => k

def isNumeric (k : Kind) : Bool :=
  k = .whole || k = .real || k = .any

def applyKind? (operator : String) (a b : Kind) : Option Kind :=
  if operator == "and" || operator == "or" then some .truth
  else if operator == "||" then some .text
  else if operator == "like" then if fits .text a && fits .text b then some .truth else none
  else if ["=", "==", "<>", "!=", "<", ">", "<=", ">="].contains operator then
    if fits a b || fits b a then some .truth else none
  else if isNumeric a && isNumeric b then
    some (if operator == "/" || a ≠ .whole || b ≠ .whole then .real else .whole)
  else none

mutual

def kind? (columns : List (String × Kind)) : Expression → Option Kind
  | column name => (columns.find? fun c => sameName c.1 name).map (·.2)
  | constant k => some k
  | call function arguments => do callKind? function (← kinds? columns arguments)
  | apply operator left right => do applyKind? operator (← kind? columns left) (← kind? columns right)
  | isNull e => (kind? columns e).map fun _ => .truth
  | convert e k => (kind? columns e).map fun _ => k

def kinds? (columns : List (String × Kind)) : List Expression → Option (List Kind)
  | [] => some []
  | e :: rest => do return (← kind? columns e) :: (← kinds? columns rest)

end

end Expression

end OvalCatalog.Sql
