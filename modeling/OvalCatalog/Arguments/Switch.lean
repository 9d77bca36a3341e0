import OvalCatalog.Text.Digit
import OvalCatalog.Text.Lines

namespace OvalCatalog.Arguments

inductive Switch where
  | help
  | config
  | debug
  | package
  | cve
  deriving DecidableEq, Repr

def Switch.names : Switch → List String
  | help => ["-h", "--help"]
  | config => ["--config"]
  | debug => ["--debug"]
  | package => ["--package"]
  | cve => ["--cve"]

def Switch.takesValue : Switch → Bool
  | help | debug => false
  | config | package | cve => true

inductive Stop where
  | help
  | usage
  deriving DecidableEq, Repr

inductive Role where
  | value
  | mark
  | switch (s : Switch) (isShort : Bool) (attached : Option String)
  | unknown
  deriving DecidableEq, Repr

structure Word where
  text : String
  role : Role
  deriving DecidableEq, Repr

def isNegative : List Char → Bool
  | '-' :: s =>
    let s := match Text.cutLast? '\n' s with
      | some (before, []) => before
      | _ => s
    match s.dropWhile Text.isDigit with
    | [] => !s.isEmpty
    | '.' :: rest => !rest.isEmpty && rest.all Text.isDigit
    | _ => false
  | _ => false

def named (known : List Switch) : List (String × Switch) :=
  known.flatMap fun s => s.names.map fun name => (name, s)

def attachment (word : List Char) : List Char × Option String :=
  match Text.cut? '=' word with
  | some (name, rest) => (name, some (String.ofList rest))
  | none => (word, none)

def candidates (known : List Switch) (word : List Char) : List Role :=
  match word with
  | '-' :: '-' :: _ =>
    let (start, attached) := attachment word
    (named known).filterMap fun (name, s) =>
      (Text.after? start name.toList).map fun _ => .switch s false attached
  | '-' :: c :: rest =>
    (named known).filterMap fun (name, s) =>
      if name.toList = ['-', c] then some (.switch s true (some (String.ofList rest))) else none
  | _ => []

def ofName? (known : List Switch) (name : List Char) (attached : Option String) : Option Role :=
  ((named known).find? fun n => n.1.toList = name).map fun n => .switch n.2 (name.length = 2) attached

def roleOf (known : List Switch) (word : List Char) : Except Stop Role :=
  match word with
  | '-' :: _ :: _ =>
    let (name, attached) := attachment word
    match ofName? known word none <|> ofName? known name attached with
    | some role => .ok role
    | none =>
      match candidates known word with
      | [role] => .ok role
      | [] => .ok (if isNegative word || word.contains ' ' then .value else .unknown)
      | _ => .error .usage
  | _ => .ok .value

def Word.ofText (known : List Switch) (text : String) : Except Stop Word :=
  (roleOf known text.toList).map fun role => ⟨text, role⟩

def Word.ofTexts (known : List Switch) : List String → Except Stop (List Word)
  | [] => .ok []
  | "--" :: rest => .ok (⟨"--", .mark⟩ :: rest.map fun text => ⟨text, .value⟩)
  | text :: rest => do
    let word ← Word.ofText known text
    return word :: (← Word.ofTexts known rest)

def helpStop (isShort : Bool) : Option String → Stop
  | none => .help
  | some attached => if isShort && attached != "" && attached.all (· == 'h') then .help else .usage

end OvalCatalog.Arguments
