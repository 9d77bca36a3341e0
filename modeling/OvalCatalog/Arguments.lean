import OvalCatalog.Arguments.Places

namespace OvalCatalog

inductive Key where
  | package (name : String)
  | cve (id : String)
  deriving DecidableEq, Repr

inductive Command where
  | fetch (family : String) (versions : List String)
  /-- The release is missing if a mark was given in its place. -/
  | query (family : String) (release : Option String) (key : Key)
  deriving DecidableEq, Repr

structure Arguments where
  config : String := "config.yaml"
  debug : Bool := false
  command : Command
  deriving DecidableEq, Repr

namespace Arguments

def readFetch (words : List String) : Except Stop (Command × Bool) := do
  let r ← Reading.read [] none { places := [.one, .many] } (← Word.ofTexts [.help] words)
  match r.filled with
  | [[family], versions] => return (.fetch family versions, r.hasExtras)
  | _ => throw .usage

def readQuery (words : List String) : Except Stop (Command × Bool) := do
  let r ← Reading.read [] none { places := [.one, .one] } (← Word.ofTexts [.help, .package, .cve] words)
  match r.filled, r.given.getLast? with
  | [[family], release], some (.package, name) => return (.query family release.head? (.package name), r.hasExtras)
  | [[family], release], some (_, id) => return (.query family release.head? (.cve id), r.hasExtras)
  | _, _ => throw .usage

def readCommand (name : String) (words : List String) : Except Stop (Command × Bool) :=
  match name with
  | "fetch" => readFetch words
  | "query" => readQuery words
  | _ => .error .usage

structure Options where
  config : String := "config.yaml"
  debug : Bool := false
  hasExtras : Bool := false

def readOptions (awaiting : Bool) (o : Options) : List Word → Except Stop Arguments
  | [] => .error .usage
  | w :: rest =>
    match awaiting, w.role with
    | true, .value => readOptions false { o with config := w.text } rest
    | true, _ => .error .usage
    | false, .value => do
      let (command, hasExtras) ← readCommand w.text (rest.map Word.text)
      if o.hasExtras || hasExtras then throw .usage
      return ⟨o.config, o.debug, command⟩
    | false, .unknown => readOptions false { o with hasExtras := true } rest
    | false, .switch .debug _ none => readOptions false { o with debug := true } rest
    | false, .switch .config _ none => readOptions true o rest
    | false, .switch .config _ (some value) => readOptions false { o with config := value } rest
    | false, .switch .help isShort attached => .error (helpStop isShort attached)
    | false, _ => .error .usage

def read (words : List String) : Except Stop Arguments := do
  readOptions false {} (← Word.ofTexts [.help, .config, .debug] words)

end Arguments

end OvalCatalog
