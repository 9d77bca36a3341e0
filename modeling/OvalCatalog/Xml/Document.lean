import OvalCatalog.Xml.Content
import OvalCatalog.Xml.Declaration
import OvalCatalog.Xml.Doctype
import OvalCatalog.Xml.Encoding

namespace OvalCatalog.Xml

inductive Fault where
  | flaw (kind : FlawKind) (line column : Nat)
  | encoding (e : Charset.LookupError)

def Fault.message : Fault → String
  | flaw kind line column => kind.text ++ ": line " ++ toString line ++ ", column " ++ toString column
  | encoding e => e.message

namespace Document

def joinLineEnds (seen : List Char) : List Char → List Char
  | [] => seen.reverse
  | ['\r'] => ('\r' :: seen).reverse
  | '\r' :: '\n' :: s => joinLineEnds ('\n' :: seen) s
  | c :: s => joinLineEnds ((if c == '\r' then '\n' else c) :: seen) s

def characters (e : Encoding) (bytes : List UInt8) : List Char :=
  joinLineEnds [] (e.decode bytes)

def position (s : List Char) : Nat × Nat :=
  let isLineEnd := fun c => c == '\n' || c == '\r'
  (s.countP isLineEnd + 1, (s.reverse.takeWhile (!isLineEnd ·)).length)

def fault (e : Encoding) (bytes : List UInt8) (f : Flaw) : Fault :=
  let s := characters e bytes
  let (line, column) := position (s.take (s.length - f.left.getD 0))
  .flaw f.kind line column

def prolog (standalone : Bool) : Nat → Option Dtd → List Char → Expander (Dtd × List Char)
  | 0, d, s => pure (d.getD { standalone }, s)
  | fuel + 1, d, s => do
    let w ← Word.read s
    match w.token with
    | .comment | .instruction => prolog standalone fuel d w.rest
    | .element => return (d.getD { standalone }, w.here)
    | .keyword "DOCTYPE" =>
      if d.isSome then w.refused (α := Unit)
      let (d, s) ← Doctype.read fuel standalone w.rest
      prolog standalone fuel (some d) s
    | _ => w.refused (α := Dtd × List Char)

def epilog : Nat → List Char → Except Flaw Unit
  | 0, _ => .ok ()
  | fuel + 1, s => do
    match ← Word.next? s with
    | none => return ()
    | some w =>
      match w.token with
      | .comment | .instruction => epilog fuel w.rest
      | _ => throw (.before .junkAfterRoot w.here)

def openRoot (s : List Char) : Flaw :=
  ⟨.noElement, some (if s.getLast? == some '\r' then 1 else 0)⟩

def root (standalone : Bool) (s : List Char) : Expander Element := do
  let fuel := s.length + 1
  let (d, start) ← prolog standalone fuel none s
  let (b, rest) ← Content.read d fuel start
  match b.root with
  | none => throw (openRoot s)
  | some e =>
    epilog fuel rest
    return e

/-- Entities may write eight million characters, or a hundred times the document if that is more. -/
def budget (bytes : List UInt8) : Nat :=
  max (8388608) (100 * bytes.length)

structure Parts where
  start : Encoding
  mark : Nat
  declaration : Declaration := {}
  length : Nat := 0

def cutDeclaration (s : List Char) : Except Flaw (Declaration × Nat) :=
  match Text.after? "<?".toList s with
  | none => .ok ({}, 0)
  | some target =>
    match skipInstruction target with
    | .ok (true, rest) =>
      let length := s.length - rest.length
      let inner := (s.take (length - 2)).drop 5
      match Declaration.read inner with
      | .ok d => .ok (d, length)
      | .error here => .error ⟨.badDeclaration, some (here.length + 2 + rest.length)⟩
    | _ => .ok ({}, 0)

def declared (start : Encoding) (bytes : List UInt8) (rest : Nat) (d : Declaration) : Except Fault Encoding :=
  match d.encoding with
  | none => .ok start
  | some (name, here) =>
    let refused (kind : FlawKind) : Except Fault Encoding :=
      .error (fault start bytes ⟨kind, some (here.length + 2 + rest)⟩)
    match start.registered? name, Charset.find name with
    | some e, _ => if start.agrees e then .ok e else refused .wrongEncoding
    | none, .ok c => .ok (.charset c)
    | none, .error .incompatible => refused .unknownEncoding
    | none, .error e => .error (.encoding e)

def parse (bytes : List UInt8) : Except Fault Element := do
  if Encoding.isUndecided bytes then throw (.flaw .unclosedToken 1 0)
  let (start, text) := Encoding.detect bytes
  let s := characters start text
  let (d, length) ← (cutDeclaration s).mapError (fault start bytes)
  let e ← declared start bytes (s.length - length) d
  let body := if e == start then s.drop length else characters e (text.drop (length * start.width))
  let (root, _) ← ((root d.standalone body).run (budget bytes)).mapError (fault e bytes)
  return root

end Document

end OvalCatalog.Xml
