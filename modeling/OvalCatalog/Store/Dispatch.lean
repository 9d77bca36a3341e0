import OvalCatalog.Store.Lookup
import OvalCatalog.Store.Refresh

namespace OvalCatalog

inductive Mode where
  | package
  | cve
  deriving DecidableEq, Repr

inductive Connection where
  | live (s : Store)
  | closed

inductive QueryError where
  | unknownFamily (name : Option String)
  | unknownMode (name : Option String)
  | unreadable (family : Family) (release key : Option String) (mode : Mode)

def Mode.ofName? : Option String → Option Mode
  | some "package" => some package
  | some "cve" => some cve
  | _ => none

def Mode.words : Mode → String
  | package => "package"
  | cve => "CVE"

def QueryError.messageWith (cause : String) : QueryError → String
  | unknownFamily name => "Unknown OS family: " ++ Text.shown name
  | unknownMode name => "Unknown lookup mode: " ++ Text.shown name
  | unreadable family release key mode =>
    "Failed to get " ++ family.name ++ " " ++ Text.shown release ++ " definitions by " ++ mode.words ++ " " ++
      Text.shown key ++ ": " ++ cause

def QueryError.message : QueryError → String :=
  messageWith "Connection Error: Connection already closed!"

def Family.find (name : Option String) : Except QueryError Family :=
  match name.bind Family.ofName? with
  | some family => .ok family
  | none => .error (.unknownFamily name)

def Family.findSuse : Option String → Except QueryError Family
  | none => .ok .opensuse
  | some name =>
    match Family.ofName? name with
    | some family => if family.vendor = .suse then .ok family else .error (.unknownFamily (some name))
    | none => .error (.unknownFamily (some name))

def lookup (family : Family) (release key : Option String) (mode : Mode) :
    Connection → Except QueryError (List Definition)
  | .closed => .error (.unreadable family release key mode)
  | .live s =>
    match mode with
    | .package => .ok (s.byPackage family release key)
    | .cve => .ok (s.byCve family release key)

def dispatch (family release key mode : Option String) (c : Connection) :
    Except QueryError (List Definition) := do
  let family ← Family.find family
  match Mode.ofName? mode with
  | some mode => lookup family release key mode c
  | none => .error (.unknownMode mode)

end OvalCatalog
