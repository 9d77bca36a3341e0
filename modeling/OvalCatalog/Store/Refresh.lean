import OvalCatalog.Family
import OvalCatalog.Store.Delete
import OvalCatalog.Store.FetchLog
import OvalCatalog.Store.Insert

/-! Refresh: a snapshot replaces the root of its version as a whole, or the store keeps its rows. -/

namespace OvalCatalog

inductive Malformed where
  | foreignFamily (given : Option String) (family : Family)
  | noVersion (family : Family)
  | noFileName (family : Family) (osVersion : String)
  | noTimestamp (fileName : String) (given : Value)
  | noDefinitionId (family : Family) (osVersion : String)

def Malformed.message : Malformed → String
  | foreignFamily given family =>
    "Root family " ++ Text.shownQuoted given ++ " does not belong to store " ++ Text.quoted family.name
  | noVersion family => "Root for " ++ family.name ++ " has no OS version"
  | noFileName family osVersion =>
    "FetchMeta for " ++ family.name ++ " " ++ osVersion ++ " has no file name"
  | noTimestamp fileName given =>
    "FetchMeta for " ++ fileName ++ " has no valid timestamp: " ++ given.display
  | noDefinitionId family osVersion => "Definition without id in " ++ family.name ++ " " ++ osVersion

structure Subject where
  family : Option String := none
  osVersion : Option String := none
  fileName : Option String := none

def Subject.text (x : Subject) : String :=
  " (family=" ++ Text.shown x.family ++ ", os_version=" ++ Text.shown x.osVersion ++
    ", file=" ++ Text.shown x.fileName ++ ")"

inductive RefreshError where
  | malformed (m : Malformed)
  | refresh (cause : StoreFailure) (subject : Subject)
  | record (cause : StoreFailure) (subject : Subject)

def RefreshError.messageWith (causeText : StoreFailure → String) : RefreshError → String
  | malformed m => m.message
  | refresh cause subject => "Failed to refresh OVAL: " ++ causeText cause ++ subject.text
  | record cause subject => "Failed to record FetchMeta: " ++ causeText cause ++ subject.text

def RefreshError.message : RefreshError → String :=
  messageWith StoreFailure.message

structure Snapshot where
  family : Family
  osVersion : String
  fileName : String
  moment : Time.Moment
  definitions : List Definition

namespace Snapshot

def fetchMeta (x : Snapshot) : FetchMeta :=
  ⟨some x.fileName, .moment x.moment⟩

def subject (x : Snapshot) : Subject :=
  ⟨some x.family.name, some x.osVersion, some x.fileName⟩

def isBlankId (d : Definition) : Bool :=
  d.definitionId.getD "" == ""

def of (family : Family) (root : Root) (file : FetchMeta) : Except Malformed Snapshot :=
  if root.family ≠ some family.name then .error (.foreignFamily root.family family)
  else match root.osVersion.getD "", file.fileName.getD "", file.timestamp with
    | "", _, _ => .error (.noVersion family)
    | osVersion, "", _ => .error (.noFileName family osVersion)
    | _, fileName, .other v => .error (.noTimestamp fileName v)
    | osVersion, fileName, .moment m =>
      if root.definitions.any isBlankId then .error (.noDefinitionId family osVersion)
      else .ok ⟨family, osVersion, fileName, m, root.definitions⟩

end Snapshot

namespace Store

def deleteRoots (ids : List Int) (s : Store) : Store :=
  ids.foldl (fun s id => s.deleteRoot id) s

def replaceRoot (x : Snapshot) (s : Store) : Except (StoreFailure × Store) Store :=
  let s := s.deleteRoots (s.rootIds x.family.name x.osVersion)
  match s.addRoot x.family.name x.osVersion x.definitions with
  | .error e => .error (.row e.error, e.left)
  | .ok s => (s.recordFetch x.fetchMeta).map (·.2)

def refresh (x : Snapshot) (s : Store) : Except RefreshError Bool × Store :=
  match s.isFetched x.fetchMeta with
  | .error e => (.error (.refresh e x.subject), s)
  | .ok true => (.ok false, s)
  | .ok false =>
    match s.replaceRoot x with
    | .error (e, left) => (.error (.refresh e x.subject), s.rollback left)
    | .ok s => (.ok true, s)

def insertOval (family : Family) (root : Root) (file : FetchMeta) (s : Store) :
    Except RefreshError Bool × Store :=
  match Snapshot.of family root file with
  | .error m => (.error (.malformed m), s)
  | .ok x => s.refresh x

def insertFetchMeta (family : Family) (file : FetchMeta) (s : Store) :
    Except RefreshError Bool × Store :=
  let subject : Subject := ⟨some family.name, none, file.fileName⟩
  match s.isFetched file with
  | .error e => (.error (.record e subject), s)
  | .ok true => (.ok false, s)
  | .ok false =>
    match s.recordFetch file with
    | .error (e, left) => (.error (.record e subject), s.rollback left)
    | .ok (_, s) => (.ok true, s)

end Store

end OvalCatalog
