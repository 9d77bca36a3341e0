import OvalCatalog.Store.Basic
import OvalCatalog.Time.Moment
import OvalCatalog.Value.Kind
import OvalCatalog.Value.Printing

namespace OvalCatalog

/-- What is given as the time of a snapshot; it need not be a time. -/
inductive Stamp where
  | moment (m : Time.Moment)
  | other (v : Value)

structure FetchMeta where
  fileName : Option String
  timestamp : Stamp

inductive StoreFailure where
  | row (e : RowError)
  | outOfRange
  | notATime (v : Value)

def StoreFailure.message : StoreFailure → String
  | row e => e.message
  | outOfRange => "date value out of range"
  | notATime v => v.lacks "tzinfo"

def Stamp.normalize : Stamp → Except StoreFailure Time.Timestamp
  | moment m =>
    match m.normalize? with
    | some t => .ok t
    | none => .error .outOfRange
  | other v => .error (.notATime v)

namespace Store

def fetched? (fileName : Option String) (s : Store) : Option FetchRow :=
  fileName.bind fun name => s.fetches.rows.find? fun r => r.fileName == name

def isFetched (file : FetchMeta) (s : Store) : Except StoreFailure Bool :=
  match s.fetched? file.fileName with
  | none => .ok false
  | some row => file.timestamp.normalize.map fun t => row.timestamp == t

def setFetched (id : Int) (t : Time.Timestamp) (s : Store) : Store :=
  { s with fetches := { s.fetches with
      rows := s.fetches.rows.map fun r => if r.id == id then { r with timestamp := t } else r } }

def recordFetch (file : FetchMeta) (s : Store) : Except (StoreFailure × Store) (Int × Store) :=
  match file.timestamp.normalize with
  | .error e => .error (e, s)
  | .ok t =>
    match s.fetched? file.fileName with
    | some row => .ok (row.id, s.setFetched row.id t)
    | none =>
      match s.fetches.fill (fun n name => FetchRow.of name t n) [file.fileName] with
      | .ok fetches => .ok (s.fetches.next, { s with fetches })
      | .error (e, fetches) => .error (.row e, { s with fetches })

end Store

end OvalCatalog
