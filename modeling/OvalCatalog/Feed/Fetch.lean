import OvalCatalog.Bzip2.Stream
import OvalCatalog.Feed.Target
import OvalCatalog.Oval.Document
import OvalCatalog.Store.FetchLog

namespace OvalCatalog.Feed

inductive FetchError (ε : Type) where
  | download (e : ε)
  | badArchive (url : String)
  | shortArchive
  | document (e : Oval.DocumentError)

def FetchError.messageWith {ε : Type} (downloadText : ε → String) (causeText : Xml.Fault → String) :
    FetchError ε → String
  | download e => downloadText e
  | badArchive url => "Failed to decompress " ++ url ++ ": Invalid data stream"
  | shortArchive => "Compressed data ended before the end-of-stream marker was reached"
  | document e => e.messageWith causeText

structure Fetched where
  target : Target
  root : Root
  file : FetchMeta
  timestamp : Time.Timestamp

def Target.isArchive (t : Target) : Bool :=
  t.url.endsWith ".bz2"

def unpack {ε : Type} (t : Target) (bytes : List UInt8) : Except (FetchError ε) (List UInt8) :=
  if t.isArchive then
    match Bzip2.decompress bytes with
    | .ok bytes => .ok bytes
    | .error .invalid => .error (.badArchive t.url)
    | .error .truncated => .error .shortArchive
  else .ok bytes

def Fetched.of (t : Target) (d : Oval.Document) : Fetched where
  target := t
  root := ⟨some t.family, some t.osVersion, d.definitions⟩
  file := ⟨some t.fileName, .moment ⟨d.timestamp, none⟩⟩
  timestamp := d.timestamp

def fetch {ε : Type} (download : String → Except ε (List UInt8)) (t : Target) :
    Except (FetchError ε) Fetched := do
  let bytes ← (download t.url).mapError .download
  let bytes ← unpack t bytes
  let document ← (Oval.Document.parse ⟨t.family, t.osVersion⟩ bytes).mapError .document
  return Fetched.of t document

end OvalCatalog.Feed
