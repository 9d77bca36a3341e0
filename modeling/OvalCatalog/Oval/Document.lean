import OvalCatalog.Oval.Conversion
import OvalCatalog.Text.Quoted
import OvalCatalog.Time.Reading
import OvalCatalog.Xml.Document

namespace OvalCatalog.Oval

open Xml (Element)

structure Document where
  timestamp : Time.Timestamp
  definitions : List Definition

inductive DocumentError where
  | notXml (target : Target) (fault : Xml.Fault)
  | encoding (e : Charset.LookupError)
  | noTimestamp (target : Target)
  | badTimestamp (text : String)
  | noDefinitionId (target : Target)

def Target.text (t : Target) : String :=
  t.family ++ " " ++ t.osVersion

def DocumentError.messageWith (causeText : Xml.Fault → String) : DocumentError → String
  | notXml target fault => "Invalid OVAL XML for " ++ target.text ++ ": " ++ causeText fault
  | encoding e => e.message
  | noTimestamp target => "OVAL document for " ++ target.text ++ " has no generator timestamp"
  | badTimestamp text => "Unparseable OVAL generator timestamp: " ++ Text.quoted text
  | noDefinitionId target => "OVAL definition without id in " ++ target.text

def DocumentError.message : DocumentError → String :=
  messageWith Xml.Fault.message

def readTimestamp (text : String) : Except DocumentError Time.Timestamp :=
  match Time.Timestamp.read? text with
  | some t => .ok t
  | none => .error (.badTimestamp text)

def timestampOf (target : Target) (root : Element) : Except DocumentError Time.Timestamp :=
  match ((root.child? "generator").map (·.childContent "timestamp")).getD "" with
  | "" => .error (.noTimestamp target)
  | text => readTimestamp text

def definitionElements (root : Element) : List Element :=
  match root.child? "definitions" with
  | none => []
  | some list => (list.childrenNamed "definition").filter fun e => e.attribute? "class" != some "inventory"

def convert (target : Target) : List Element → Except DocumentError (List Definition)
  | [] => .ok []
  | e :: rest =>
    match e.attributeText "id" with
    | "" => .error (.noDefinitionId target)
    | id => do
      let definitions ← convert target rest
      return if applies target e then definition target id e :: definitions else definitions

def Document.ofElement (target : Target) (root : Element) : Except DocumentError Document := do
  let timestamp ← timestampOf target root
  let definitions ← convert target (definitionElements root)
  return { timestamp, definitions }

def Document.parse (target : Target) (bytes : List UInt8) : Except DocumentError Document :=
  match Xml.Document.parse bytes with
  | .error (.encoding e) => .error (.encoding e)
  | .error fault => .error (.notXml target fault)
  | .ok root => Document.ofElement target root

end OvalCatalog.Oval
