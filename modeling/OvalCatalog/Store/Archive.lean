import OvalCatalog.Keyed
import OvalCatalog.Store.Basic
import OvalCatalog.Time.Moment
import OvalCatalog.Value

namespace OvalCatalog

namespace Value

def whole? : Value → Option Int
  | whole n => some n
  | _ => none

def presentText? : Value → Option String
  | text s => some s
  | _ => none

def optionalText? : Value → Option (Option String)
  | null => some none
  | text s => some (some s)
  | _ => none

def optionalBool? : Value → Option (Option Bool)
  | null => some none
  | bool b => some (some b)
  | _ => none

def time? : Value → Option Time.Timestamp
  | text s => (Time.Moment.read? s).map (·.clock)
  | _ => none

end Value

class Record (ρ : Type) extends Row ρ where
  cells : ρ → List Value
  ofCells? : List Value → Option ρ

instance : Record FetchRow where
  cells r := [.whole r.id, .text r.fileName, .text r.timestamp.isoText]
  ofCells?
    | [id, name, t] => return ⟨← id.whole?, ← name.presentText?, ← t.time?⟩
    | _ => none

instance : Record RootRow where
  cells r := [.whole r.id, .text r.family, .text r.osVersion]
  ofCells?
    | [id, family, version] => return ⟨← id.whole?, ← family.presentText?, ← version.presentText?⟩
    | _ => none

instance : Record DefinitionRow where
  cells r := [.whole r.id, .whole r.rootId, .text? r.definitionId, .text? r.title, .text? r.description,
    .text? r.severity]
  ofCells?
    | [id, root, name, title, description, severity] =>
      return ⟨← id.whole?, ← root.whole?, ← name.optionalText?, ← title.optionalText?,
        ← description.optionalText?, ← severity.optionalText?⟩
    | _ => none

instance : Record PackageRow where
  cells r := [.whole r.id, .whole r.definitionId, .text r.name, .text? r.version,
    (r.notFixedYet.map Value.bool).getD .null]
  ofCells?
    | [id, definition, name, version, notFixedYet] =>
      return ⟨← id.whole?, ← definition.whole?, ← name.presentText?, ← version.optionalText?,
        ← notFixedYet.optionalBool?⟩
    | _ => none

instance : Record ReferenceRow where
  cells r := [.whole r.id, .whole r.definitionId, .text? r.source, .text? r.refId, .text? r.refUrl]
  ofCells?
    | [id, definition, source, refId, refUrl] =>
      return ⟨← id.whole?, ← definition.whole?, ← source.optionalText?, ← refId.optionalText?,
        ← refUrl.optionalText?⟩
    | _ => none

instance : Record AdvisoryRow where
  cells r := [.whole r.id, .whole r.definitionId, .text? r.advisoryId, .text? r.severity, .text? r.issued,
    .text? r.updated]
  ofCells?
    | [id, definition, name, severity, issued, updated] =>
      return ⟨← id.whole?, ← definition.whole?, ← name.optionalText?, ← severity.optionalText?,
        ← issued.optionalText?, ← updated.optionalText?⟩
    | _ => none

instance : Record CveRow where
  cells r := [.whole r.id, .whole r.advisoryId, .text r.cveId, .text? r.cvss2, .text? r.cvss3, .text? r.cwe,
    .text? r.href, .text? r.published]
  ofCells?
    | [id, advisory, cve, cvss2, cvss3, cwe, href, published] =>
      return ⟨← id.whole?, ← advisory.whole?, ← cve.presentText?, ← cvss2.optionalText?,
        ← cvss3.optionalText?, ← cwe.optionalText?, ← href.optionalText?, ← published.optionalText?⟩
    | _ => none

instance : Record BugzillaRow where
  cells r := [.whole r.id, .whole r.advisoryId, .text? r.bugzillaId, .text? r.url, .text? r.title]
  ofCells?
    | [id, advisory, name, url, title] =>
      return ⟨← id.whole?, ← advisory.whole?, ← name.optionalText?, ← url.optionalText?,
        ← title.optionalText?⟩
    | _ => none

instance : Record CpeRow where
  cells r := [.whole r.id, .whole r.advisoryId, .text? r.cpe]
  ofCells?
    | [id, advisory, cpe] => return ⟨← id.whole?, ← advisory.whole?, ← cpe.optionalText?⟩
    | _ => none

instance : Record DebianRow where
  cells r := [.whole r.id, .whole r.definitionId, .text? r.cveId, .text? r.moreInfo, .text? r.dsa, .text? r.date]
  ofCells?
    | [id, definition, cve, moreInfo, dsa, date] =>
      return ⟨← id.whole?, ← definition.whole?, ← cve.optionalText?, ← moreInfo.optionalText?,
        ← dsa.optionalText?, ← date.optionalText?⟩
    | _ => none

namespace Table

variable {ρ : Type} [Record ρ]

def rowsValue (t : Table ρ) : Value :=
  .list (t.ordered.map fun r => .list (Record.cells r))

def toValue (t : Table ρ) : Value :=
  .map [("next", .whole t.next), ("rows", .list (t.rows.map fun r => .list (Record.cells r)))]

def ofRow? : Value → Option ρ
  | .list cells => Record.ofCells? cells
  | _ => none

def ofValue? : Value → Option (Table ρ)
  | .map [(_, .whole next), (_, .list rows)] => do return ⟨← rows.mapM ofRow?, next⟩
  | _ => none

end Table

namespace Store

def tables (f : {ρ : Type} → [Record ρ] → Table ρ → Value) (s : Store) : List (String × Value) :=
  [("fetch_meta", f s.fetches), ("roots", f s.roots), ("definitions", f s.definitions),
   ("packages", f s.packages), ("oval_references", f s.references), ("advisories", f s.advisories),
   ("cves", f s.cves), ("bugzillas", f s.bugzillas), ("cpes", f s.cpes), ("debians", f s.debians)]

def rowsValue (s : Store) : Value :=
  .map (s.tables Table.rowsValue)

def toValue (s : Store) : Value :=
  .map (s.tables Table.toValue)

def ofValue? : Value → Option Store
  | .map entries =>
    let table {ρ : Type} [Record ρ] (name : String) : Option (Table ρ) :=
      (Keyed.find? name entries).bind Table.ofValue?
    return ⟨← table "fetch_meta", ← table "roots", ← table "definitions", ← table "packages",
      ← table "oval_references", ← table "advisories", ← table "cves", ← table "bugzillas", ← table "cpes",
      ← table "debians"⟩
  | _ => none

end Store

end OvalCatalog
