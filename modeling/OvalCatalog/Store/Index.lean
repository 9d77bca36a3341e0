import OvalCatalog.Sql.Expression
import OvalCatalog.Text.Blank

namespace OvalCatalog

def tableColumns : List (String × List (String × Sql.Kind)) :=
  [("fetch_meta", [("id", .whole), ("file_name", .text), ("snapshot_timestamp", .time), ("created_at", .time),
      ("updated_at", .time)]),
   ("roots", [("id", .whole), ("family", .text), ("os_version", .text), ("created_at", .time)]),
   ("definitions", [("id", .whole), ("root_id", .whole), ("definition_id", .text), ("title", .text),
      ("description", .text), ("severity", .text)]),
   ("packages", [("id", .whole), ("definition_id", .whole), ("name", .text), ("version", .text),
      ("not_fixed_yet", .truth)]),
   ("oval_references", [("id", .whole), ("definition_id", .whole), ("source", .text), ("ref_id", .text),
      ("ref_url", .text)]),
   ("advisories", [("id", .whole), ("definition_id", .whole), ("advisory_id", .text), ("severity", .text),
      ("issued", .text), ("updated", .text)]),
   ("cves", [("id", .whole), ("advisory_id", .whole), ("cve_id", .text), ("cvss2", .text), ("cvss3", .text),
      ("cwe", .text), ("href", .text), ("public", .text)]),
   ("bugzillas", [("id", .whole), ("advisory_id", .whole), ("bugzilla_id", .text), ("url", .text),
      ("title", .text)]),
   ("cpes", [("id", .whole), ("advisory_id", .whole), ("cpe", .text)]),
   ("debians", [("id", .whole), ("definition_id", .whole), ("cve_id", .text), ("more_info", .text),
      ("dsa", .text), ("date", .text)])]

structure Index where
  name : String
  table : String
  columns : String

namespace Index

def standard : List Index :=
  [⟨"idx_roots_family_version", "roots", "family, os_version"⟩,
   ⟨"idx_definition_root_id", "definitions", "root_id"⟩,
   ⟨"idx_packages_definition_id", "packages", "definition_id"⟩,
   ⟨"idx_packages_name", "packages", "name"⟩,
   ⟨"idx_reference_definition_id", "oval_references", "definition_id"⟩,
   ⟨"idx_advisories_definition_id", "advisories", "definition_id"⟩,
   ⟨"idx_cves_advisory_id", "cves", "advisory_id"⟩,
   ⟨"idx_cves_cve_id", "cves", "cve_id"⟩,
   ⟨"idx_bugzillas_advisory_id", "bugzillas", "advisory_id"⟩,
   ⟨"idx_cpes_advisory_id", "cpes", "advisory_id"⟩,
   ⟨"idx_debian_definition_id", "debians", "definition_id"⟩,
   ⟨"idx_debian_cve_id", "debians", "cve_id"⟩]

def statement (i : Index) : String :=
  "CREATE INDEX IF NOT EXISTS " ++ i.name ++ " ON " ++ i.table ++ "(" ++ i.columns ++ ")"

def statementStart (i : Index) : String :=
  let words := (Text.words Text.isBlank i.statement.toList).map String.ofList
  String.ofList ((String.intercalate " " words).toList.take 80)

open Sql

def afterKeywords? : List String → List Token → Option (List Token)
  | [], ts => some ts
  | k :: ks, t :: ts => if t.isKeyword k then afterKeywords? ks ts else none
  | _ :: _, [] => none

def columnsOf (table : String) (rest : List Token) : Option (List (String × Kind) × List Token) :=
  (tableColumns.find? fun t => sameName t.1 table).map fun t => (t.2, rest)

def table? : List Token → Option (List (String × Kind) × List Token)
  | schema :: .mark "." :: .word s :: rest | schema :: .mark "." :: .name s :: rest =>
    if schema.given?.elim false (sameName "main") then columnsOf s rest else none
  | .text s :: rest => columnsOf s rest
  | t :: rest => t.given?.bind fun s => columnsOf s rest
  | [] => none

def afterMethod? (ts : List Token) : Option (List Token) :=
  match afterKeywords? ["using"] ts with
  | none => some ts
  | some (t :: rest) => if t.given?.elim false (sameName "art") then some rest else none
  | some [] => none

def afterOrder (ts : List Token) : List Token :=
  let ts := ((afterKeywords? ["asc"] ts) <|> (afterKeywords? ["desc"] ts)).getD ts
  ((afterKeywords? ["nulls", "first"] ts) <|> (afterKeywords? ["nulls", "last"] ts)).getD ts

def key? (ts : List Token) : Option (Expression × List Token) :=
  match ts with
  | .mark "(" :: _ | .word _ :: .mark "(" :: _ | .name _ :: .mark "(" :: _ =>
    Expression.readValue? (4 * ts.length + 4) ts
  | t :: rest => t.given?.map fun s => (.column s, rest)
  | [] => none

def keys? : Nat → List Token → Option (List Expression × List Token)
  | 0, _ => none
  | fuel + 1, ts => do
    let (e, rest) ← key? ts
    match afterOrder rest with
    | .mark ")" :: rest => return ([e], rest)
    | .mark "," :: rest =>
      let (keys, rest) ← keys? fuel rest
      return (e :: keys, rest)
    | _ => none

def made? (i : Index) : Option String := do
  let ts ← Token.ofText? i.statement
  match ← afterKeywords? ["create", "index", "if", "not", "exists"] ts with
  | [] => none
  | t :: ts =>
    let name ← t.given?
    let (columns, ts) ← table? (← afterKeywords? ["on"] ts)
    match ← afterMethod? ts with
    | .mark "(" :: ts =>
      let (keys, rest) ← keys? (ts.length + 1) ts
      if rest.all (· == .mark ";") && keys.all fun k => (k.kind? columns).isSome then some name else none
    | _ => none

end Index

end OvalCatalog
