import OvalCatalog.Store.Basic

namespace OvalCatalog

structure Check where
  name : String
  measure : String
  count : Nat
  message : String
  deriving DecidableEq, Repr

namespace Check

def passed (c : Check) : Bool :=
  c.count == 0

def of (name measure : String) (count : Nat) (complaint praise : String) : Check :=
  ⟨name, measure, count, if count = 0 then praise else toString count ++ " " ++ complaint⟩

def repeated {α : Type} [BEq α] (xs : List α) : Nat :=
  (xs.filter fun x => 1 < xs.count x).eraseDups.length

def strangers (known xs : List Int) : Nat :=
  (xs.filter fun x => !known.contains x).length

def orphans (name table : String) (parents children : List Int) : Check :=
  of name "orphan_count" (strangers parents children) ("orphaned rows in " ++ table)
    ("No orphaned " ++ table)

def isCveId (s : String) : Bool :=
  match s.toList with
  | 'C' :: 'V' :: 'E' :: '-' :: y₁ :: y₂ :: y₃ :: y₄ :: '-' :: number =>
    [y₁, y₂, y₃, y₄].all Char.isDigit && 4 ≤ number.length && number.all Char.isDigit
  | _ => false

end Check

def Store.checks (s : Store) : List Check :=
  [.of "single_root_per_version" "duplicate_count"
     (Check.repeated (s.roots.rows.map fun r => (r.family, r.osVersion)))
     "(family, version) pairs with duplicate roots" "One root per family/version",
   .orphans "no_orphan_definitions" "definitions" s.roots.ids (s.definitions.rows.map (·.rootId)),
   .orphans "no_orphan_packages" "packages" s.definitions.ids (s.packages.rows.map (·.definitionId)),
   .orphans "no_orphan_references" "oval_references" s.definitions.ids
     (s.references.rows.map (·.definitionId)),
   .orphans "no_orphan_advisories" "advisories" s.definitions.ids
     (s.advisories.rows.map (·.definitionId)),
   .orphans "no_orphan_cves" "cves" s.advisories.ids (s.cves.rows.map (·.advisoryId)),
   .orphans "no_orphan_bugzillas" "bugzillas" s.advisories.ids (s.bugzillas.rows.map (·.advisoryId)),
   .orphans "no_orphan_cpes" "cpes" s.advisories.ids (s.cpes.rows.map (·.advisoryId)),
   .orphans "no_orphan_debians" "debians" s.definitions.ids (s.debians.rows.map (·.definitionId)),
   .of "cve_format" "invalid_count" (s.cves.rows.filter fun r => !Check.isCveId r.cveId).length
     "invalid CVE formats" "All CVE IDs valid",
   .of "unique_fetch_meta" "duplicate_count" (Check.repeated (s.fetches.rows.map (·.fileName)))
     "file names recorded more than once" "One fetch record per file"]

end OvalCatalog
