import OvalCatalog.Proofs.Intake
import OvalCatalog.Proofs.Lookup

/-! By which CVEs the definitions of a stored document are found. These are the CVEs that the advisory of the
definition lists, and those that the definition refers to where the advisory lists none. -/

namespace OvalCatalog

namespace Oval

open Xml (Element)

def cveElements (e : Element) : List Element :=
  ((e.child? "metadata").bind (·.child? "advisory")).toList.flatMap (·.childrenNamed "cve")

def referenceElements (e : Element) : List Element :=
  (e.child? "metadata").toList.flatMap (·.childrenNamed "reference")

def advisoryNames (cve : String) (e : Element) : Bool :=
  (cveElements e).any fun c => c.content == cve

def referencesName (cve : String) (e : Element) : Bool :=
  (referenceElements e).any fun r =>
    (r.attributeText "source").toUpper == "CVE" && r.attributeText "ref_id" == cve

def namesCve (cve : String) (e : Element) : Bool :=
  advisoryNames cve e || ((cveElements e).all fun c => c.content == "") && referencesName cve e

theorem isEmpty_listedCves (e : Element) :
    (((metadataOf e).child? "advisory").toList.flatMap listedCves).isEmpty =
      (cveElements e).all fun c => c.content == "" := by
  rw [child?_metadataOf, cveElements, Bool.eq_iff_iff]
  simp [listedCves]

section Names

variable {cve : String} (hcve : cve ≠ "") (e : Element)
include hcve

theorem any_listedCves :
    (((metadataOf e).child? "advisory").toList.flatMap listedCves).any (·.cveId == some cve) =
      advisoryNames cve e := by
  have hlisted (c : Element) : (c.content != "" && some c.content == some cve) = (c.content == cve) := by
    grind
  rw [child?_metadataOf, advisoryNames, cveElements]
  simp only [List.any_flatMap, listedCves, List.any_map, List.any_filter, Function.comp_def, hlisted]

theorem any_referredCves :
    (referredCves (references (metadataOf e))).any (·.cveId == some cve) = referencesName cve e := by
  have hreferred (source id : String) :
      (source.toUpper == "CVE" && some id != some "" && some id == some cve) =
        (source.toUpper == "CVE" && id == cve) := by
    grind
  rw [referencesName, referenceElements, ← childrenNamed_metadataOf]
  simp only [referredCves, references, List.any_map, List.any_filter, Function.comp_def, isCveSource,
    Option.getD_some, hreferred]

end Names

theorem advisoryNames_of_none {cve : String} (hcve : cve ≠ "") {e : Element}
    (hnone : ((cveElements e).all fun c => c.content == "") = true) : advisoryNames cve e = false := by
  rw [advisoryNames, List.any_eq_false]
  intro c hc he
  have hempty : c.content = "" := beq_iff_eq.mp (List.all_eq_true.mp hnone c hc)
  exact hcve ((beq_iff_eq.mp he).symm.trans hempty)

theorem any_cves_advisoryOf {cve : String} (hcve : cve ≠ "") (e : Element) :
    (advisoryOf (metadataOf e) (references (metadataOf e))).cves.any (·.cveId == some cve) =
      namesCve cve e := by
  rw [cves_advisoryOf]
  dsimp only
  rw [isEmpty_listedCves, namesCve]
  split
  · next hnone => rw [any_referredCves hcve, advisoryNames_of_none hcve hnone, hnone, Bool.true_and, Bool.false_or]
  · next hsome => rw [any_listedCves hcve, Bool.eq_false_iff.mpr hsome, Bool.false_and, Bool.or_false]

theorem isNamed_cve_definition {f : Family} (hf : f ≠ .debian) {cve : String} (hcve : cve ≠ "")
    (target : Target) (id : String) (e : Element) :
    (definition target id e).isNamed f .cve (some cve) = namesCve cve e := by
  have hvendor : f.vendor ≠ .debian := by
    cases f <;> first | exact absurd rfl hf | decide
  rw [Definition.isNamed, if_neg hvendor, ← any_cves_advisoryOf hcve]
  rfl

end Oval

namespace Store

variable {s : Store} {trees : List DefinitionTree}

theorem Holds.found_single (h : s.Holds trees) {family : Family} {r : RootRow} (hr : s.roots.rows = [r])
    (hf : r.family = family.name) (key : Option String) (mode : Mode) :
    (s.found family (some (Release.majorVersion r.osVersion)) key mode).map Definition.content =
      ((s.definitionsOf r.id).filter (·.isNamed family mode key)).map (·.shownBy family) := by
  rw [← h.found_under (hr ▸ List.mem_singleton_self r) hf, List.filter_eq_self.mpr]
  rw [h.found_eq, List.forall_mem_map]
  intro d hd
  have hunder := (Bool.and_eq_true_iff.mp (List.mem_filter.mp hd).2).1
  rw [isUnder, hr, List.any_cons, List.any_nil, Bool.or_false] at hunder
  exact (Bool.and_eq_true_iff.mp hunder).1

open Oval (definition describedBy namesCve)

theorem Replaced.found_fresh {x : Snapshot} {t : Time.Timestamp} {u : Store} {grown : List DefinitionTree}
    (hr : Store.empty.Replaced [] x t u grown) (key : Option String) (mode : Mode) :
    (u.found x.family (some (Release.majorVersion x.osVersion)) key mode).map Definition.content =
      ((x.definitions.map Definition.content).filter (·.isNamed x.family mode key)).map (·.shownBy x.family) := by
  have hroots : u.roots.rows = [⟨Store.empty.roots.next, x.family.name, x.osVersion⟩] := hr.roots
  rw [← hr.definitionsOf_next Holds.empty]
  exact hr.holds.found_single hroots rfl key mode

/-- A search by a CVE in a store with one document finds all definitions that name it, and no other. The
references of a definition count where its advisory lists no CVE. -/
theorem cve_search_exact {f : Family} (hf : f ≠ .debian) {osVersion fileName : String} (hv : osVersion ≠ "")
    (hn : fileName ≠ "") {bytes : List UInt8} {document : Oval.Document}
    (hd : Oval.Document.parse ⟨f.name, osVersion⟩ bytes = .ok document) :
    ∃ root u, Xml.Document.parse bytes = .ok root ∧
      document.definitions = (describedBy f osVersion root).map (fun e =>
        definition ⟨f.name, osVersion⟩ (e.attributeText "id") e) ∧
      Database.fresh.store.insertOval f ⟨some f.name, some osVersion, document.definitions⟩
        ⟨some fileName, .moment ⟨document.timestamp, none⟩⟩ = (.ok true, u) ∧
      ∀ cve : String, cve ≠ "" → ∃ found,
        lookup f (some (Release.majorVersion osVersion)) (some cve) .cve (.live u) = .ok found ∧
          found.map Definition.content = ((describedBy f osVersion root).filter (namesCve cve)).map fun e =>
            ((definition ⟨f.name, osVersion⟩ (e.attributeText "id") e).shownBy f).content := by
  obtain ⟨root, hroot, _, hdefinitions⟩ := Oval.Document.definitions_eq hd
  rw [store_fresh, insertOval_of_ok (Oval.Document.snapshot_of hd hv hn)]
  rcases Holds.empty.refresh_of_note (Oval.Document.note_snapshot hd fileName) with
    ⟨htime, _⟩ | ⟨_, u, grown, he, hreplaced⟩
  · cases htime
  · refine ⟨root, u, hroot, hdefinitions, he, fun cve hcve => ⟨_, lookup_live .., ?_⟩⟩
    refine (hreplaced.found_fresh (some cve) .cve).trans ?_
    simp only [Oval.Document.snapshot, hdefinitions, List.map_map, List.filter_map, Function.comp_def,
      Definition.isNamed_content, Oval.isNamed_cve_definition hf hcve, Definition.content_shownBy]

def update : List UInt8 :=
  ("<d><generator><timestamp>2099-01-01T00:00:00</timestamp></generator><definitions>" ++
    "<definition id=\"a\"><metadata><reference source=\"CVE\" ref_id=\"CVE-2099-0002\"/>" ++
    "<advisory><cve>CVE-2099-0001</cve></advisory></metadata></definition></definitions></d>").toUTF8.toList

theorem update_stored : ∃ document root u,
    Oval.Document.parse ⟨Family.redhat.name, "7"⟩ update = .ok document ∧
      Xml.Document.parse update = .ok root ∧
      Database.fresh.store.insertOval .redhat ⟨some Family.redhat.name, some "7", document.definitions⟩
        ⟨some "rhel-7.oval.xml.bz2", .moment ⟨document.timestamp, none⟩⟩ = (.ok true, u) ∧
      (∃ e ∈ describedBy .redhat "7" root, Oval.referencesName "CVE-2099-0002" e = true) ∧
      u.byCve .redhat (some "7") (some "CVE-2099-0002") = [] ∧
      (u.byCve .redhat (some "7") (some "CVE-2099-0001")).map (·.definitionId) = [some "a"] := by
  have hcheck : (Xml.Document.parse update).toOption.any (fun root =>
      (Oval.Document.ofElement ⟨Family.redhat.name, "7"⟩ root).toOption.any fun document =>
        let result := Store.empty.insertOval .redhat
          ⟨some Family.redhat.name, some "7", document.definitions⟩
          ⟨some "rhel-7.oval.xml.bz2", .moment ⟨document.timestamp, none⟩⟩
        decide (result.1.toOption = some true ∧
          (∃ e ∈ describedBy .redhat "7" root, Oval.referencesName "CVE-2099-0002" e = true) ∧
          result.2.byCve .redhat (some "7") (some "CVE-2099-0002") = [] ∧
          (result.2.byCve .redhat (some "7") (some "CVE-2099-0001")).map (·.definitionId) =
            [some "a"])) = true := by
    decide +kernel
  obtain ⟨root, hroot, hcheck⟩ := (Option.any_eq_true ..).mp hcheck
  obtain ⟨document, hd, hresult⟩ := (Option.any_eq_true ..).mp hcheck
  obtain ⟨hstored, hsearch⟩ := of_decide_eq_true hresult
  have hparse : Oval.Document.parse ⟨Family.redhat.name, "7"⟩ update = .ok document := by
    rw [Oval.Document.parse_of_root (eq_ok_of_toOption hroot), eq_ok_of_toOption hd]
  rw [store_fresh]
  exact ⟨document, root, _, hparse, eq_ok_of_toOption hroot, Prod.ext (eq_ok_of_toOption hstored) rfl, hsearch⟩

theorem cve_search_misses_reference : ∃ document root u,
    Oval.Document.parse ⟨Family.redhat.name, "7"⟩ update = .ok document ∧
      Xml.Document.parse update = .ok root ∧
      Database.fresh.store.insertOval .redhat ⟨some Family.redhat.name, some "7", document.definitions⟩
        ⟨some "rhel-7.oval.xml.bz2", .moment ⟨document.timestamp, none⟩⟩ = (.ok true, u) ∧
      (∃ e ∈ describedBy .redhat "7" root,
        (Oval.advisoryNames "CVE-2099-0002" e || Oval.referencesName "CVE-2099-0002" e) = true) ∧
      lookup .redhat (some (Release.majorVersion "7")) (some "CVE-2099-0002") .cve (.live u) = .ok [] := by
  obtain ⟨document, root, u, hd, hroot, hu, ⟨e, he, hrefers⟩, hmissed, _⟩ := update_stored
  refine ⟨document, root, u, hd, hroot, hu, ⟨e, he, by rw [hrefers, Bool.or_true]⟩, ?_⟩
  exact congrArg Except.ok hmissed

theorem cve_search_exact_for_update : ∃ document root u,
    Oval.Document.parse ⟨Family.redhat.name, "7"⟩ update = .ok document ∧
      Xml.Document.parse update = .ok root ∧
      Database.fresh.store.insertOval .redhat ⟨some Family.redhat.name, some "7", document.definitions⟩
        ⟨some "rhel-7.oval.xml.bz2", .moment ⟨document.timestamp, none⟩⟩ = (.ok true, u) ∧
      ∃ found, lookup .redhat (some (Release.majorVersion "7")) (some "CVE-2099-0001") .cve (.live u) =
          .ok found ∧
        found.map (·.definitionId) = [some "a"] ∧
        found.map Definition.content =
          ((describedBy .redhat "7" root).filter (namesCve "CVE-2099-0001")).map fun e =>
            ((definition ⟨Family.redhat.name, "7"⟩ (e.attributeText "id") e).shownBy .redhat).content := by
  obtain ⟨document, _, u, hd, _, hu, _, _, hids⟩ := update_stored
  obtain ⟨root, u', hroot, _, hu', hfound⟩ :=
    cve_search_exact (f := .redhat) (by decide) (by decide) (by decide : "rhel-7.oval.xml.bz2" ≠ "") hd
  obtain ⟨found, hlookup, hcontents⟩ := hfound "CVE-2099-0001" (by decide)
  cases hu.symm.trans hu'
  cases hlookup
  exact ⟨document, root, u, hd, hroot, hu, _, rfl, hids, hcontents⟩

end Store

end OvalCatalog
