import OvalCatalog.Proofs.Dictionary
import OvalCatalog.Proofs.Oval.Storable
import OvalCatalog.Proofs.Store.Failure

/-! From a document into the store. Whatever is read from a document has all that the store asks for, so that
a document that can be read can be stored, and what is stored is what the elements of the document say. -/

namespace OvalCatalog

structure Definition.Named (d : Definition) : Prop where
  definitionId : Given d.definitionId
  packages : ∀ p ∈ d.packages, Given p.name
  cves : ∀ a ∈ d.advisory, ∀ c ∈ a.cves, Given c.cveId

namespace Oval

open Xml (Element)

def listsPlatform (platform : String) (e : Element) : Bool :=
  ((e.child? "metadata").bind (·.child? "affected")).any fun affected =>
    (affected.childrenNamed "platform").any fun p => p.content == platform

/-- The elements that describe the definitions of a version. An inventory describes none, and Oracle's documents
have the definitions of all releases. -/
def describedBy (f : Family) (osVersion : String) (root : Element) : List Element :=
  ((root.child? "definitions").toList.flatMap (·.childrenNamed "definition")).filter fun e =>
    e.attribute? "class" != some "inventory" &&
      (f != .oracle || listsPlatform ("Oracle Linux " ++ Release.majorVersion osVersion) e)

section Metadata

variable (name : String) (e : Element)

theorem child?_metadataOf : (metadataOf e).child? name = (e.child? "metadata").bind (·.child? name) := by
  unfold metadataOf
  cases e.child? "metadata" <;> rfl

theorem childrenNamed_metadataOf :
    (metadataOf e).childrenNamed name = (e.child? "metadata").toList.flatMap (·.childrenNamed name) := by
  unfold metadataOf
  cases e.child? "metadata" with
  | none => rfl
  | some metadata => simp

end Metadata

theorem appliesToOracle_metadataOf (osVersion : String) (e : Element) :
    appliesToOracle osVersion (metadataOf e) =
      listsPlatform ("Oracle Linux " ++ Release.majorVersion osVersion) e := by
  rw [appliesToOracle, child?_metadataOf, listsPlatform]
  cases (e.child? "metadata").bind (·.child? "affected") <;> rfl

theorem applies_eq (f : Family) (osVersion : String) (e : Element) :
    applies ⟨f.name, osVersion⟩ e =
      (f != .oracle || listsPlatform ("Oracle Linux " ++ Release.majorVersion osVersion) e) := by
  have hfamily : (f.name != Family.oracle.name) = (f != .oracle) := by
    cases f <;> decide
  rw [applies, hfamily, appliesToOracle_metadataOf]

theorem filter_applies (f : Family) (osVersion : String) (root : Element) :
    (definitionElements root).filter (applies ⟨f.name, osVersion⟩) = describedBy f osVersion root := by
  have hlist : definitionElements root =
      ((root.child? "definitions").toList.flatMap (·.childrenNamed "definition")).filter fun e =>
        e.attribute? "class" != some "inventory" := by
    unfold definitionElements
    cases root.child? "definitions" <;> simp
  rw [hlist, List.filter_filter, describedBy]
  apply List.filter_congr
  intro e _
  rw [applies_eq, Bool.and_comm]

namespace Document

variable {f : Family} {osVersion : String} {bytes : List UInt8} {document : Document}

theorem definitions_eq (hd : Document.parse ⟨f.name, osVersion⟩ bytes = .ok document) :
    ∃ root, Xml.Document.parse bytes = .ok root ∧
      (∀ e ∈ describedBy f osVersion root, e.attributeText "id" ≠ "") ∧
      document.definitions = (describedBy f osVersion root).map fun e =>
        definition ⟨f.name, osVersion⟩ (e.attributeText "id") e := by
  obtain ⟨root, hroot, _, hids, hdefinitions⟩ := parse_eq_ok_iff.mp hd
  rw [filter_applies] at hdefinitions
  refine ⟨root, hroot, fun e he => hids e ?_, hdefinitions⟩
  rw [← filter_applies] at he
  exact (List.mem_filter.mp he).1

theorem named (hd : Document.parse ⟨f.name, osVersion⟩ bytes = .ok document) :
    ∀ d ∈ document.definitions, d.Named := by
  obtain ⟨root, _, hids, hdefinitions⟩ := definitions_eq hd
  rw [hdefinitions, List.forall_mem_map]
  intro e he
  have hid : Given (some (e.attributeText "id")) := (given_iff_getD _).mpr (hids e he)
  exact ⟨hid, packages_definition _ _ e, cves_definition _ _ e⟩

def snapshot (f : Family) (osVersion fileName : String) (document : Document) : Snapshot :=
  ⟨f, osVersion, fileName, ⟨document.timestamp, none⟩, document.definitions⟩

theorem snapshot_of (hd : Document.parse ⟨f.name, osVersion⟩ bytes = .ok document) (hv : osVersion ≠ "")
    {fileName : String} (hn : fileName ≠ "") :
    Snapshot.of f ⟨some f.name, some osVersion, document.definitions⟩
      ⟨some fileName, .moment ⟨document.timestamp, none⟩⟩ = .ok (document.snapshot f osVersion fileName) := by
  have hcomplete : Complete f ⟨some f.name, some osVersion, document.definitions⟩
      ⟨some fileName, .moment ⟨document.timestamp, none⟩⟩ :=
    ⟨rfl, (given_iff_getD _).mpr hv, (given_iff_getD _).mpr hn, ⟨_, rfl⟩, fun d hmem => (named hd d hmem).definitionId⟩
  cases hx : Snapshot.of f ⟨some f.name, some osVersion, document.definitions⟩
      ⟨some fileName, .moment ⟨document.timestamp, none⟩⟩ with
  | error m => exact absurd hcomplete (Snapshot.of_error hx)
  | ok x => rw [(Snapshot.of_ok hx).2.eq, snapshot]

theorem note_snapshot (hd : Document.parse ⟨f.name, osVersion⟩ bytes = .ok document) (fileName : String) :
    (document.snapshot f osVersion fileName).note = .ok document.timestamp := by
  have hnone : document.definitions.findSome? Definition.lacks? = none :=
    List.findSome?_eq_none_iff.mpr (storable hd)
  rw [Snapshot.note, snapshot, hnone]
  rfl

end Document

end Oval

namespace Store

variable {s : Store} {trees : List DefinitionTree}

theorem Holds.refresh_of_note (h : s.Holds trees) {x : Snapshot} {t : Time.Timestamp} (hn : x.note = .ok t) :
    (s.timeOf x.fileName = some t ∧ s.refresh x = (.ok false, s)) ∨
      (s.timeOf x.fileName ≠ some t ∧ ∃ u grown, s.refresh x = (.ok true, u) ∧ s.Replaced trees x t u grown) := by
  have hr := h.refresh x
  have htime : x.fetchMeta.timestamp.normalize = .ok t := (note_ok hn).2
  have hfetched : s.isFetched x.fetchMeta = .ok true ↔ s.timeOf x.fileName = some t := by
    rw [isFetched_eq_true_iff, htime]
    simp [Snapshot.fetchMeta]
  rcases hy : s.refresh x with ⟨e | ⟨⟨⟩⟩, u⟩ <;> rw [hy] at hr
  · obtain ⟨_, _, cause, _, hf | ⟨_, hnote⟩⟩ := hr
    · cases htime.symm.trans (isFetched_error hf)
    · cases hn.symm.trans hnote
  · obtain ⟨hf, rfl⟩ := hr
    exact .inl ⟨hfetched.mp hf, rfl⟩
  · obtain ⟨hf, t', grown, hnote, hreplaced⟩ := hr
    cases hn.symm.trans hnote
    refine .inr ⟨fun he => ?_, u, grown, rfl, hreplaced⟩
    cases hf.symm.trans (hfetched.mpr he)

open Oval (describedBy definition)

/-- Nothing is lost between a document and the store. What is read are the definitions of the elements that
describe one for the version, in their order, each with all its names; and calls with them never fail,
whatever was stored before: the definitions become those of the version, or the log has the time of the
document for the file already. -/
theorem documents_storable {f : Family} {osVersion : String} {bytes : List UInt8} {document : Oval.Document}
    (hd : Oval.Document.parse ⟨f.name, osVersion⟩ bytes = .ok document) :
    (∃ root, Xml.Document.parse bytes = .ok root ∧
      document.definitions = (describedBy f osVersion root).map (fun e =>
        definition ⟨f.name, osVersion⟩ (e.attributeText "id") e) ∧
      document.definitions.map (·.definitionId) = (describedBy f osVersion root).map (·.attribute? "id")) ∧
    (∀ d ∈ document.definitions, d.Named) ∧
    ∀ (calls : List Call) (fileName : String), osVersion ≠ "" → fileName ≠ "" →
      ∃ stored u, (reached calls).insertOval f ⟨some f.name, some osVersion, document.definitions⟩
          ⟨some fileName, .moment ⟨document.timestamp, none⟩⟩ = (.ok stored, u) ∧
        (stored = false ↔ (reached calls).timeOf fileName = some document.timestamp) ∧
        (stored = true →
          u.dictionary.entries f.name osVersion = some (document.definitions.map Definition.content)) := by
  refine ⟨?_, Oval.Document.named hd, fun calls fileName hv hn => ?_⟩
  · obtain ⟨root, hroot, hids, hdefinitions⟩ := Oval.Document.definitions_eq hd
    refine ⟨root, hroot, hdefinitions, ?_⟩
    rw [hdefinitions, List.map_map]
    apply List.map_congr_left
    intro e he
    have hid := hids e he
    unfold Xml.Element.attributeText at hid
    cases ha : e.attribute? "id" with
    | none => simp [ha] at hid
    | some id => simp [definition, Xml.Element.attributeText, ha]
  · obtain ⟨trees, h⟩ := reached_holds calls
    rw [insertOval_of_ok (Oval.Document.snapshot_of hd hv hn)]
    rcases h.refresh_of_note (Oval.Document.note_snapshot hd fileName) with
      ⟨htime, he⟩ | ⟨htime, u, grown, he, hreplaced⟩
    · exact ⟨false, _, he, iff_of_true rfl htime, by simp⟩
    · refine ⟨true, u, he, iff_of_false (by simp) htime, fun _ => ?_⟩
      rw [hreplaced.dictionary h]
      exact if_pos ⟨rfl, rfl⟩

def errata : List UInt8 :=
  ("<d><generator><timestamp>2099-01-01T00:00:00</timestamp></generator><definitions>" ++
    "<definition id=\"i\" class=\"inventory\"/><definition id=\"a\"><metadata><affected>" ++
    "<platform>Oracle Linux 7</platform></affected></metadata><criteria>" ++
    "<criterion comment=\"curl is earlier than 1\"/></criteria></definition>" ++
    "<definition id=\"b\"/></definitions></d>").toUTF8.toList

theorem documents_storable_for_errata : ∃ document,
    Oval.Document.parse ⟨Family.oracle.name, "7.4"⟩ errata = .ok document ∧
      (document.definitions.map fun d => (d.definitionId, d.packages.map (·.name))) =
        [(some "a", [some "curl"])] ∧
      (∃ root, Xml.Document.parse errata = .ok root ∧
        document.definitions.map (·.definitionId) =
          (describedBy .oracle "7.4" root).map (·.attribute? "id")) ∧
      (∀ d ∈ document.definitions, d.Named) ∧
      ∃ stored u, (reached []).insertOval .oracle
          ⟨some Family.oracle.name, some "7.4", document.definitions⟩
          ⟨some "com.oracle.elsa-ol7.xml.bz2", .moment ⟨document.timestamp, none⟩⟩ = (.ok stored, u) ∧
        (stored = false ↔ (reached []).timeOf "com.oracle.elsa-ol7.xml.bz2" = some document.timestamp) ∧
        (stored = true → u.dictionary.entries Family.oracle.name "7.4" =
          some (document.definitions.map Definition.content)) := by
  have hcheck : (Oval.Document.parse ⟨Family.oracle.name, "7.4"⟩ errata).toOption.any (fun document =>
      decide ((document.definitions.map fun d => (d.definitionId, d.packages.map (·.name))) =
        [(some "a", [some "curl"])])) = true := by
    decide +kernel
  obtain ⟨document, hread, hdefinitions⟩ := (Option.any_eq_true ..).mp hcheck
  have hd := eq_ok_of_toOption hread
  obtain ⟨⟨root, hroot, _, hids⟩, hnamed, hstored⟩ := documents_storable hd
  exact ⟨document, hd, of_decide_eq_true hdefinitions, ⟨root, hroot, hids⟩, hnamed,
    hstored [] "com.oracle.elsa-ol7.xml.bz2" (by decide) (by decide)⟩

end Store

end OvalCatalog
