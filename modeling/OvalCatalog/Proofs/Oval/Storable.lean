import OvalCatalog.Proofs.Content
import OvalCatalog.Proofs.Oval.Criteria
import OvalCatalog.Proofs.Oval.Document
import OvalCatalog.Proofs.Store.Snapshot

namespace OvalCatalog

def Definition.Storable (d : Definition) : Prop :=
  d.lacks? = none

theorem Package.name_ofComment? {comment : String} {p : Package} (h : Package.ofComment? comment = some p) :
    Given p.name := by
  obtain ⟨_, h⟩ := (ofComment?_eq_some_iff comment p).mp h
  obtain ⟨name, hname, hword⟩ := h.exists_name
  rw [hname]
  exact ⟨nofun, fun he => hword.1 (Option.some.inj he)⟩

namespace Oval

open Xml (Element)

theorem cveId_listedCves (advisory : Element) : ∀ c ∈ listedCves advisory, Given c.cveId := by
  intro c hc
  obtain ⟨e, he, rfl⟩ := List.mem_map.mp hc
  have hcontent : e.content ≠ "" := by simpa using (List.mem_filter.mp he).2
  exact ⟨nofun, fun h => hcontent (Option.some.inj h)⟩

theorem cveId_referredCves {references : List Reference} (h : ∀ r ∈ references, r.refId ≠ none) :
    ∀ c ∈ referredCves references, Given c.cveId := by
  intro c hc
  obtain ⟨r, hr, rfl⟩ := List.mem_map.mp hc
  obtain ⟨hr, hp⟩ := List.mem_filter.mp hr
  have hid : r.refId ≠ some "" := by simpa using (Bool.and_eq_true_iff.mp hp).2
  exact ⟨h r hr, hid⟩

theorem refId_references (metadata : Element) : ∀ r ∈ references metadata, r.refId ≠ none := by
  intro r hr
  obtain ⟨e, _, rfl⟩ := List.mem_map.mp hr
  nofun

theorem cves_advisoryOf (metadata : Element) (references : List Reference) :
    (advisoryOf metadata references).cves =
      let listed := (metadata.child? "advisory").toList.flatMap listedCves
      if listed.isEmpty then referredCves references else listed := by
  unfold advisoryOf
  cases metadata.child? "advisory" with
  | none => rfl
  | some advisory => simp [describedAdvisory]

theorem cveId_advisoryOf (metadata : Element) :
    ∀ c ∈ (advisoryOf metadata (references metadata)).cves, Given c.cveId := by
  rw [cves_advisoryOf]
  intro c hc
  dsimp only at hc
  split at hc
  · exact cveId_referredCves (refId_references metadata) c hc
  · obtain ⟨advisory, _, hc⟩ := List.mem_flatMap.mp hc
    exact cveId_listedCves advisory c hc

section Conversion

variable (target : Target) (id : String) (e : Element)

theorem packages_definition : ∀ p ∈ (definition target id e).packages, Given p.name := by
  intro p hp
  obtain ⟨_, _, _, hp⟩ := (mem_packages_iff target id e p).mp hp
  exact Package.name_ofComment? hp

theorem cves_definition : ∀ a ∈ (definition target id e).advisory, ∀ c ∈ a.cves, Given c.cveId := by
  rintro a ⟨⟩
  exact cveId_advisoryOf (metadataOf e)

theorem storable_definition : (definition target id e).Storable := by
  refine (Definition.lacks?_eq_none_iff _).mpr ⟨fun p hp => ?_, fun a ha c hc => ?_⟩
  · exact (packages_definition target id e p hp).1
  · exact (cves_definition target id e a ha c hc).1

end Conversion

theorem Document.storable {target : Target} {bytes : List UInt8} {document : Document}
    (h : Document.parse target bytes = .ok document) : ∀ d ∈ document.definitions, d.Storable := by
  intro d hd
  obtain ⟨id, e, rfl⟩ := Document.exists_of_mem h d hd
  exact storable_definition target id e

end Oval

end OvalCatalog
