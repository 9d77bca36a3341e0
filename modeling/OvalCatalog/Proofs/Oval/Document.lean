import OvalCatalog.Oval.Document
import OvalCatalog.Proofs.Result

namespace OvalCatalog.Oval

open Xml (Element)

theorem convert_eq_ok_iff {target : Target} {elements : List Element} {definitions : List Definition} :
    convert target elements = .ok definitions ↔ (∀ e ∈ elements, e.attributeText "id" ≠ "") ∧
      definitions = (elements.filter (applies target)).map fun e =>
        definition target (e.attributeText "id") e := by
  induction elements generalizing definitions with
  | nil =>
    constructor
    · rintro ⟨⟩
      exact ⟨nofun, rfl⟩
    · rintro ⟨-, rfl⟩
      rfl
  | cons e rest ih =>
    rw [convert, List.forall_mem_cons, List.filter_cons]
    split
    · next hid => exact iff_of_false nofun fun h => h.1.1 hid
    · next hid =>
      simp only [bind_eq_ok_iff, ih, and_assoc, exists_and_left, exists_eq_left]
      rw [and_iff_right hid, apply_ite (List.map _), List.map_cons]
      exact and_congr_right fun _ => ⟨fun h => (Except.ok.inj h).symm, fun h => congrArg Except.ok h.symm⟩

theorem timestampOf_of_ok {target : Target} {root : Element} {t : Time.Timestamp}
    (h : timestampOf target root = .ok t) (target' : Target) : timestampOf target' root = .ok t := by
  unfold timestampOf at h ⊢
  split
  · next hempty =>
    rw [hempty] at h
    cases h
  · split at h
    · cases h
    · exact h

namespace Document

variable {target : Target} {bytes : List UInt8} {document : Document}

theorem ofElement_eq_ok_iff {root : Element} : ofElement target root = .ok document ↔
    timestampOf target root = .ok document.timestamp ∧
      convert target (definitionElements root) = .ok document.definitions := by
  simp only [ofElement, bind_eq_ok_iff]
  constructor
  · rintro ⟨t, ht, ds, hds, ⟨⟩⟩
    exact ⟨ht, hds⟩
  · rintro ⟨ht, hds⟩
    exact ⟨_, ht, _, hds, rfl⟩

theorem parse_of_root {root : Element} (hroot : Xml.Document.parse bytes = .ok root) (target : Target) :
    parse target bytes = ofElement target root := by
  rw [parse, hroot]

theorem parse_eq_ok_iff : parse target bytes = .ok document ↔ ∃ root, Xml.Document.parse bytes = .ok root ∧
    timestampOf target root = .ok document.timestamp ∧
      (∀ e ∈ definitionElements root, e.attributeText "id" ≠ "") ∧
        document.definitions = ((definitionElements root).filter (applies target)).map fun e =>
          definition target (e.attributeText "id") e := by
  simp only [← convert_eq_ok_iff, ← ofElement_eq_ok_iff]
  constructor
  · intro h
    unfold parse at h
    split at h
    · cases h
    · cases h
    · next root hroot => exact ⟨root, hroot, h⟩
  · rintro ⟨root, hroot, h⟩
    exact (parse_of_root hroot target).trans h

theorem parse_of_ok (h : parse target bytes = .ok document) : ∃ root, Xml.Document.parse bytes = .ok root ∧
    ∀ target', parse target' bytes = .ok ⟨document.timestamp,
      ((definitionElements root).filter (applies target')).map fun e =>
        definition target' (e.attributeText "id") e⟩ := by
  obtain ⟨root, hroot, ht, hids, _⟩ := parse_eq_ok_iff.mp h
  exact ⟨root, hroot, fun target' => parse_eq_ok_iff.mpr ⟨root, hroot, timestampOf_of_ok ht target', hids, rfl⟩⟩

theorem timestamp_eq {target' : Target} {document' : Document} (h : parse target bytes = .ok document)
    (h' : parse target' bytes = .ok document') : document.timestamp = document'.timestamp := by
  obtain ⟨_, _, hread⟩ := parse_of_ok h
  cases h'.symm.trans (hread target')
  rfl

theorem exists_of_mem (h : parse target bytes = .ok document) :
    ∀ d ∈ document.definitions, ∃ id e, d = definition target id e := by
  obtain ⟨_, _, _, _, hdefinitions⟩ := parse_eq_ok_iff.mp h
  rw [hdefinitions, List.forall_mem_map]
  exact fun e _ => ⟨_, e, rfl⟩

end Document

end OvalCatalog.Oval
