import OvalCatalog.Proofs.Intake

/-! Whom a document is read for. The target decides on the release of the packages, on a record that Debian's
definitions have, and on the definitions that Oracle's documents have for other releases; all else is the same for
every target, and so is whether the document can be read. -/

namespace OvalCatalog.Oval

open Xml (Element)

theorem affectedPackages_congr {v v' : String} (hmajor : Release.majorVersion v = Release.majorVersion v') :
    affectedPackages v = affectedPackages v' := by
  have hrelease : Release.major v.toList = Release.major v'.toList := by
    simpa [Release.majorVersion] using congrArg String.toList hmajor
  funext criteria
  rw [affectedPackages, affectedPackages, hrelease]

def debianFor (family : String) (e : Element) : Option Debian :=
  if family = Family.debian.name then
    some (debianOf ((metadataOf e).childContent "title") (metadataOf e))
  else none

theorem definition_eq (family family' : String) {v v' : String}
    (hmajor : Release.majorVersion v = Release.majorVersion v') (id : String) (e : Element) :
    definition ⟨family, v⟩ id e = { definition ⟨family', v'⟩ id e with debian := debianFor family e } := by
  simp only [definition, debianFor, affectedPackages_congr hmajor]

theorem applies_eq_listsPlatform (family osVersion : String) (e : Element) :
    applies ⟨family, osVersion⟩ e = (family != Family.oracle.name ||
      listsPlatform ("Oracle Linux " ++ Release.majorVersion osVersion) e) := by
  rw [applies, appliesToOracle_metadataOf]

theorem filter_applies_of_ne_oracle {family : String} (h : family ≠ Family.oracle.name) (osVersion : String)
    (elements : List Element) : elements.filter (applies ⟨family, osVersion⟩) = elements := by
  rw [List.filter_eq_self]
  intro e _
  rw [applies_eq_listsPlatform, bne_iff_ne.mpr h, Bool.true_or]

def timestampFor (family osVersion : String) (bytes : List UInt8) : Option Time.Timestamp :=
  (Document.parse ⟨family, osVersion⟩ bytes).toOption.map (·.timestamp)

def definitionsFor (family osVersion : String) (bytes : List UInt8) : Option (List Definition) :=
  (Document.parse ⟨family, osVersion⟩ bytes).toOption.map (·.definitions)

theorem readFor_cases (bytes : List UInt8) :
    (∀ family osVersion, timestampFor family osVersion bytes = none ∧
      definitionsFor family osVersion bytes = none) ∨
    ∃ root t, Xml.Document.parse bytes = .ok root ∧ ∀ family osVersion,
      timestampFor family osVersion bytes = some t ∧
        definitionsFor family osVersion bytes = some (((definitionElements root).filter
          (applies ⟨family, osVersion⟩)).map fun e => definition ⟨family, osVersion⟩ (e.attributeText "id") e) := by
  by_cases h : ∃ target document, Document.parse target bytes = .ok document
  · obtain ⟨target, document, hd⟩ := h
    obtain ⟨root, hroot, hread⟩ := Document.parse_of_ok hd
    refine .inr ⟨root, document.timestamp, hroot, fun family osVersion => ?_⟩
    rw [timestampFor, definitionsFor, hread]
    exact ⟨rfl, rfl⟩
  · refine .inl fun family osVersion => ?_
    rw [timestampFor, definitionsFor]
    cases hd : Document.parse ⟨family, osVersion⟩ bytes with
    | error e => exact ⟨rfl, rfl⟩
    | ok document => exact absurd ⟨_, document, hd⟩ h

/-- Families without a rule of their own. -/
def IsPlain (family : String) : Prop :=
  family ≠ Family.oracle.name ∧ family ≠ Family.debian.name

def withoutDebian (d : Definition) : Definition :=
  { d with debian := none }

theorem IsPlain.definition_eq {family : String} (h : IsPlain family) (family' osVersion id : String) (e : Element) :
    definition ⟨family, osVersion⟩ id e = withoutDebian (definition ⟨family', osVersion⟩ id e) := by
  rw [Oval.definition_eq family family' rfl, debianFor, if_neg h.2, withoutDebian]

theorem timestampFor_eq (bytes : List UInt8) (family family' v v' : String) :
    timestampFor family v bytes = timestampFor family' v' bytes := by
  rcases readFor_cases bytes with hnone | ⟨_, _, _, hread⟩
  · rw [(hnone family v).1, (hnone family' v').1]
  · rw [(hread family v).1, (hread family' v').1]

theorem definitionsFor_congr (bytes : List UInt8) (family : String) {v v' : String}
    (hmajor : Release.majorVersion v = Release.majorVersion v') :
    definitionsFor family v bytes = definitionsFor family v' bytes := by
  rcases readFor_cases bytes with hnone | ⟨root, _, _, hread⟩
  · rw [(hnone family v).2, (hnone family v').2]
  · have happlies : applies ⟨family, v⟩ = applies ⟨family, v'⟩ := by
      funext e
      rw [applies_eq_listsPlatform, applies_eq_listsPlatform, hmajor]
    have hdefinition (e : Element) : definition ⟨family, v⟩ (e.attributeText "id") e =
        definition ⟨family, v'⟩ (e.attributeText "id") e := definition_eq family family hmajor _ e
    rw [(hread family v).2, (hread family v').2, happlies]
    simp only [hdefinition]

section Plain

variable {family : String} (hfamily : IsPlain family) (v : String) {bytes : List UInt8}
include hfamily

theorem IsPlain.definitionsFor_debian :
    (definitionsFor Family.debian.name v bytes).map (·.map withoutDebian) = definitionsFor family v bytes := by
  rcases readFor_cases bytes with hnone | ⟨root, _, _, hread⟩
  · rw [(hnone _ v).2, (hnone family v).2, Option.map_none]
  · rw [(hread _ v).2, (hread family v).2, filter_applies_of_ne_oracle (by decide),
      filter_applies_of_ne_oracle hfamily.1, Option.map_some, List.map_map]
    simp only [Function.comp_def, ← hfamily.definition_eq]

theorem IsPlain.definitionsFor_eq {family' : String} (hfamily' : IsPlain family') :
    definitionsFor family' v bytes = definitionsFor family v bytes :=
  (hfamily'.definitionsFor_debian v).symm.trans (hfamily.definitionsFor_debian v)

theorem IsPlain.definitionsFor_oracle {ds : List Definition} (hds : definitionsFor family v bytes = some ds) :
    ∃ root, Xml.Document.parse bytes = .ok root ∧
      ds = (definitionElements root).map (fun e => definition ⟨family, v⟩ (e.attributeText "id") e) ∧
      definitionsFor Family.oracle.name v bytes = some (((definitionElements root).filter
        (listsPlatform ("Oracle Linux " ++ Release.majorVersion v))).map fun e =>
          definition ⟨family, v⟩ (e.attributeText "id") e) := by
  rcases readFor_cases bytes with hnone | ⟨root, _, hroot, hread⟩
  · cases (hnone family v).2.symm.trans hds
  · have happlies : applies ⟨Family.oracle.name, v⟩ =
        listsPlatform ("Oracle Linux " ++ Release.majorVersion v) := by
      funext e
      rw [applies_eq_listsPlatform, bne_self_eq_false, Bool.false_or]
    have hdefinition (e : Element) : definition ⟨Family.oracle.name, v⟩ (e.attributeText "id") e =
        definition ⟨family, v⟩ (e.attributeText "id") e := by
      rw [hfamily.definition_eq Family.oracle.name]
      rfl
    refine ⟨root, hroot, ?_, ?_⟩
    · rw [← Option.some.inj ((hread family v).2.symm.trans hds), filter_applies_of_ne_oracle hfamily.1]
    · rw [(hread _ v).2, happlies]
      simp only [hdefinition]

end Plain

theorem debian_definitionsFor {v : String} {bytes : List UInt8} {ds : List Definition}
    (hds : definitionsFor Family.debian.name v bytes = some ds) : ∀ d ∈ ds, d.debian ≠ none := by
  rcases readFor_cases bytes with hnone | ⟨root, _, _, hread⟩
  · cases (hnone Family.debian.name v).2.symm.trans hds
  · rw [← Option.some.inj ((hread Family.debian.name v).2.symm.trans hds), List.forall_mem_map]
    intro e _
    rw [definition, if_pos rfl]
    exact Option.some_ne_none _

/-- What the family and the version of a target decide. Neither of them decides whether a document can be read, or
when it was generated. The definitions depend on the version by its major part only. They are the same for all
families but two: those of Debian have a record of their own as well, and those of Oracle are only the ones that
list the release among their platforms. -/
theorem targets_read_alike (bytes : List UInt8) :
    (∀ family family' v v', timestampFor family v bytes = timestampFor family' v' bytes) ∧
    (∀ family v v', Release.majorVersion v = Release.majorVersion v' →
      definitionsFor family v bytes = definitionsFor family v' bytes) ∧
    ∀ family v, IsPlain family →
      (∀ family', IsPlain family' → definitionsFor family' v bytes = definitionsFor family v bytes) ∧
      (definitionsFor Family.debian.name v bytes).map (·.map withoutDebian) = definitionsFor family v bytes ∧
      (∀ ds, definitionsFor Family.debian.name v bytes = some ds → ∀ d ∈ ds, d.debian ≠ none) ∧
      ∀ ds, definitionsFor family v bytes = some ds → ∃ root, Xml.Document.parse bytes = .ok root ∧
        ds = (definitionElements root).map (fun e => definition ⟨family, v⟩ (e.attributeText "id") e) ∧
        definitionsFor Family.oracle.name v bytes = some (((definitionElements root).filter
          (listsPlatform ("Oracle Linux " ++ Release.majorVersion v))).map fun e =>
            definition ⟨family, v⟩ (e.attributeText "id") e) :=
  ⟨timestampFor_eq bytes, fun family _ _ => definitionsFor_congr bytes family, fun _ v hfamily =>
    ⟨fun _ hfamily' => hfamily.definitionsFor_eq v hfamily', hfamily.definitionsFor_debian v,
      fun _ => debian_definitionsFor, fun _ => hfamily.definitionsFor_oracle v⟩⟩

def errataOfReleases : List UInt8 :=
  ("<d><generator><timestamp>2099-01-01T00:00:00</timestamp></generator><definitions>" ++
    "<definition id=\"a\"><metadata><affected><platform>Oracle Linux 7</platform></affected></metadata>" ++
    "</definition><definition id=\"b\"/></definitions></d>").toUTF8.toList

theorem targets_read_alike_for_errata :
    IsPlain "redhat" ∧ IsPlain "opensuse" ∧ Release.majorVersion "7.4" = Release.majorVersion "7" ∧
      definitionsFor "redhat" "7.4" errataOfReleases = definitionsFor "redhat" "7" errataOfReleases ∧
      definitionsFor "opensuse" "7" errataOfReleases = definitionsFor "redhat" "7" errataOfReleases ∧
      ∃ plain debian oracle, definitionsFor "redhat" "7" errataOfReleases = some plain ∧
        plain.map (·.definitionId) = [some "a", some "b"] ∧
        definitionsFor "debian" "7" errataOfReleases = some debian ∧ debian.map withoutDebian = plain ∧
        (∀ d ∈ debian, d.debian ≠ none) ∧
        definitionsFor "oracle" "7" errataOfReleases = some oracle ∧ oracle = plain.take 1 := by
  have hcheck : (Xml.Document.parse errataOfReleases).toOption.any (fun root =>
      (Document.ofElement ⟨"redhat", "7"⟩ root).toOption.any fun plain =>
        decide (plain.definitions.map (·.definitionId) = [some "a", some "b"] ∧
          ((definitionElements root).filter (listsPlatform "Oracle Linux 7")).map (fun e =>
            definition ⟨"redhat", "7"⟩ (e.attributeText "id") e) = plain.definitions.take 1)) = true := by
    decide +kernel
  obtain ⟨root, hroot, hcheck⟩ := (Option.any_eq_true ..).mp hcheck
  obtain ⟨plain, hplain, hcheck⟩ := (Option.any_eq_true ..).mp hcheck
  obtain ⟨hids, horacle⟩ := of_decide_eq_true hcheck
  have hread : definitionsFor "redhat" "7" errataOfReleases = some plain.definitions := by
    rw [definitionsFor, Document.parse_of_root (eq_ok_of_toOption hroot), hplain, Option.map_some]
  have hredhat : IsPlain "redhat" := ⟨by decide, by decide⟩
  have hopensuse : IsPlain "opensuse" := ⟨by decide, by decide⟩
  have hmajor : Release.majorVersion "7.4" = Release.majorVersion "7" := by decide
  obtain ⟨-, hversions, hfamilies⟩ := targets_read_alike errataOfReleases
  obtain ⟨hplains, hdebian, hrecords, horacles⟩ := hfamilies "redhat" "7" hredhat
  rw [hread] at hdebian
  obtain ⟨debian, hdebian, hwithout⟩ := Option.map_eq_some_iff.mp hdebian
  obtain ⟨root', hroot', -, horacles⟩ := horacles _ hread
  cases (eq_ok_of_toOption hroot).symm.trans hroot'
  exact ⟨hredhat, hopensuse, hmajor, hversions "redhat" "7.4" "7" hmajor, hplains "opensuse" hopensuse,
    plain.definitions, debian, _, hread, hids, hdebian, hwithout, hrecords debian hdebian, horacles, horacle⟩

end OvalCatalog.Oval
