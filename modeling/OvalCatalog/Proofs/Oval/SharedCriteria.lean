import OvalCatalog.Proofs.Intake
import OvalCatalog.Proofs.Oval.Criteria

/-! Criteria that name more than one release. They are read as if they named the last one only, so that a package
in them is lost to the releases before it, unless it is found elsewhere. -/

namespace OvalCatalog.Oval

open Xml (Element)

theorem Place.inScope_iff_namesLast {release : String} {p : Place} {criteria : Element} {outer : List Element}
    (haround : p.around = criteria :: outer) (hnames : ¬NamesNone criteria) :
    p.InScope release ↔ NamesLast release criteria := by
  rw [namesNone_iff] at hnames
  obtain ⟨r, hr⟩ := Option.ne_none_iff_exists'.mp hnames
  have hscope : scope? p.around = some r := by rw [haround, scope?, List.findSome?_cons, hr]
  rw [p.inScope_iff, hscope, namesLast_iff, hr]
  simp

/-- Which packages of criteria that name a release of Oracle Linux a document is read with for that release. -/
theorem shared_criteria_iff {osVersion : String} {bytes : List UInt8} {document : Document}
    (hd : Document.parse ⟨Family.oracle.name, osVersion⟩ bytes = .ok document) :
    ∃ root, Xml.Document.parse bytes = .ok root ∧
      document.definitions = (describedBy .oracle osVersion root).map (fun e =>
        definition ⟨Family.oracle.name, osVersion⟩ (e.attributeText "id") e) ∧
      ∀ e ∈ describedBy .oracle osVersion root, ∀ top criteria outer c p,
        e.child? "criteria" = some top → Reaches top criteria outer →
          c ∈ criteria.childrenNamed "criterion" → Package.ofComment? (comment c) = some p →
          (∃ d ∈ criteria.childrenNamed "criterion", NamesRelease (Release.majorVersion osVersion) d) →
          (p ∈ (definition ⟨Family.oracle.name, osVersion⟩ (e.attributeText "id") e).packages ↔
            NamesLast (Release.majorVersion osVersion) criteria ∨
              ∃ other ∈ placesOf e, other.around ≠ criteria :: outer ∧ other.package? = some p ∧
                other.InScope (Release.majorVersion osVersion)) := by
  obtain ⟨root, hroot, _, hdefinitions⟩ := Document.definitions_eq hd
  refine ⟨root, hroot, hdefinitions, ?_⟩
  rintro e _ top criteria outer c p htop hreaches hc hp ⟨d, hd, hnames⟩
  have hnone : ¬NamesNone criteria := fun h => h d hd _ hnames
  rw [mem_packages_iff]
  constructor
  · rintro ⟨place, hplace, hscope, hpackage⟩
    by_cases haround : place.around = criteria :: outer
    · exact .inl ((Place.inScope_iff_namesLast haround hnone).mp hscope)
    · exact .inr ⟨place, hplace, haround, hpackage, hscope⟩
  · rintro (hlast | ⟨other, hother, _, hpackage, hscope⟩)
    · have hplace := (mem_placesOf_iff e ⟨criteria :: outer, c⟩).mpr
        ⟨top, criteria, outer, htop, hreaches, rfl, hc⟩
      exact ⟨_, hplace, (Place.inScope_iff_namesLast rfl hnone).mpr hlast, hp⟩
    · exact ⟨other, hother, hscope, hpackage⟩

def sharedErratum : List UInt8 :=
  ("<d><generator><timestamp>2099-01-01T00:00:00</timestamp></generator><definitions>" ++
    "<definition id=\"a\"><metadata><affected><platform>Oracle Linux 6</platform>" ++
    "<platform>Oracle Linux 7</platform></affected></metadata><criteria>" ++
    "<criterion comment=\"Oracle Linux 6 is installed\"/><criterion comment=\"Oracle Linux 7 is installed\"/>" ++
    "<criterion comment=\"curl is earlier than 1\"/></criteria></definition></definitions></d>").toUTF8.toList

def curl : Package :=
  { name := some "curl", version := some "1" }

structure IsShared (root e top c : Element) (release : String) : Prop where
  isRead : (Document.ofElement ⟨Family.oracle.name, release⟩ root).toOption.isSome = true
  isDescribed : e ∈ describedBy .oracle release root
  isTop : e.child? "criteria" = some top
  isCriterion : c ∈ top.childrenNamed "criterion"
  isCurl : Package.ofComment? (comment c) = some curl
  isNamed : ∃ d ∈ top.childrenNamed "criterion", NamesRelease (Release.majorVersion release) d

theorem sharedErratum_read : ∃ root e top c, Xml.Document.parse sharedErratum = .ok root ∧
    IsShared root e top c "6" ∧ IsShared root e top c "7" ∧
      curl ∉ (definition ⟨Family.oracle.name, "6"⟩ (e.attributeText "id") e).packages ∧
        curl ∈ (definition ⟨Family.oracle.name, "7"⟩ (e.attributeText "id") e).packages := by
  have hcheck : (Xml.Document.parse sharedErratum).toOption.any (fun root =>
      (definitionElements root).any fun e => (e.child? "criteria").any fun top =>
        (top.childrenNamed "criterion").any fun c => decide (
          (∀ release ∈ ["6", "7"],
            (Document.ofElement ⟨Family.oracle.name, release⟩ root).toOption.isSome = true ∧
              applies ⟨Family.oracle.name, release⟩ e = true ∧
                ∃ d ∈ top.childrenNamed "criterion",
                  oracleRelease? (comment d) = some (Release.majorVersion release).toList) ∧
            Package.ofComment? (comment c) = some curl ∧
              curl ∉ (definition ⟨Family.oracle.name, "6"⟩ (e.attributeText "id") e).packages ∧
                curl ∈ (definition ⟨Family.oracle.name, "7"⟩ (e.attributeText "id") e).packages)) = true := by
    decide +kernel
  obtain ⟨root, hroot, hcheck⟩ := (Option.any_eq_true ..).mp hcheck
  obtain ⟨e, he, hcheck⟩ := List.any_eq_true.mp hcheck
  obtain ⟨top, htop, hcheck⟩ := (Option.any_eq_true ..).mp hcheck
  obtain ⟨c, hc, hcheck⟩ := List.any_eq_true.mp hcheck
  obtain ⟨hreleases, hcurl, hlost, hkept⟩ := of_decide_eq_true hcheck
  have hshared (release : String) (hrelease : release ∈ ["6", "7"]) : IsShared root e top c release := by
    obtain ⟨hread, happlies, d, hd, hnames⟩ := hreleases release hrelease
    refine ⟨hread, ?_, htop, hc, hcurl, d, hd, (namesRelease_iff _ d).mpr hnames⟩
    rw [← filter_applies]
    exact List.mem_filter.mpr ⟨he, happlies⟩
  exact ⟨root, e, top, c, eq_ok_of_toOption hroot, hshared "6" (by decide), hshared "7" (by decide), hlost, hkept⟩

theorem IsShared.parse {root e top c : Element} {release : String} (h : IsShared root e top c release)
    (hroot : Xml.Document.parse sharedErratum = .ok root) :
    ∃ document, Document.parse ⟨Family.oracle.name, release⟩ sharedErratum = .ok document := by
  obtain ⟨document, hd⟩ := Option.isSome_iff_exists.mp h.isRead
  exact ⟨document, (Document.parse_of_root hroot _).trans (eq_ok_of_toOption hd)⟩

theorem shared_package_lost : ∃ document root e top c,
    Document.parse ⟨Family.oracle.name, "6"⟩ sharedErratum = .ok document ∧
      Xml.Document.parse sharedErratum = .ok root ∧ e ∈ describedBy .oracle "6" root ∧
      listsPlatform "Oracle Linux 6" e = true ∧ e.child? "criteria" = some top ∧ Reaches top top [] ∧
      c ∈ top.childrenNamed "criterion" ∧ Package.ofComment? (comment c) = some curl ∧
      (∃ d ∈ top.childrenNamed "criterion", NamesRelease "6" d) ∧
      definition ⟨Family.oracle.name, "6"⟩ (e.attributeText "id") e ∈ document.definitions ∧
      curl ∉ (definition ⟨Family.oracle.name, "6"⟩ (e.attributeText "id") e).packages := by
  obtain ⟨root, e, top, c, hroot, hshared, -, hlost, -⟩ := sharedErratum_read
  obtain ⟨document, hd⟩ := hshared.parse hroot
  obtain ⟨-, he, htop, hc, hcurl, hnames⟩ := hshared
  obtain ⟨root', hroot', -, hdefinitions⟩ := Document.definitions_eq hd
  cases hroot.symm.trans hroot'
  refine ⟨document, root, e, top, c, hd, hroot, he, ?_, htop, .top, hc, hcurl, hnames, ?_, hlost⟩
  · exact (Bool.and_eq_true_iff.mp (List.mem_filter.mp he).2).2
  · rw [hdefinitions]
    exact List.mem_map_of_mem he

theorem shared_criteria_iff_for_last : ∃ document root e top c,
    Document.parse ⟨Family.oracle.name, "7"⟩ sharedErratum = .ok document ∧
      Xml.Document.parse sharedErratum = .ok root ∧ e ∈ describedBy .oracle "7" root ∧
      e.child? "criteria" = some top ∧ Reaches top top [] ∧ c ∈ top.childrenNamed "criterion" ∧
      Package.ofComment? (comment c) = some curl ∧
      (∃ d ∈ top.childrenNamed "criterion", NamesRelease "7" d) ∧
      (curl ∈ (definition ⟨Family.oracle.name, "7"⟩ (e.attributeText "id") e).packages ↔
        NamesLast "7" top ∨ ∃ other ∈ placesOf e, other.around ≠ [top] ∧ other.package? = some curl ∧
          other.InScope "7") ∧
      curl ∈ (definition ⟨Family.oracle.name, "7"⟩ (e.attributeText "id") e).packages := by
  obtain ⟨root, e, top, c, hroot, -, hshared, -, hkept⟩ := sharedErratum_read
  obtain ⟨document, hd⟩ := hshared.parse hroot
  obtain ⟨-, he, htop, hc, hcurl, hnames⟩ := hshared
  obtain ⟨root', hroot', -, hexact⟩ := shared_criteria_iff hd
  cases hroot.symm.trans hroot'
  exact ⟨document, root, e, top, c, hd, hroot, he, htop, .top, hc, hcurl, hnames,
    hexact e he top top [] c curl htop .top hc hcurl hnames, hkept⟩

end OvalCatalog.Oval
