import OvalCatalog.Proofs.Lookup
import OvalCatalog.Proofs.Oval.Storable

/-! Debian's shortcut: its lookup by a CVE starts from the record of Debian, which a document fills with the
title of the definition, and not from the CVEs of the advisory. The two ways agree for a CVE just if every
definition of the document that has it for its title lists it, and every one that lists it has it for its
title. -/

namespace OvalCatalog

def Definition.listsCve (cve : String) (d : Definition) : Bool :=
  d.advisory.any fun a => a.cves.any fun c => c.cveId == some cve

theorem Definition.listsCve_content (cve : String) (d : Definition) : d.content.listsCve cve = d.listsCve cve :=
  d.isNamed_content .redhat .cve (some cve)

theorem Oval.isNamed_definition {target : Target} (ht : target.family = Family.debian.name) (id : String)
    (e : Xml.Element) (cve : String) :
    (definition target id e).isNamed .debian .cve (some cve) = ((definition target id e).title == some cve) := by
  rw [definition, if_pos ht]
  rfl

namespace Store

def throughAdvisories (family : Family) (release key : Option String) (s : Store) : List Definition :=
  s.hydrate family (s.definitionRows (s.releaseRoots family release) (s.advisoryOwners key))

variable {s : Store} {trees : List DefinitionTree}

section Ways

variable {ids ids' : List Int} {p q : Definition → Bool}

theorem Holds.mem_hydrate_iff (h : s.Holds trees) (hids : ∀ t ∈ trees, t.row.id ∈ ids ↔ p t.definition = true)
    (family : Family) (release : String) {t : DefinitionTree} (ht : t ∈ trees) :
    t.definition.shownBy family ∈ s.hydrate family (s.definitionRows (s.releaseRoots family (some release)) ids) ↔
      s.isUnder family release t.definition = true ∧ p t.definition = true := by
  rw [h.hydrate_definitionRows hids, h.stored]
  simp only [List.mem_map, List.mem_filter, Bool.and_eq_true]
  constructor
  · rintro ⟨_, ⟨⟨u, hu, rfl⟩, hp⟩, he⟩
    -- the number of the row is shown, and no two trees have the same
    have hid : u.row.id = t.row.id := Option.some.inj (congrArg Definition.id he)
    rwa [h.eq_of_id hu ht hid] at hp
  · intro hp
    exact ⟨t.definition, ⟨⟨t, ht, rfl⟩, hp⟩, rfl⟩

theorem Holds.exists_of_mem_hydrate (h : s.Holds trees) {family : Family} {roots ids : List Int} {d : Definition}
    (hd : d ∈ s.hydrate family (s.definitionRows roots ids)) : ∃ t ∈ trees, t.definition.shownBy family = d := by
  rw [hydrate_eq, definitionRows, h.numbered.definitions.ordered, h.definitions] at hd
  obtain ⟨row, hrow, rfl⟩ := List.mem_map.mp hd
  obtain ⟨t, ht, rfl⟩ := List.mem_map.mp (List.mem_of_mem_filter hrow)
  exact ⟨t, ht, by rw [h.parts_definition ht]⟩

theorem Holds.ways_agree_iff (h : s.Holds trees) (hids : ∀ t ∈ trees, t.row.id ∈ ids ↔ p t.definition = true)
    (hids' : ∀ t ∈ trees, t.row.id ∈ ids' ↔ q t.definition = true) {r : RootRow} (hr : r ∈ s.roots.rows)
    {family : Family} (hf : r.family = family.name) :
    let found := fun ids =>
      s.hydrate family (s.definitionRows (s.releaseRoots family (some (Release.majorVersion r.osVersion))) ids)
    (∀ d, d.rootId = some r.id → (d ∈ found ids ↔ d ∈ found ids')) ↔
      ∀ t ∈ trees, t.row.rootId = r.id → p t.definition = q t.definition := by
  intro found
  have hunder {t : DefinitionTree} (he : t.row.rootId = r.id) :
      s.isUnder family (Release.majorVersion r.osVersion) t.definition = true := by
    rw [isUnder, List.any_eq_true]
    exact ⟨r, hr, by simp [DefinitionTree.definition, he, hf]⟩
  have hways {t : DefinitionTree} (ht : t ∈ trees) (he : t.row.rootId = r.id) :
      (t.definition.shownBy family ∈ found ids ↔ t.definition.shownBy family ∈ found ids') ↔
        p t.definition = q t.definition := by
    rw [h.mem_hydrate_iff hids _ _ ht, h.mem_hydrate_iff hids' _ _ ht, and_iff_right (hunder he),
      and_iff_right (hunder he)]
    exact Bool.eq_iff_iff.symm
  constructor
  · intro hsame t ht he
    exact (hways ht he).mp (hsame (t.definition.shownBy family) (congrArg some he))
  · intro hsame d hd
    have hshown {t : DefinitionTree} (ht : t ∈ trees) (htd : t.definition.shownBy family = d) :
        d ∈ found ids ↔ d ∈ found ids' := by
      subst htd
      have he : t.row.rootId = r.id := Option.some.inj hd
      exact (hways ht he).mpr (hsame t ht he)
    constructor
    · intro hfound
      obtain ⟨t, ht, htd⟩ := h.exists_of_mem_hydrate hfound
      exact (hshown ht htd).mp hfound
    · intro hfound
      obtain ⟨t, ht, htd⟩ := h.exists_of_mem_hydrate hfound
      exact (hshown ht htd).mpr hfound

end Ways

theorem Holds.shortcut_agrees_under_iff (h : s.Holds trees) {r : RootRow} (hr : r ∈ s.roots.rows)
    (hf : r.family = Family.debian.name) (cve : String) :
    (∀ d, d.rootId = some r.id →
      (d ∈ s.byCve .debian (some (Release.majorVersion r.osVersion)) (some cve) ↔
        d ∈ s.throughAdvisories .debian (some (Release.majorVersion r.osVersion)) (some cve))) ↔
      ∀ d ∈ s.definitionsOf r.id, d.isNamed .debian .cve (some cve) = d.listsCve cve := by
  have hdebian : Family.debian.vendor = .debian := rfl
  have hother : Family.redhat.vendor ≠ .debian := by decide
  have hways := h.ways_agree_iff (fun t ht => h.mem_debianOwners hdebian (some cve) ht)
    (fun t ht => h.mem_advisoryOwners hother (some cve) ht) hr hf
  refine Iff.trans hways ?_
  rw [h.definitionsOf]
  simp only [List.forall_mem_map, List.mem_filter, beq_iff_eq, and_imp, DefinitionTree.content,
    Definition.isNamed_content, Definition.listsCve_content]
  rfl

/-- A document of Debian that was stored is found alike both ways just if the titles of its definitions are
what the definitions list. -/
theorem shortcut_agrees_iff (calls : List Call) {osVersion fileName : String} {bytes : List UInt8}
    {document : Oval.Document} (hd : Oval.Document.parse ⟨Family.debian.name, osVersion⟩ bytes = .ok document)
    {u : Store} (hu : (reached calls).insertOval .debian
      ⟨some Family.debian.name, some osVersion, document.definitions⟩
      ⟨some fileName, .moment ⟨document.timestamp, none⟩⟩ = (.ok true, u)) :
    ∃ r ∈ u.roots.rows, r.family = Family.debian.name ∧ r.osVersion = osVersion ∧ ∀ cve : String,
      (∀ d, d.rootId = some r.id →
        (d ∈ u.byCve .debian (some (Release.majorVersion osVersion)) (some cve) ↔
          d ∈ u.throughAdvisories .debian (some (Release.majorVersion osVersion)) (some cve))) ↔
        ∀ d ∈ document.definitions, d.title = some cve ↔ d.listsCve cve = true := by
  obtain ⟨trees, h⟩ := reached_holds calls
  generalize reached calls = s at *
  cases hx : Snapshot.of .debian ⟨some Family.debian.name, some osVersion, document.definitions⟩
    ⟨some fileName, .moment ⟨document.timestamp, none⟩⟩ with
  | error m =>
    rw [insertOval_of_error hx] at hu
    cases hu
  | ok x =>
    obtain ⟨_, hx'⟩ := Snapshot.of_ok hx
    obtain rfl : osVersion = x.osVersion := Option.some.inj hx'.osVersion
    have hr := h.refresh x
    rw [← insertOval_of_ok hx, hu] at hr
    obtain ⟨_, t, grown, _, hg⟩ := hr
    let row : RootRow := ⟨s.roots.next, x.family.name, x.osVersion⟩
    have hrow : row ∈ u.roots.rows := by
      rw [hg.roots]
      exact List.mem_append_right _ (List.mem_singleton_self _)
    have hfamily : row.family = Family.debian.name := congrArg Family.name hx'.family
    refine ⟨row, hrow, hfamily, rfl, fun cve => (hg.holds.shortcut_agrees_under_iff hrow hfamily cve).trans ?_⟩
    rw [hg.definitionsOf_next h, hx'.definitions, List.forall_mem_map]
    refine forall₂_congr fun d hmem => ?_
    obtain ⟨id, e, rfl⟩ := Oval.Document.exists_of_mem hd d hmem
    rw [Definition.isNamed_content, Definition.listsCve_content, Oval.isNamed_definition rfl, Bool.eq_iff_iff,
      beq_iff_eq]

def notice : List UInt8 :=
  ("<d><generator><timestamp>2099-01-01T05:05:39</timestamp></generator><definitions>" ++
    "<definition id=\"oval:org.debian:def:9999\"><metadata><title>DSA-9999-1 curl</title>" ++
    "<reference source=\"CVE\" ref_id=\"CVE-2099-0100\"/></metadata></definition></definitions></d>").toUTF8.toList

theorem notice_stored : ∃ document u,
    Oval.Document.parse ⟨Family.debian.name, "9"⟩ notice = .ok document ∧
      (reached []).insertOval .debian ⟨some Family.debian.name, some "9", document.definitions⟩
        ⟨some "oval-definitions-stretch.xml", .moment ⟨document.timestamp, none⟩⟩ = (.ok true, u) ∧
      u.roots.rows = [⟨1, Family.debian.name, "9"⟩] ∧
      u.byCve .debian (some "9") (some "CVE-2099-0100") = [] ∧
      (u.throughAdvisories .debian (some "9") (some "CVE-2099-0100")).map (·.rootId) = [some 1] := by
  have hcheck : (Oval.Document.parse ⟨Family.debian.name, "9"⟩ notice).toOption.any (fun document =>
      let result := Store.empty.insertOval .debian ⟨some Family.debian.name, some "9", document.definitions⟩
        ⟨some "oval-definitions-stretch.xml", .moment ⟨document.timestamp, none⟩⟩
      decide (result.1.toOption = some true ∧ result.2.roots.rows = [⟨1, Family.debian.name, "9"⟩] ∧
        result.2.byCve .debian (some "9") (some "CVE-2099-0100") = [] ∧
        (result.2.throughAdvisories .debian (some "9") (some "CVE-2099-0100")).map (·.rootId) = [some 1])) =
          true := by
    decide +kernel
  obtain ⟨document, hd, hresult⟩ := (Option.any_eq_true ..).mp hcheck
  obtain ⟨hstored, hfound⟩ := of_decide_eq_true hresult
  rw [reached, store_fresh]
  exact ⟨document, _, eq_ok_of_toOption hd, Prod.ext (eq_ok_of_toOption hstored) rfl, hfound⟩

theorem shortcut_agrees_iff_for_notice : ∃ document u,
    Oval.Document.parse ⟨Family.debian.name, "9"⟩ notice = .ok document ∧
      (reached []).insertOval .debian ⟨some Family.debian.name, some "9", document.definitions⟩
        ⟨some "oval-definitions-stretch.xml", .moment ⟨document.timestamp, none⟩⟩ = (.ok true, u) ∧
      ∃ r ∈ u.roots.rows, r.family = Family.debian.name ∧ r.osVersion = "9" ∧ ∀ cve : String,
        (∀ d, d.rootId = some r.id →
          (d ∈ u.byCve .debian (some (Release.majorVersion "9")) (some cve) ↔
            d ∈ u.throughAdvisories .debian (some (Release.majorVersion "9")) (some cve))) ↔
          ∀ d ∈ document.definitions, d.title = some cve ↔ d.listsCve cve = true := by
  obtain ⟨document, u, hd, hu, _⟩ := notice_stored
  exact ⟨document, u, hd, hu, shortcut_agrees_iff [] hd hu⟩

theorem shortcut_misses_notice : ∃ document u,
    Oval.Document.parse ⟨Family.debian.name, "9"⟩ notice = .ok document ∧
      (reached []).insertOval .debian ⟨some Family.debian.name, some "9", document.definitions⟩
        ⟨some "oval-definitions-stretch.xml", .moment ⟨document.timestamp, none⟩⟩ = (.ok true, u) ∧
      ∃ r ∈ u.roots.rows, r.family = Family.debian.name ∧ r.osVersion = "9" ∧ ∃ d : Definition,
        d.rootId = some r.id ∧ d ∈ u.throughAdvisories .debian (some "9") (some "CVE-2099-0100") ∧
          d ∉ u.byCve .debian (some "9") (some "CVE-2099-0100") := by
  obtain ⟨document, u, hd, hu, hroots, hshort, hlong⟩ := notice_stored
  have hroot : some 1 ∈ (u.throughAdvisories .debian (some "9") (some "CVE-2099-0100")).map (·.rootId) := by
    simp [hlong]
  obtain ⟨d, hmem, hid⟩ := List.mem_map.mp hroot
  refine ⟨document, u, hd, hu, ⟨1, Family.debian.name, "9"⟩, by simp [hroots], rfl, rfl, d, hid, hmem, ?_⟩
  simp [hshort]

end Store

end OvalCatalog
