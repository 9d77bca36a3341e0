import OvalCatalog.Proofs.Store.Tree
import OvalCatalog.Store.Insert

/-! Insertion of roots: a definition that lacks nothing becomes a tree at the end of the tables, and the
first thing that is lacking ends the insertion. -/

namespace OvalCatalog

section Makers

open Table (Maker)

theorem Maker.total {ρ α : Type} [Row ρ] {row : Int → α → ρ} (h : ∀ n a, Row.id (row n a) = n) :
    Maker (fun n a => .ok (row n a)) fun _ => none where
  id := by rintro n a r ⟨⟩; exact h n a
  accepted _ := rfl
  refused := by rintro n a c ⟨⟩

theorem PackageRow.maker (definition : Int) : Maker (PackageRow.of definition) Package.lacks? := by
  constructor <;> intro n p x hx <;> unfold PackageRow.of at hx <;> split at hx <;> cases hx <;>
    simp [Package.lacks?, Row.id, *]

theorem CveRow.maker (advisory : Int) : Maker (CveRow.of advisory) Cve.lacks? := by
  constructor <;> intro n p x hx <;> unfold CveRow.of at hx <;> split at hx <;> cases hx <;>
    simp [Cve.lacks?, Row.id, *]

theorem PackageRow.of_ok {definition n : Int} {p : Package} {r : PackageRow}
    (h : PackageRow.of definition n p = .ok r) :
    r.definitionId = definition ∧ r.package.content = p.content := by
  unfold PackageRow.of at h
  split at h <;> cases h
  simp [PackageRow.package, Package.content, *]

theorem CveRow.of_ok {advisory n : Int} {c : Cve} {r : CveRow} (h : CveRow.of advisory n c = .ok r) :
    r.advisoryId = advisory ∧ r.cve.content = c.content := by
  unfold CveRow.of at h
  split at h <;> cases h
  simp [CveRow.cve, Cve.content, *]

end Makers

structure Growth where
  definitions : List DefinitionRow := []
  packages : List PackageRow := []
  references : List ReferenceRow := []
  advisories : List AdvisoryRow := []
  cves : List CveRow := []
  bugzillas : List BugzillaRow := []
  cpes : List CpeRow := []
  debians : List DebianRow := []

instance : Append Growth where
  append g k := ⟨g.definitions ++ k.definitions, g.packages ++ k.packages, g.references ++ k.references,
    g.advisories ++ k.advisories, g.cves ++ k.cves, g.bugzillas ++ k.bugzillas, g.cpes ++ k.cpes,
    g.debians ++ k.debians⟩

@[simp]
theorem Growth.mk_append (d d' : List DefinitionRow) (p p' : List PackageRow) (r r' : List ReferenceRow)
    (a a' : List AdvisoryRow) (c c' : List CveRow) (b b' : List BugzillaRow) (e e' : List CpeRow)
    (o o' : List DebianRow) :
    (⟨d, p, r, a, c, b, e, o⟩ : Growth) ++ (⟨d', p', r', a', c', b', e', o'⟩ : Growth) =
      ⟨d ++ d', p ++ p', r ++ r', a ++ a', c ++ c', b ++ b', e ++ e', o ++ o'⟩ := rfl

def AdvisoryTree.growth (a : AdvisoryTree) : Growth :=
  { advisories := [a.row], cves := a.cves, bugzillas := a.bugzillas, cpes := a.cpes }

def DefinitionTree.growth (t : DefinitionTree) : Growth :=
  ⟨[t.row], t.packages, t.references, t.advisories, t.cves, t.bugzillas, t.cpes, t.debian.toList⟩

namespace Store

structure Gains (s : Store) (g : Growth) (u : Store) : Prop where
  numbered : u.Numbered
  fetches : u.fetches = s.fetches
  roots : u.roots = s.roots
  definitions : u.definitions.rows = s.definitions.rows ++ g.definitions
  packages : u.packages.rows = s.packages.rows ++ g.packages
  references : u.references.rows = s.references.rows ++ g.references
  advisories : u.advisories.rows = s.advisories.rows ++ g.advisories
  cves : u.cves.rows = s.cves.rows ++ g.cves
  bugzillas : u.bugzillas.rows = s.bugzillas.rows ++ g.bugzillas
  cpes : u.cpes.rows = s.cpes.rows ++ g.cpes
  debians : u.debians.rows = s.debians.rows ++ g.debians

theorem Gains.refl {s : Store} (h : s.Numbered) : s.Gains {} s := by
  constructor <;> simp [h]

theorem Gains.trans {s t u : Store} {g k : Growth} (h : s.Gains g t) (h' : t.Gains k u) :
    s.Gains (g ++ k) u where
  numbered := h'.numbered
  fetches := h'.fetches.trans h.fetches
  roots := h'.roots.trans h.roots
  definitions := by rw [h'.definitions, h.definitions, List.append_assoc]; rfl
  packages := by rw [h'.packages, h.packages, List.append_assoc]; rfl
  references := by rw [h'.references, h.references, List.append_assoc]; rfl
  advisories := by rw [h'.advisories, h.advisories, List.append_assoc]; rfl
  cves := by rw [h'.cves, h.cves, List.append_assoc]; rfl
  bugzillas := by rw [h'.bugzillas, h.bugzillas, List.append_assoc]; rfl
  cpes := by rw [h'.cpes, h.cpes, List.append_assoc]; rfl
  debians := by rw [h'.debians, h.debians, List.append_assoc]; rfl

/-- A change of `s` goes through if nothing is lacking, with a result of which `P` holds. Else it is
refused for what is lacking first. -/
def Yields (s : Store) (lacks : Option Column) (P : Store → Prop) : Except Refused Store → Prop
  | .ok u => lacks = none ∧ s.Later u ∧ P u
  | .error e => ∃ c, lacks = some c ∧ e.error = .missing c ∧ s.Later e.left

section Yields

variable {s : Store} {lacks lacks' : Option Column} {P Q : Store → Prop} {x : Except Refused Store}

theorem Yields.imp (h : s.Yields lacks P x) (hPQ : ∀ u, P u → Q u) : s.Yields lacks Q x := by
  cases x with
  | error e => exact h
  | ok u => exact ⟨h.1, h.2.1, hPQ u h.2.2⟩

theorem Yields.bind {f : Store → Except Refused Store} (h : s.Yields lacks P x)
    (hf : ∀ u, P u → u.Yields lacks' Q (f u)) : s.Yields (lacks.or lacks') Q (x >>= f) := by
  cases x with
  | error e =>
    obtain ⟨c, hc, he, hl⟩ := h
    exact ⟨c, by simp [hc], he, hl⟩
  | ok u =>
    obtain ⟨hn, hl, hP⟩ := h
    change s.Yields _ Q (f u)
    have hu := hf u hP
    cases hx : f u with
    | error e =>
      rw [hx] at hu
      obtain ⟨c, hc, he, hl'⟩ := hu
      exact ⟨c, by simp [hn, hc], he, hl.trans hl'⟩
    | ok v =>
      rw [hx] at hu
      exact ⟨by simp [hn, hu.1], hl.trans hu.2.1, hu.2.2⟩

open Table (Made Maker)

theorem yields_placed {ρ α : Type} [Row ρ] {row : Int → α → Except Column ρ} {needs : α → Option Column}
    (hm : Maker row needs) {t : Table ρ} (ht : t.Numbered) {put : Table ρ → Store} (items : List α)
    (hput : ∀ u : Table ρ, t.next ≤ u.next → s.Later (put u))
    (hP : ∀ rows, Made row t.next items rows → P (put ⟨t.rows ++ rows, t.next + items.length⟩)) :
    s.Yields (items.findSome? needs) P (placed put (t.fill row items)) := by
  have hf := Table.fill_spec hm ht items
  cases hx : t.fill row items with
  | ok u =>
    rw [hx] at hf
    obtain ⟨hn, rows, hr, rfl⟩ := hf
    exact ⟨hn, hput _ (by change t.next ≤ t.next + items.length; omega), hP rows hr⟩
  | error e =>
    obtain ⟨e, u⟩ := e
    rw [hx] at hf
    obtain ⟨c, hc, he, _, hl⟩ := hf
    exact ⟨c, hc, he, hput u hl⟩

end Yields

section Tables

variable {s : Store}

open Table (Made Maker)

theorem addPackages_yields (h : s.Numbered) (definition : Int) (items : List Package) :
    s.Yields (items.findSome? Package.lacks?)
      (fun u => ∃ rows, s.Gains { packages := rows } u ∧ (∀ r ∈ rows, r.definitionId = definition) ∧
        rows.map (fun r => r.package.content) = items.map Package.content)
      (s.addPackages definition items) := by
  apply yields_placed (PackageRow.maker definition) h.packages
  · exact fun u hu => { Later.refl s with packages := hu }
  · intro rows hr
    refine ⟨rows, ?_, hr.all fun h => (PackageRow.of_ok h).1, hr.map_eq fun h => (PackageRow.of_ok h).2⟩
    exact { Gains.refl h with
      numbered := { h with packages := h.packages.append (PackageRow.maker definition) hr }
      packages := rfl }

theorem addCves_yields (h : s.Numbered) (advisory : Int) (items : List Cve) :
    s.Yields (items.findSome? Cve.lacks?)
      (fun u => ∃ rows, s.Gains { cves := rows } u ∧ (∀ r ∈ rows, r.advisoryId = advisory) ∧
        rows.map (fun r => r.cve.content) = items.map Cve.content)
      (s.addCves advisory items) := by
  apply yields_placed (CveRow.maker advisory) h.cves
  · exact fun u hu => { Later.refl s with cves := hu }
  · intro rows hr
    refine ⟨rows, ?_, hr.all fun h => (CveRow.of_ok h).1, hr.map_eq fun h => (CveRow.of_ok h).2⟩
    exact { Gains.refl h with
      numbered := { h with cves := h.cves.append (CveRow.maker advisory) hr }
      cves := rfl }

theorem findSome?_total {α : Type} (items : List α) :
    (items.findSome? fun _ => (none : Option Column)) = none := by
  simp

theorem addReferences_yields (h : s.Numbered) (definition : Int) (items : List Reference) :
    s.Yields none
      (fun u => ∃ rows, s.Gains { references := rows } u ∧ (∀ r ∈ rows, r.definitionId = definition) ∧
        rows.map (fun r => r.reference.content) = items.map Reference.content)
      (s.addReferences definition items) := by
  have hm : Maker (fun n r => .ok (ReferenceRow.of definition n r)) fun _ => none :=
    Maker.total fun n r => rfl
  rw [← findSome?_total items]
  apply yields_placed hm h.references
  · exact fun u hu => { Later.refl s with references := hu }
  · intro rows hr
    refine ⟨rows, ?_, hr.all fun h => by cases h; rfl, hr.map_eq fun h => by cases h; rfl⟩
    exact { Gains.refl h with
      numbered := { h with references := h.references.append hm hr }
      references := rfl }

theorem addBugzillas_yields (h : s.Numbered) (advisory : Int) (items : List Bugzilla) :
    s.Yields none
      (fun u => ∃ rows, s.Gains { bugzillas := rows } u ∧ (∀ r ∈ rows, r.advisoryId = advisory) ∧
        rows.map (fun r => r.bugzilla.content) = items.map Bugzilla.content)
      (s.addBugzillas advisory items) := by
  have hm : Maker (fun n b => .ok (BugzillaRow.of advisory n b)) fun _ => none :=
    Maker.total fun n b => rfl
  rw [← findSome?_total items]
  apply yields_placed hm h.bugzillas
  · exact fun u hu => { Later.refl s with bugzillas := hu }
  · intro rows hr
    refine ⟨rows, ?_, hr.all fun h => by cases h; rfl, hr.map_eq fun h => by cases h; rfl⟩
    exact { Gains.refl h with
      numbered := { h with bugzillas := h.bugzillas.append hm hr }
      bugzillas := rfl }

theorem addCpes_yields (h : s.Numbered) (advisory : Int) (items : List Cpe) :
    s.Yields none
      (fun u => ∃ rows, s.Gains { cpes := rows } u ∧ (∀ r ∈ rows, r.advisoryId = advisory) ∧
        rows.map (fun r => r.toCpe.content) = items.map Cpe.content)
      (s.addCpes advisory items) := by
  have hm : Maker (fun n c => .ok (CpeRow.of advisory n c)) fun _ => none :=
    Maker.total fun n c => rfl
  rw [← findSome?_total items]
  apply yields_placed hm h.cpes
  · exact fun u hu => { Later.refl s with cpes := hu }
  · intro rows hr
    refine ⟨rows, ?_, hr.all fun h => by cases h; rfl, hr.map_eq fun h => by cases h; rfl⟩
    exact { Gains.refl h with
      numbered := { h with cpes := h.cpes.append hm hr }
      cpes := rfl }

theorem yields_append {ρ : Type} [Row ρ] {P : Store → Prop} {row : Int → ρ} (hid : ∀ n, Row.id (row n) = n)
    {t : Table ρ} (ht : t.Numbered) {put : Table ρ → Store}
    (hput : ∀ u : Table ρ, t.next ≤ u.next → s.Later (put u))
    (hP : ∀ u : Table ρ, u.Numbered → u.rows = t.rows ++ [row t.next] → P (put u)) :
    s.Yields none P (placed put (t.append row)) := by
  have hm : Maker (fun n (_ : Unit) => .ok (row n)) fun _ => none := Maker.total fun n _ => hid n
  rw [← findSome?_total [()]]
  refine yields_placed hm ht [()] hput fun rows hr => hP _ (ht.append hm hr) ?_
  cases hr with
  | cons h hrest =>
    cases h
    cases hrest
    rfl

theorem addDebian_yields (h : s.Numbered) (definition : Int) (d : Debian) :
    s.Yields none (fun u => s.Gains { debians := [DebianRow.of definition d s.debians.next] } u)
      (s.addDebian definition d) := by
  apply yields_append (fun n => rfl) h.debians
  · exact fun u hu => { Later.refl s with debians := hu }
  · intro u hu hr
    exact { Gains.refl h with
      numbered := { h with debians := hu }
      debians := hr }

end Tables

section Records

variable {s : Store}

theorem addAdvisory_yields (h : s.Numbered) (definition : Int) (a : Advisory) :
    s.Yields (a.cves.findSome? Cve.lacks?)
      (fun u => ∃ t : AdvisoryTree, s.Gains t.growth u ∧ t.row.definitionId = definition ∧
        t.advisory.content = a.content)
      (s.addAdvisory definition a) := by
  let row := AdvisoryRow.of definition a s.advisories.next
  have hrow : s.Yields none (fun u => s.Gains { advisories := [row] } u)
      (placed ({ s with advisories := · }) (s.advisories.append (AdvisoryRow.of definition a))) := by
    apply yields_append (fun n => rfl) h.advisories
    · exact fun u hu => { Later.refl s with advisories := hu }
    · intro u hu hr
      exact { Gains.refl h with
        numbered := { h with advisories := hu }
        advisories := hr }
  -- the rows make a tree only when all of them are there, so each step hands on the rows that it added
  have hall := hrow.bind fun s₁ h₁ =>
    (addCves_yields h₁.numbered row.id a.cves).bind fun s₂ ⟨cves, h₂, hcves, hc⟩ =>
    (addBugzillas_yields h₂.numbered row.id a.bugzillas).bind fun s₃ ⟨bugzillas, h₃, hbugzillas, hb⟩ =>
    (addCpes_yields h₃.numbered row.id a.cpes).imp fun u ⟨cpes, h₄, hcpes, hp⟩ =>
      show ∃ t : AdvisoryTree, s.Gains t.growth u ∧ t.row.definitionId = definition ∧
          t.advisory.content = a.content by
        refine ⟨⟨row, cves, bugzillas, cpes, hcves, hbugzillas, hcpes⟩, ?_, rfl, ?_⟩
        · simpa [AdvisoryTree.growth] using ((h₁.trans h₂).trans h₃).trans h₄
        · simp only [AdvisoryTree.advisory, Advisory.content, List.map_map, ← hc, ← hb, ← hp]
          rfl
  simp only [Option.none_or, Option.or_none] at hall
  exact hall

theorem addGiven_yields {α : Type} (needs : α → Option Column) {P : Option α → Store → Prop}
    {add : α → Store → Except Refused Store} (hadd : ∀ a, s.Yields (needs a) (P (some a)) (add a s))
    (hnone : P none s) : ∀ given : Option α, s.Yields (given.bind needs) (P given) (addGiven add given s)
  | some a => hadd a
  | none => ⟨rfl, .refl s, hnone⟩

theorem addAdvisoryGiven_yields (h : s.Numbered) (definition : Int) (given : Option Advisory) :
    s.Yields (given.bind fun a => a.cves.findSome? Cve.lacks?)
      (fun u => ∃ t : Option AdvisoryTree, s.Gains ((t.map AdvisoryTree.growth).getD {}) u ∧
        (∀ a ∈ t, a.row.definitionId = definition) ∧
        (t.map AdvisoryTree.advisory).map Advisory.content = given.map Advisory.content)
      (addGiven (addAdvisory definition) given s) := by
  apply addGiven_yields _ (P := fun given u => ∃ t : Option AdvisoryTree,
    s.Gains ((t.map AdvisoryTree.growth).getD {}) u ∧ (∀ a ∈ t, a.row.definitionId = definition) ∧
      (t.map AdvisoryTree.advisory).map Advisory.content = given.map Advisory.content)
  · intro a
    refine (addAdvisory_yields h definition a).imp fun u ⟨t, hu, hl, hc⟩ => ⟨some t, hu, ?_, ?_⟩
    · simpa using hl
    · simpa using hc
  · exact ⟨none, .refl h, by simp, rfl⟩

theorem addDebianGiven_yields (h : s.Numbered) (definition : Int) (given : Option Debian) :
    s.Yields none
      (fun u => ∃ r : Option DebianRow, s.Gains { debians := r.toList } u ∧
        (∀ d ∈ r, d.definitionId = definition) ∧
        (r.map DebianRow.debian).map Debian.content = given.map Debian.content)
      (addGiven (addDebian definition) given s) := by
  have hn : (given.bind fun _ => (none : Option Column)) = none := by cases given <;> rfl
  have hyields := addGiven_yields (fun _ => none) (P := fun given u => ∃ r : Option DebianRow,
    s.Gains { debians := r.toList } u ∧ (∀ d ∈ r, d.definitionId = definition) ∧
      (r.map DebianRow.debian).map Debian.content = given.map Debian.content)
    (fun d => (addDebian_yields h definition d).imp fun u hu => ⟨some _, hu, by simp [DebianRow.of], rfl⟩)
    ⟨none, .refl h, by simp, rfl⟩ given
  rwa [hn] at hyields

theorem addDefinition_yields (h : s.Numbered) (root : Int) (d : Definition) :
    s.Yields d.lacks?
      (fun u => ∃ t : DefinitionTree, s.Gains t.growth u ∧ t.row.rootId = root ∧ t.content = d.content)
      (s.addDefinition root d) := by
  let row := DefinitionRow.of root d s.definitions.next
  have hrow : s.Yields none (fun u => s.Gains { definitions := [row] } u)
      (placed ({ s with definitions := · }) (s.definitions.append (DefinitionRow.of root d))) := by
    apply yields_append (fun n => rfl) h.definitions
    · exact fun u hu => { Later.refl s with definitions := hu }
    · intro u hu hr
      exact { Gains.refl h with
        numbered := { h with definitions := hu }
        definitions := hr }
  have hall := hrow.bind fun s₁ h₁ =>
    (addPackages_yields h₁.numbered row.id d.packages).bind fun s₂ ⟨packages, h₂, hpackages, hp⟩ =>
    (addReferences_yields h₂.numbered row.id d.references).bind fun s₃ ⟨references, h₃, hreferences, hr⟩ =>
    (addAdvisoryGiven_yields h₃.numbered row.id d.advisory).bind fun s₄ ⟨advisory, h₄, hadvisory, ha⟩ =>
    (addDebianGiven_yields h₄.numbered row.id d.debian).imp fun u ⟨debian, h₅, hdebian, hd⟩ =>
      show ∃ t : DefinitionTree, s.Gains t.growth u ∧ t.row.rootId = root ∧ t.content = d.content by
        refine ⟨⟨row, packages, references, advisory, debian, hpackages, hreferences, hadvisory, hdebian⟩,
          ?_, rfl, ?_⟩
        · have hu := (((h₁.trans h₂).trans h₃).trans h₄).trans h₅
          cases advisory <;> simpa [DefinitionTree.growth, DefinitionTree.advisories, DefinitionTree.cves,
            DefinitionTree.bugzillas, DefinitionTree.cpes, AdvisoryTree.growth] using hu
        · simp only [DefinitionTree.content, DefinitionTree.definition, Definition.content, List.map_map,
            ha, hd, ← hp, ← hr]
          rfl
  simp only [Option.none_or, Option.or_none] at hall
  exact hall

theorem Holds.gains {trees : List DefinitionTree} {u : Store} {t : DefinitionTree} (h : s.Holds trees)
    (hg : s.Gains t.growth u) (hroot : t.row.rootId ∈ s.roots.ids) : u.Holds (trees ++ [t]) where
  numbered := hg.numbered
  definitions := by rw [hg.definitions, h.definitions, List.map_append]; rfl
  packages := by rw [hg.packages, h.packages, List.flatMap_append, List.flatMap_singleton]; rfl
  references := by rw [hg.references, h.references, List.flatMap_append, List.flatMap_singleton]; rfl
  advisories := by rw [hg.advisories, h.advisories, List.flatMap_append, List.flatMap_singleton]; rfl
  cves := by rw [hg.cves, h.cves, List.flatMap_append, List.flatMap_singleton]; rfl
  bugzillas := by rw [hg.bugzillas, h.bugzillas, List.flatMap_append, List.flatMap_singleton]; rfl
  cpes := by rw [hg.cpes, h.cpes, List.flatMap_append, List.flatMap_singleton]; rfl
  debians := by rw [hg.debians, h.debians, List.flatMap_append, List.flatMap_singleton]; rfl
  rooted := by
    rw [hg.roots]
    exact List.forall_mem_append.mpr ⟨h.rooted, by simpa using hroot⟩
  versions := hg.roots ▸ h.versions
  files := hg.fetches ▸ h.files

theorem Holds.addDefinitions_yields {trees : List DefinitionTree} (h : s.Holds trees) {root : Int}
    (hroot : root ∈ s.roots.ids) (definitions : List Definition) :
    s.Yields (definitions.findSome? Definition.lacks?)
      (fun u => u.fetches = s.fetches ∧ u.roots = s.roots ∧ ∃ grown, u.Holds (trees ++ grown) ∧
        (∀ t ∈ grown, t.row.rootId = root) ∧
        grown.map DefinitionTree.content = definitions.map Definition.content)
      (s.addDefinitions root definitions) := by
  induction definitions generalizing s trees with
  | nil => exact ⟨rfl, .refl s, rfl, rfl, [], by simpa using h, by simp, rfl⟩
  | cons d definitions ih =>
    have hall := (addDefinition_yields h.numbered root d).bind fun s₁ ⟨t, hg, hr, hc⟩ =>
      (ih (h.gains hg (hr ▸ hroot)) (hg.roots ▸ hroot)).imp fun u ⟨hf, hrs, grown, hu, hrg, hcg⟩ =>
        show u.fetches = s.fetches ∧ u.roots = s.roots ∧ ∃ grown, u.Holds (trees ++ grown) ∧
            (∀ t ∈ grown, t.row.rootId = root) ∧
            grown.map DefinitionTree.content = (d :: definitions).map Definition.content by
          refine ⟨hf.trans hg.fetches, hrs.trans hg.roots, t :: grown, ?_, ?_, ?_⟩
          · simpa using hu
          · exact List.forall_mem_cons.mpr ⟨hr, hrg⟩
          · rw [List.map_cons, List.map_cons, hc, hcg]
    have hlacks : (d :: definitions).findSome? Definition.lacks? =
        d.lacks?.or (definitions.findSome? Definition.lacks?) := by
      rw [List.findSome?_cons]
      cases d.lacks? <;> rfl
    rw [hlacks]
    exact hall

theorem Holds.addRoot_yields {trees : List DefinitionTree} (h : s.Holds trees) {family osVersion : String}
    (hfree : ∀ r ∈ s.roots.rows, ¬(r.family = family ∧ r.osVersion = osVersion))
    (definitions : List Definition) :
    s.Yields (definitions.findSome? Definition.lacks?)
      (fun u => u.fetches = s.fetches ∧ u.roots.rows = s.roots.rows ++ [⟨s.roots.next, family, osVersion⟩] ∧
        ∃ grown, u.Holds (trees ++ grown) ∧ (∀ t ∈ grown, t.row.rootId = s.roots.next) ∧
          grown.map DefinitionTree.content = definitions.map Definition.content)
      (s.addRoot family osVersion definitions) := by
  let row : RootRow := ⟨s.roots.next, family, osVersion⟩
  have hrow : s.Yields none
      (fun u => u.Holds trees ∧ u.fetches = s.fetches ∧ u.roots.rows = s.roots.rows ++ [row])
      (placed ({ s with roots := · }) (s.roots.append fun n => ⟨n, family, osVersion⟩)) := by
    apply yields_append (fun n => rfl) h.numbered.roots
    · exact fun u hu => { Later.refl s with roots := hu }
    · intro u hu hr
      refine ⟨{ h with numbered := { h.numbered with roots := hu }, rooted := ?_, versions := ?_ }, rfl, hr⟩
      · intro t ht
        have hroot := h.rooted t ht
        simp only [Table.ids] at hroot ⊢
        rw [hr, List.map_append]
        exact List.mem_append_left _ hroot
      · change (u.rows.map _).Nodup
        rw [hr, List.map_append, List.nodup_append]
        refine ⟨h.versions, List.nodup_singleton _, ?_⟩
        rintro _ hp _ hq rfl
        obtain ⟨r, hrs, he⟩ := List.mem_map.mp hp
        obtain rfl := List.mem_singleton.mp hq
        exact hfree r hrs (Prod.mk.inj he)
  unfold addRoot
  apply hrow.bind
  rintro s₁ ⟨h₁, hf, hr⟩
  have hroot : row.id ∈ s₁.roots.ids := by
    rw [Table.ids, hr, List.map_append]
    exact List.mem_append_right _ (List.mem_singleton_self _)
  apply (h₁.addDefinitions_yields hroot definitions).imp
  rintro u ⟨hf', hr', hgrown⟩
  exact ⟨hf'.trans hf, hr' ▸ hr, hgrown⟩

end Records

end Store

end OvalCatalog
