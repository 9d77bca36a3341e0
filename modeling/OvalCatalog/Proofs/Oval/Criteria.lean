import OvalCatalog.Oval.Conversion
import OvalCatalog.Proofs.PackageComment

/-! Which packages of its criteria a definition affects. A criterion stands in a row of criteria, each inside the
next, and the innermost of these that name a release decide which release it is for. -/

namespace OvalCatalog.Oval

open Xml (Element)

/-- A criterion and the criteria around it, the innermost first. -/
structure Place where
  around : List Element
  criterion : Element

mutual

def placesIn (outer : List Element) : Element → List Place
  | ⟨tag, attributes, text, children⟩ => placesAmong (⟨tag, attributes, text, children⟩ :: outer) children

def placesAmong (around : List Element) : List Element → List Place
  | [] => []
  | e :: rest =>
    (if e.named "criterion" then [⟨around, e⟩]
     else if e.named "criteria" then placesIn around e
     else []) ++ placesAmong around rest

end

def placesOf (definition : Element) : List Place :=
  (definition.child? "criteria").toList.flatMap (placesIn [])

def Place.package? (p : Place) : Option Package :=
  Package.ofComment? (comment p.criterion)

def NamesRelease (release : String) (criterion : Element) : Prop :=
  release ≠ "" ∧ (∀ c ∈ release.toList, Text.isDigit c = true) ∧
    Text.strip (comment criterion) = "Oracle Linux " ++ release ++ " is installed"

def NamesNone (criteria : Element) : Prop :=
  ∀ c ∈ criteria.childrenNamed "criterion", ∀ release, ¬NamesRelease release c

def NamesLast (release : String) (criteria : Element) : Prop :=
  ∃ before c after, criteria.childrenNamed "criterion" = before ++ c :: after ∧ NamesRelease release c ∧
    ∀ d ∈ after, ∀ other, ¬NamesRelease other d

def Place.InScope (release : String) (p : Place) : Prop :=
  (∀ e ∈ p.around, NamesNone e) ∨
    ∃ inner e outer, p.around = inner ++ e :: outer ∧ (∀ d ∈ inner, NamesNone d) ∧ NamesLast release e

theorem oracleRelease?_eq_some_iff (text release : String) :
    oracleRelease? text = some release.toList ↔ release ≠ "" ∧ (∀ c ∈ release.toList, Text.isDigit c = true) ∧
      Text.strip text = "Oracle Linux " ++ release ++ " is installed" := by
  have hword (h : ∀ c ∈ release.toList, Text.isDigit c = true) :
      ∀ c ∈ release.toList, (!Text.isBlank c) = true := by
    intro c hc
    rw [Text.not_isBlank_of_isDigit (h c hc)]
    rfl
  have hstrip : Text.strip text = "Oracle Linux " ++ release ++ " is installed" ↔
      Text.trim text.toList = "Oracle Linux ".toList ++ (release.toList ++ PackageComment.isInstalled) := by
    rw [← String.toList_inj, Text.strip, String.toList_ofList, String.toList_append, String.toList_append,
      List.append_assoc]
    rfl
  rw [hstrip]
  simp only [oracleRelease?, Option.bind_eq_bind, Option.bind_eq_some_iff, Text.after?_eq_some_iff]
  constructor
  · rintro ⟨rest, htext, h⟩
    split at h
    · next hrest =>
      obtain ⟨hinstalled, hempty, hdigits⟩ := hrest
      have hrelease := Option.some.inj h
      rw [hrelease] at hempty hdigits
      refine ⟨fun he => by simp [he] at hempty, by simpa using hdigits, ?_⟩
      rw [htext, ← hrelease, ← hinstalled, List.takeWhile_append_dropWhile]
    · cases h
  · rintro ⟨hempty, hdigits, htext⟩
    have hblank : (!Text.isBlank ' ') = false := by decide
    have htake : (release.toList ++ PackageComment.isInstalled).takeWhile (fun c => !Text.isBlank c) =
        release.toList := by
      rw [List.takeWhile_append_of_pos (hword hdigits)]
      exact List.append_nil _
    have hdrop : (release.toList ++ PackageComment.isInstalled).dropWhile (fun c => !Text.isBlank c) =
        PackageComment.isInstalled := List.dropWhile_append_of_pos (hword hdigits)
    refine ⟨_, htext, ?_⟩
    rw [htake, hdrop, if_pos ⟨rfl, by simpa using hempty, by simpa using hdigits⟩]

def lastRelease? (criteria : Element) : Option (List Char) :=
  (criteria.childrenNamed "criterion").reverse.findSome? fun c => oracleRelease? (comment c)

theorem namesRelease_iff (release : String) (c : Element) :
    NamesRelease release c ↔ oracleRelease? (comment c) = some release.toList :=
  (oracleRelease?_eq_some_iff (comment c) release).symm

theorem oracleRelease?_eq_none_iff (c : Element) :
    oracleRelease? (comment c) = none ↔ ∀ release, ¬NamesRelease release c := by
  rw [Option.eq_none_iff_forall_ne_some]
  constructor
  · intro h release hnames
    exact h _ ((namesRelease_iff release c).mp hnames)
  · intro h release he
    refine h (String.ofList release) ((namesRelease_iff _ c).mpr ?_)
    rwa [String.toList_ofList]

theorem namesNone_iff (criteria : Element) : NamesNone criteria ↔ lastRelease? criteria = none := by
  simp [NamesNone, lastRelease?, oracleRelease?_eq_none_iff]

theorem namesLast_iff (release : String) (criteria : Element) :
    NamesLast release criteria ↔ lastRelease? criteria = some release.toList := by
  rw [lastRelease?, List.findSome?_eq_some_iff]
  simp only [← namesRelease_iff, oracleRelease?_eq_none_iff]
  constructor
  · rintro ⟨before, c, after, hchildren, hc, hafter⟩
    refine ⟨after.reverse, c, before.reverse, ?_, hc, fun d hd => hafter d (List.mem_reverse.mp hd)⟩
    simp [hchildren]
  · rintro ⟨after, c, before, hchildren, hc, hafter⟩
    refine ⟨before.reverse, c, after.reverse, ?_, hc, fun d hd => hafter d (List.mem_reverse.mp hd)⟩
    rw [← List.reverse_reverse (criteria.childrenNamed "criterion"), hchildren]
    simp

def scope? (around : List Element) : Option (List Char) :=
  around.findSome? lastRelease?

theorem Place.inScope_iff (release : String) (p : Place) :
    p.InScope release ↔ ∀ r ∈ scope? p.around, r = release.toList := by
  simp only [InScope, namesNone_iff, namesLast_iff, scope?]
  cases hscope : p.around.findSome? lastRelease? with
  | none => exact iff_of_true (.inl (List.findSome?_eq_none_iff.mp hscope)) nofun
  | some r =>
    obtain ⟨inner, e, outer, haround, he, hinner⟩ := List.findSome?_eq_some_iff.mp hscope
    simp only [Option.mem_some_iff, forall_eq']
    constructor
    · rintro (hnone | ⟨inner', e', outer', haround', hinner', he'⟩)
      · have hmem : e ∈ p.around := by simp [haround]
        cases (hnone e hmem).symm.trans he
      · have hfound := List.findSome?_eq_some_iff.mpr ⟨inner', e', outer', haround', he', hinner'⟩
        exact Option.some.inj (hscope.symm.trans hfound)
    · rintro rfl
      exact .inr ⟨inner, e, outer, haround, hinner, he⟩

instance (release : String) (p : Place) : Decidable (p.InScope release) :=
  decidable_of_iff _ (p.inScope_iff release).symm

theorem releaseOf_eq (outer : Option (List Char)) (e : Element) :
    releaseOf outer e.children = (lastRelease? e).or outer := by
  have hfold (l : List Element) : l.foldl (fun release c => (oracleRelease? (comment c)).or release) outer =
      (l.reverse.findSome? fun c => oracleRelease? (comment c)).or outer := by
    induction l using List.reverseRecOn with
    | nil => rfl
    | append_singleton l c ih =>
      rw [List.foldl_append, List.foldl_cons, List.foldl_nil, ih, List.reverse_concat, List.findSome?_cons]
      cases oracleRelease? (comment c) <;> rfl
  exact hfold _

mutual

theorem packagesIn_eq (outer : List Element) (e : Element) : packagesIn (scope? outer) e =
    (placesIn outer e).filterMap fun p => p.package?.map (·, scope? p.around) := by
  obtain ⟨tag, attributes, text, children⟩ := e
  have hrelease := releaseOf_eq (scope? outer) ⟨tag, attributes, text, children⟩
  have hscope : scope? (⟨tag, attributes, text, children⟩ :: outer) =
      (lastRelease? ⟨tag, attributes, text, children⟩).or (scope? outer) := by
    rw [scope?, List.findSome?_cons]
    cases lastRelease? ⟨tag, attributes, text, children⟩ <;> rfl
  rw [packagesIn, placesIn, hrelease, ← hscope]
  exact packagesAmong_eq _ children

theorem packagesAmong_eq (around children : List Element) : packagesAmong (scope? around) children =
    (placesAmong around children).filterMap fun p => p.package?.map (·, scope? p.around) := by
  cases children with
  | nil => rfl
  | cons e rest =>
    rw [packagesAmong, placesAmong, List.filterMap_append, packagesAmong_eq around rest]
    congr 1
    split
    · rw [List.filterMap_cons, Place.package?]
      cases Package.ofComment? (comment e) <;> rfl
    · split
      · exact packagesIn_eq around e
      · rfl

end

theorem filter_packagesIn (osVersion : String) (criteria : Element) :
    ((packagesIn none criteria).filter fun p => p.2.all (· == Release.major osVersion.toList)).map (·.1) =
      ((placesIn [] criteria).filter (·.InScope (Release.majorVersion osVersion))).filterMap Place.package? := by
  have hin (p : Place) : decide (p.InScope (Release.majorVersion osVersion)) =
      (scope? p.around).all (· == Release.major osVersion.toList) := by
    rw [Bool.eq_iff_iff, decide_eq_true_iff, p.inScope_iff, Release.majorVersion, String.toList_ofList]
    cases scope? p.around <;> simp
  have hpackages := packagesIn_eq [] criteria
  rw [scope?, List.findSome?_nil] at hpackages
  rw [hpackages, List.filter_filterMap, List.map_filterMap, List.filterMap_filter]
  apply List.filterMap_congr
  intro p _
  rw [hin]
  cases p.package? <;> cases hall : (scope? p.around).all (· == Release.major osVersion.toList) <;> simp [hall]

def firstPackages (packages : List Package) : List Package :=
  (packages.zipIdx.filter fun (p, i) =>
    (packages.take i).all fun q => (q.name, q.version) != (p.name, p.version)).map (·.1)

theorem firstOfEach_eq_filter (seen : List (Option String × Option String)) (packages : List Package) :
    firstOfEach seen packages = (packages.zipIdx.filter fun (p, i) => !seen.contains (p.name, p.version) &&
      (packages.take i).all fun q => (q.name, q.version) != (p.name, p.version)).map (·.1) := by
  induction packages generalizing seen with
  | nil => rfl
  | cons p rest ih =>
    -- What stands after the head is looked for among the pairs seen before it, and the head's own.
    have hlater (seen' : List (Option String × Option String))
        (hseen : ∀ q, (!seen.contains q && (p.name, p.version) != q) = !seen'.contains q) :
        ((rest.zipIdx 1).filter fun (q, i) => !seen.contains (q.name, q.version) &&
          ((p :: rest).take i).all fun r => (r.name, r.version) != (q.name, q.version)).map (·.1) =
            firstOfEach seen' rest := by
      rw [List.zipIdx_succ, List.filter_map, List.map_map, ih]
      simp only [Function.comp_def, List.take_succ_cons, List.all_cons, ← Bool.and_assoc, hseen]
    rw [firstOfEach, List.zipIdx_cons, List.filter_cons]
    simp only [List.take_zero, List.all_nil, Bool.and_true, Nat.zero_add]
    split
    · next hseen =>
      rw [hseen, Bool.not_true, if_neg Bool.false_ne_true]
      refine (hlater seen fun q => ?_).symm
      by_cases hq : (p.name, p.version) = q
      · rw [← hq, hseen]
        rfl
      · simp [hq]
    · next hseen =>
      rw [Bool.eq_false_iff.mpr hseen, Bool.not_false, if_pos rfl, List.map_cons]
      refine congrArg (p :: ·) (hlater _ fun q => ?_).symm
      rw [List.contains_cons, Bool.not_or, Bool.and_comm]
      congr 1
      rw [bne, BEq.comm]

theorem firstOfEach_eq (packages : List Package) : firstOfEach [] packages = firstPackages packages := by
  rw [firstOfEach_eq_filter, firstPackages]
  simp

theorem firstOfEach_subset (seen : List (Option String × Option String)) (packages : List Package) :
    firstOfEach seen packages ⊆ packages := by
  induction packages generalizing seen with
  | nil => exact List.Subset.refl _
  | cons p rest ih =>
    rw [firstOfEach]
    split
    · exact List.subset_cons_of_subset p (ih seen)
    · exact List.cons_subset_cons p (ih _)

theorem exists_mem_firstOfEach {seen : List (Option String × Option String)} {packages : List Package}
    {p : Package} (hp : p ∈ packages) (hseen : (p.name, p.version) ∉ seen) :
    ∃ q ∈ firstOfEach seen packages, q.name = p.name ∧ q.version = p.version := by
  induction packages generalizing seen with
  | nil => cases hp
  | cons q rest ih =>
    rw [firstOfEach]
    split
    · next hq =>
      rcases List.mem_cons.mp hp with rfl | hp
      · exact absurd (List.contains_iff_mem.mp hq) hseen
      · exact ih hp hseen
    · by_cases hpair : (p.name, p.version) = (q.name, q.version)
      · rw [Prod.mk.injEq] at hpair
        exact ⟨q, List.mem_cons_self, hpair.1.symm, hpair.2.symm⟩
      · rcases List.mem_cons.mp hp with rfl | hp
        · exact absurd rfl hpair
        · obtain ⟨r, hr, hname, hversion⟩ := ih hp (List.not_mem_cons_of_ne_of_not_mem hpair hseen)
          exact ⟨r, List.mem_cons_of_mem q hr, hname, hversion⟩

theorem affectedPackages_eq (osVersion : String) (criteria : Element) : affectedPackages osVersion criteria =
    firstPackages (((placesIn [] criteria).filter (·.InScope (Release.majorVersion osVersion))).filterMap
      Place.package?) := by
  rw [affectedPackages, filter_packagesIn, firstOfEach_eq]

theorem packages_eq (target : Target) (id : String) (e : Element) : (definition target id e).packages =
    firstPackages (((placesOf e).filter (·.InScope (Release.majorVersion target.osVersion))).filterMap
      Place.package?) := by
  rw [definition, placesOf]
  cases e.child? "criteria" with
  | none => rfl
  | some criteria => simp [affectedPackages_eq]

theorem eq_of_pair {places : List Place} {p q : Package} (hp : p ∈ places.filterMap Place.package?)
    (hq : q ∈ places.filterMap Place.package?) (hname : q.name = p.name) (hversion : q.version = p.version) :
    q = p := by
  obtain ⟨_, _, hp⟩ := List.mem_filterMap.mp hp
  obtain ⟨_, _, hq⟩ := List.mem_filterMap.mp hq
  rw [Package.eq_mk_of_ofComment? hp, Package.eq_mk_of_ofComment? hq, hname, hversion]

theorem mem_packages_iff (target : Target) (id : String) (e : Element) (p : Package) :
    p ∈ (definition target id e).packages ↔
      ∃ place ∈ placesOf e, place.InScope (Release.majorVersion target.osVersion) ∧ place.package? = some p := by
  rw [packages_eq, ← firstOfEach_eq]
  have hmem (q : Package) : q ∈ ((placesOf e).filter (·.InScope (Release.majorVersion target.osVersion))).filterMap
      Place.package? ↔
        ∃ place ∈ placesOf e, place.InScope (Release.majorVersion target.osVersion) ∧ place.package? = some q := by
    simp [List.mem_filterMap, and_assoc]
  rw [← hmem]
  refine ⟨fun hp => firstOfEach_subset _ _ hp, fun hp => ?_⟩
  -- The package that stands in its place has the same name and version, and these are all that a comment tells.
  obtain ⟨q, hq, hname, hversion⟩ := exists_mem_firstOfEach hp (List.not_mem_nil (a := (p.name, p.version)))
  rwa [← eq_of_pair hp (firstOfEach_subset _ _ hq) hname hversion]

theorem named_criteria_of_criterion {e : Element} (h : e.named "criterion" = true) :
    e.named "criteria" = false := by
  rw [Element.named, beq_iff_eq] at h
  rw [Element.named, h]
  decide

theorem mem_placesAmong_iff (around children : List Element) (p : Place) : p ∈ placesAmong around children ↔
    (∃ c ∈ children.filter (Element.named "criterion"), p = ⟨around, c⟩) ∨
      ∃ d ∈ children.filter (Element.named "criteria"), p ∈ placesIn around d := by
  induction children with
  | nil => simp [placesAmong]
  | cons e rest ih =>
    rw [placesAmong, List.mem_append, ih]
    by_cases hcriterion : e.named "criterion" = true
    · simp [hcriterion, named_criteria_of_criterion hcriterion, or_assoc]
    · by_cases hcriteria : e.named "criteria" = true
      · simp [hcriterion, hcriteria, or_left_comm]
      · simp [hcriterion, hcriteria]

theorem mem_placesIn_iff (outer : List Element) (e : Element) (p : Place) : p ∈ placesIn outer e ↔
    (∃ c ∈ e.childrenNamed "criterion", p = ⟨e :: outer, c⟩) ∨
      ∃ d ∈ e.childrenNamed "criteria", p ∈ placesIn (e :: outer) d := by
  obtain ⟨tag, attributes, text, children⟩ := e
  rw [placesIn]
  exact mem_placesAmong_iff ..

/-- The second criteria are nested in the first, inside those listed, the innermost first. -/
inductive Reaches (top : Element) : Element → List Element → Prop where
  | top : Reaches top top []
  | inside {criteria inner : Element} {outer : List Element} : Reaches top criteria outer →
    inner ∈ criteria.childrenNamed "criteria" → Reaches top inner (criteria :: outer)

theorem Reaches.placesIn_subset {top e : Element} {outer : List Element} (h : Reaches top e outer) :
    placesIn outer e ⊆ placesIn [] top := by
  induction h with
  | top => exact List.Subset.refl _
  | inside _ hinner ih =>
    intro p hp
    exact ih ((mem_placesIn_iff ..).mpr (.inr ⟨_, hinner, hp⟩))

section Reaches

variable {top : Element} {p : Place}

mutual

theorem Reaches.of_mem_placesIn {outer : List Element} (e : Element) (h : Reaches top e outer)
    (hp : p ∈ placesIn outer e) : ∃ criteria around, Reaches top criteria around ∧ p.around = criteria :: around ∧
      p.criterion ∈ criteria.childrenNamed "criterion" := by
  obtain ⟨tag, attributes, text, children⟩ := e
  rw [placesIn] at hp
  exact Reaches.of_mem_placesAmong children (List.Subset.refl _) h hp

theorem Reaches.of_mem_placesAmong {outer : List Element} {e : Element} (children : List Element)
    (hchildren : children ⊆ e.children) (h : Reaches top e outer) (hp : p ∈ placesAmong (e :: outer) children) :
    ∃ criteria around, Reaches top criteria around ∧ p.around = criteria :: around ∧
      p.criterion ∈ criteria.childrenNamed "criterion" := by
  cases children with
  | nil => cases hp
  | cons d rest =>
    obtain ⟨hd, hrest⟩ := List.cons_subset.mp hchildren
    rw [placesAmong] at hp
    rcases List.mem_append.mp hp with hp | hp
    · split at hp
      · next hcriterion =>
        obtain rfl := List.mem_singleton.mp hp
        exact ⟨e, outer, h, rfl, List.mem_filter.mpr ⟨hd, hcriterion⟩⟩
      · split at hp
        · next hcriteria =>
          exact Reaches.of_mem_placesIn d (.inside h (List.mem_filter.mpr ⟨hd, hcriteria⟩)) hp
        · cases hp
    · exact Reaches.of_mem_placesAmong rest hrest h hp

end

end Reaches

theorem mem_placesOf_iff (e : Element) (p : Place) : p ∈ placesOf e ↔
    ∃ top criteria outer, e.child? "criteria" = some top ∧ Reaches top criteria outer ∧
      p.around = criteria :: outer ∧ p.criterion ∈ criteria.childrenNamed "criterion" := by
  rw [placesOf, List.mem_flatMap]
  constructor
  · rintro ⟨top, htop, hp⟩
    obtain ⟨criteria, outer, hreaches, haround, hcriterion⟩ := Reaches.of_mem_placesIn top .top hp
    exact ⟨top, criteria, outer, Option.mem_toList.mp htop, hreaches, haround, hcriterion⟩
  · rintro ⟨top, criteria, outer, htop, hreaches, haround, hcriterion⟩
    refine ⟨top, Option.mem_toList.mpr htop, hreaches.placesIn_subset ?_⟩
    exact (mem_placesIn_iff ..).mpr (.inl ⟨p.criterion, hcriterion, by rw [← haround]⟩)

/-- The packages of a definition are those that its criteria name, each once. A package counts where the innermost
criteria around it that name a release name that of the version last, or where none do. -/
theorem affected_packages_exact (target : Target) (id : String) (e : Element) :
    (definition target id e).packages =
        firstPackages (((placesOf e).filter (·.InScope (Release.majorVersion target.osVersion))).filterMap
          Place.package?) ∧
      (∀ p : Place, p ∈ placesOf e ↔ ∃ top criteria outer, e.child? "criteria" = some top ∧
        Reaches top criteria outer ∧ p.around = criteria :: outer ∧
          p.criterion ∈ criteria.childrenNamed "criterion") ∧
      (definition target id e).packages.map (·.notFixedYet) =
        (definition target id e).packages.map fun p => some (p.version == some "") := by
  refine ⟨packages_eq target id e, mem_placesOf_iff e, ?_⟩
  apply List.map_congr_left
  intro p hp
  obtain ⟨_, _, _, hp⟩ := (mem_packages_iff target id e p).mp hp
  rw [Package.eq_mk_of_ofComment? hp]

end OvalCatalog.Oval
