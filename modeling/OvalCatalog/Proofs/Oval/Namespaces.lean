import Mathlib.Data.List.Forall2
import OvalCatalog.Oval.Document
import OvalCatalog.Proofs.Text.Cutting

/-! Documents are read by local names: trees with the same names, attributes and texts at the same places read
alike, whatever the namespaces in their tags. -/

namespace OvalCatalog.Oval

open Xml (Element Scope)

theorem localTag_expanded (identifier name : String) : localTag (Scope.expanded identifier name) = localTag name := by
  rw [Scope.expanded]
  split
  · rfl
  · rw [localTag, localTag, String.toList_append, String.toList_append, List.append_assoc]
    exact congrArg String.ofList (Text.afterLast_append_mark _ _ _)

theorem localTag_expanded_eq (identifier identifier' name : String) :
    localTag (Scope.expanded identifier name) = localTag (Scope.expanded identifier' name) := by
  rw [localTag_expanded, localTag_expanded]

inductive Retagged : Element → Element → Prop
  | intro {tag tag' : String} {attributes : List (String × String)} {text : String} {children children' : List Element}
      (htag : localTag tag = localTag tag') (hchildren : List.Forall₂ Retagged children children') :
      Retagged ⟨tag, attributes, text, children⟩ ⟨tag', attributes, text, children'⟩

def IgnoresNamespaces {α : Type} (f : Element → α) : Prop :=
  ∀ ⦃a b⦄, Retagged a b → f a = f b

variable {α : Type} {a b : Element} {l l' : List Element}

theorem Retagged.children (h : Retagged a b) : List.Forall₂ Retagged a.children b.children := by
  cases h with
  | intro _ hchildren => exact hchildren

namespace IgnoresNamespaces

theorem named (name : String) : IgnoresNamespaces (Element.named name) := by
  intro a b h
  cases h with
  | intro htag _ => rw [Element.named, Element.named, htag]

theorem attribute? (key : String) : IgnoresNamespaces (Element.attribute? key) := by
  intro a b h
  cases h
  rfl

theorem attributeText (key : String) : IgnoresNamespaces (Element.attributeText key) := by
  intro a b h
  rw [Element.attributeText, Element.attributeText, attribute? key h]

theorem content : IgnoresNamespaces Element.content := by
  intro a b h
  cases h
  rfl

theorem map {f : Element → α} (hf : IgnoresNamespaces f) (h : List.Forall₂ Retagged l l') : l.map f = l'.map f := by
  rw [← List.forall₂_eq_eq_eq]
  exact List.rel_map hf h

theorem filter {p : Element → Bool} (hp : IgnoresNamespaces p) (h : List.Forall₂ Retagged l l') :
    List.Forall₂ Retagged (l.filter p) (l'.filter p) :=
  List.rel_filter (fun _ _ hab => Bool.eq_iff_iff.mp (hp hab)) h

theorem find?_cases {p : Element → Bool} (hp : IgnoresNamespaces p) (h : List.Forall₂ Retagged l l') :
    (l.find? p = none ∧ l'.find? p = none) ∨
      ∃ c d, l.find? p = some c ∧ l'.find? p = some d ∧ Retagged c d := by
  induction h with
  | nil => exact .inl ⟨rfl, rfl⟩
  | @cons a b _ _ hab _ ih =>
    rw [List.find?_cons, List.find?_cons, hp hab]
    split
    · exact .inr ⟨a, b, rfl, rfl, hab⟩
    · exact ih

end IgnoresNamespaces

namespace Retagged

theorem childrenNamed (h : Retagged a b) (name : String) :
    List.Forall₂ Retagged (a.childrenNamed name) (b.childrenNamed name) :=
  (IgnoresNamespaces.named name).filter h.children

theorem child?_cases (h : Retagged a b) (name : String) : (a.child? name = none ∧ b.child? name = none) ∨
    ∃ c d, a.child? name = some c ∧ b.child? name = some d ∧ Retagged c d :=
  (IgnoresNamespaces.named name).find?_cases h.children

theorem childOr (h : Retagged a b) (name : String) {absent : Element} (habsent : Retagged absent absent) :
    Retagged ((a.child? name).getD absent) ((b.child? name).getD absent) := by
  obtain ⟨ha, hb⟩ | ⟨c, d, ha, hb, hcd⟩ := h.child?_cases name
  · rw [ha, hb]
    exact habsent
  · rw [ha, hb]
    exact hcd

end Retagged

namespace IgnoresNamespaces

variable {f : Element → α}

theorem mapChildren (hf : IgnoresNamespaces f) (name : String) (h : Retagged a b) :
    (a.childrenNamed name).map f = (b.childrenNamed name).map f :=
  hf.map (h.childrenNamed name)

theorem mapChild (hf : IgnoresNamespaces f) (name : String) (h : Retagged a b) :
    (a.child? name).map f = (b.child? name).map f := by
  obtain ⟨ha, hb⟩ | ⟨c, d, ha, hb, hcd⟩ := h.child?_cases name
  · rw [ha, hb]
  · rw [ha, hb, Option.map_some, Option.map_some, hf hcd]

theorem mapFilled (hf : IgnoresNamespaces f) (name : String) (h : Retagged a b) :
    ((a.childrenNamed name).filter fun c => c.content != "").map f =
      ((b.childrenNamed name).filter fun c => c.content != "").map f := by
  have hfilled : IgnoresNamespaces fun c : Element => c.content != "" := fun _ _ h => congrArg (· != "") (content h)
  exact hf.map (hfilled.filter (h.childrenNamed name))

theorem childContent (name : String) : IgnoresNamespaces (Element.childContent name) := by
  intro a b h
  rw [Element.childContent, Element.childContent, content.mapChild name h]

end IgnoresNamespaces

open IgnoresNamespaces (attributeText childContent content)

section Criteria

theorem comment_ignores : IgnoresNamespaces comment :=
  attributeText "comment"

theorem releaseOf_congr (outer : Option (List Char)) (h : List.Forall₂ Retagged l l') :
    releaseOf outer l = releaseOf outer l' := by
  have hcomments : (l.filter (Element.named "criterion")).map comment =
      (l'.filter (Element.named "criterion")).map comment :=
    comment_ignores.map ((IgnoresNamespaces.named "criterion").filter h)
  have hfold := congrArg (List.foldl (fun release c => (oracleRelease? c).or release) outer) hcomments
  rwa [List.foldl_map, List.foldl_map] at hfold

mutual

theorem packagesIn_congr (outer : Option (List Char)) (a : Element) {b : Element} (h : Retagged a b) :
    packagesIn outer a = packagesIn outer b := by
  -- the recursion is on the first tree, the relation takes the second one apart alike
  obtain ⟨tag, attributes, text, children⟩ := a
  cases h with
  | intro _ hchildren =>
    rw [packagesIn, packagesIn, releaseOf_congr outer hchildren]
    exact packagesAmong_congr _ children hchildren

theorem packagesAmong_congr (release : Option (List Char)) (l : List Element) {l' : List Element}
    (h : List.Forall₂ Retagged l l') : packagesAmong release l = packagesAmong release l' := by
  cases l with
  | nil =>
    cases h
    rfl
  | cons a rest =>
    cases h with
    | cons hab hrest =>
      rw [packagesAmong, packagesAmong, IgnoresNamespaces.named "criterion" hab,
        IgnoresNamespaces.named "criteria" hab, comment_ignores hab, packagesIn_congr release a hab,
        packagesAmong_congr release rest hrest]

end

theorem affectedPackages_ignores (osVersion : String) : IgnoresNamespaces (affectedPackages osVersion) := by
  intro a b h
  rw [affectedPackages, affectedPackages, packagesIn_congr none a h]

end Criteria

section Metadata

theorem references_ignores : IgnoresNamespaces references := by
  intro a b h
  refine IgnoresNamespaces.mapChildren ?_ "reference" h
  intro r r' hr
  simp only [attributeText _ hr]

theorem listedCves_ignores : IgnoresNamespaces listedCves := by
  intro a b h
  refine IgnoresNamespaces.mapFilled ?_ "cve" h
  intro c c' hc
  simp only [attributeText _ hc, content hc]

theorem bugzillas_ignores : IgnoresNamespaces bugzillas := by
  intro a b h
  refine IgnoresNamespaces.mapChildren ?_ "bugzilla" h
  intro c c' hc
  simp only [attributeText _ hc, content hc]

theorem cpes_ignores : IgnoresNamespaces cpes := by
  intro a b h
  obtain ⟨ha, hb⟩ | ⟨list, list', ha, hb, hlist⟩ := h.child?_cases "affected_cpe_list"
  · rw [cpes, cpes, ha, hb]
  · rw [cpes, cpes, ha, hb]
    refine IgnoresNamespaces.mapFilled ?_ "cpe" hlist
    intro c c' hc
    simp only [content hc]

theorem dateOf_ignores (name : String) : IgnoresNamespaces (dateOf name) := by
  intro a b h
  rw [dateOf, dateOf, (attributeText "date").mapChild name h]

theorem describedAdvisory_ignores : IgnoresNamespaces describedAdvisory := by
  intro a b h
  simp only [describedAdvisory, childContent _ h, dateOf_ignores _ h, listedCves_ignores h, bugzillas_ignores h,
    cpes_ignores h]

theorem advisoryOf_ignores (references : List Reference) : IgnoresNamespaces fun e => advisoryOf e references := by
  intro a b h
  simp only [advisoryOf, describedAdvisory_ignores.mapChild "advisory" h]

theorem debianOf_ignores (title : String) : IgnoresNamespaces (debianOf title) := by
  intro a b h
  simp only [debianOf, childContent _ (h.childOr "debian" (.intro rfl .nil))]

theorem appliesToOracle_ignores (osVersion : String) : IgnoresNamespaces (appliesToOracle osVersion) := by
  intro a b h
  obtain ⟨ha, hb⟩ | ⟨affected, affected', ha, hb, haffected⟩ := h.child?_cases "affected"
  · rw [appliesToOracle, appliesToOracle, ha, hb]
  · have hplatforms := content.mapChildren "platform" haffected
    have hany := congrArg (List.any · (· == "Oracle Linux " ++ Release.majorVersion osVersion)) hplatforms
    rw [appliesToOracle, appliesToOracle, ha, hb]
    simpa only [List.any_map, Function.comp_def] using hany

end Metadata

section Definitions

variable (target : Target)

theorem Retagged.metadataOf (h : Retagged a b) : Retagged (metadataOf a) (metadataOf b) :=
  h.childOr "metadata" (.intro rfl .nil)

theorem applies_ignores : IgnoresNamespaces (applies target) := by
  intro a b h
  rw [applies, applies, appliesToOracle_ignores _ h.metadataOf]

theorem definition_ignores (id : String) : IgnoresNamespaces (definition target id) := by
  intro a b h
  have hm := h.metadataOf
  simp only [definition, references_ignores hm, advisoryOf_ignores _ hm, childContent _ hm, debianOf_ignores _ hm,
    (affectedPackages_ignores target.osVersion).mapChild "criteria" h]

theorem convert_congr (h : List.Forall₂ Retagged l l') : convert target l = convert target l' := by
  induction h with
  | nil => rfl
  | cons hab _ ih =>
    rw [convert, convert, attributeText "id" hab, ih, applies_ignores target hab]
    simp only [definition_ignores target _ hab]

theorem Retagged.definitionElements (h : Retagged a b) :
    List.Forall₂ Retagged (definitionElements a) (definitionElements b) := by
  have hclass : IgnoresNamespaces fun e : Element => e.attribute? "class" != some "inventory" :=
    fun _ _ h => congrArg (· != some "inventory") (IgnoresNamespaces.attribute? "class" h)
  obtain ⟨ha, hb⟩ | ⟨c, d, ha, hb, hlist⟩ := h.child?_cases "definitions"
  · rw [Oval.definitionElements, Oval.definitionElements, ha, hb]
    exact .nil
  · rw [Oval.definitionElements, Oval.definitionElements, ha, hb]
    exact hclass.filter (hlist.childrenNamed "definition")

theorem timestampOf_ignores : IgnoresNamespaces (timestampOf target) := by
  intro a b h
  rw [timestampOf, timestampOf, (childContent "timestamp").mapChild "generator" h]

/-- A tree and the same with other namespaces read alike for every target: at the same time the same definitions,
or the same error. -/
theorem namespaces_ignored (h : Retagged a b) : Document.ofElement target a = Document.ofElement target b := by
  rw [Document.ofElement, Document.ofElement, timestampOf_ignores target h, convert_congr target h.definitionElements]

end Definitions

def alertIn (own shared : String) : Element :=
  let title : Element := { tag := Scope.expanded own "title", text := "curl" }
  let criterion : Element :=
    { tag := Scope.expanded own "criterion", attributes := [("comment", "curl is earlier than 1")] }
  let definition : Element :=
    { tag := Scope.expanded own "definition"
      attributes := [("id", "a")]
      children := [{ tag := Scope.expanded own "metadata", children := [title] },
        { tag := Scope.expanded own "criteria", children := [criterion] }] }
  let timestamp : Element := { tag := Scope.expanded shared "timestamp", text := "2099-01-01T00:00:00" }
  { tag := Scope.expanded own "oval_definitions"
    children := [{ tag := Scope.expanded own "generator", children := [timestamp] },
      { tag := Scope.expanded own "definitions", children := [definition] }] }

theorem retagged_alertIn (own shared own' shared' : String) : Retagged (alertIn own shared) (alertIn own' shared') := by
  have hown (name : String) := localTag_expanded_eq own own' name
  have hshared := localTag_expanded_eq shared shared' "timestamp"
  refine .intro (hown _) (.cons (.intro (hown _) (.cons ?_ .nil)) (.cons (.intro (hown _) (.cons ?_ .nil)) .nil))
  · exact .intro hshared .nil
  · refine .intro (hown _) (.cons (.intro (hown _) (.cons ?_ .nil)) (.cons (.intro (hown _) (.cons ?_ .nil)) .nil))
    · exact .intro (hown _) .nil
    · exact .intro (hown _) .nil

theorem namespaces_ignored_in_alert :
    let spaced := alertIn "http://oval.mitre.org/XMLSchema/oval-definitions-5"
      "http://oval.mitre.org/XMLSchema/oval-common-5"
    let plain := alertIn "" ""
    Retagged spaced plain ∧
      Document.ofElement ⟨"redhat", "7"⟩ spaced = Document.ofElement ⟨"redhat", "7"⟩ plain ∧
      (Document.ofElement ⟨"redhat", "7"⟩ plain).toOption.map (fun document => document.definitions.map fun d =>
        (d.definitionId, d.title, d.packages.map (·.name))) = some [(some "a", some "curl", [some "curl"])] := by
  intro spaced plain
  have hretagged : Retagged spaced plain := retagged_alertIn _ _ _ _
  exact ⟨hretagged, namespaces_ignored ⟨"redhat", "7"⟩ hretagged, by decide +kernel⟩

end OvalCatalog.Oval
