import Mathlib.Data.List.Perm.Basic
import OvalCatalog.PackageComment
import OvalCatalog.Proofs.Text.Cutting

/-! What comments say about packages. Each of the four shapes can be read alone, no text has two of them, and what
is read from a text in some shape is what is written in that shape. -/

namespace OvalCatalog

namespace PackageComment

inductive Shape where
  | dpkgEarlier
  | dpkgInstalled
  | earlier
  | installed
  deriving DecidableEq, Repr

def Shape.all : List Shape :=
  [dpkgEarlier, dpkgInstalled, earlier, installed]

theorem Shape.mem_all (shape : Shape) : shape ∈ Shape.all := by
  cases shape <;> decide

def shape : PackageComment → Shape
  | earlier .. => .earlier
  | dpkgEarlier .. => .dpkgEarlier
  | dpkgInstalled _ => .dpkgInstalled
  | installed .. => .installed

def WellFormed : PackageComment → Prop
  | earlier name version | dpkgEarlier name version => isWord name = true ∧ isWord version = true
  | dpkgInstalled name => isWord name = true
  | installed name version release =>
    isWord name = true ∧ isWord version = true ∧ isWord release = true ∧ '-' ∉ version ∧ '-' ∉ release

def word : PackageComment → List Char
  | earlier name _ | dpkgEarlier name _ | dpkgInstalled name => name
  | installed name version release => name ++ '-' :: version ++ '-' :: release

def tail : PackageComment → List Char
  | earlier _ version => earlierThan ++ version
  | dpkgEarlier _ version => dpkg ++ earlierThan ++ version
  | dpkgInstalled _ => dpkg ++ isInstalled
  | installed .. => isInstalled

def Shape.readAfter? (shape : Shape) (word rest : List Char) : Option PackageComment :=
  match shape with
  | .earlier => (earlierVersion? rest).map (PackageComment.earlier word)
  | .dpkgEarlier => ((Text.after? dpkg rest).bind earlierVersion?).map (PackageComment.dpkgEarlier word)
  | .dpkgInstalled => if rest = dpkg ++ isInstalled then some (PackageComment.dpkgInstalled word) else none
  | .installed => if rest = isInstalled then installed? word else none

def Shape.read? (shape : Shape) (s : List Char) : Option PackageComment :=
  let word := s.takeWhile fun c => !Text.isBlank c
  if word.isEmpty then none
  else shape.readAfter? word (s.dropWhile fun c => !Text.isBlank c)

theorem isWord_iff (s : List Char) : isWord s = true ↔ s ≠ [] ∧ ∀ c ∈ s, Text.isBlank c = false := by
  simp [isWord]

theorem isWord_append (s t : List Char) :
    isWord (s ++ '-' :: t) = true ↔ (∀ c ∈ s, Text.isBlank c = false) ∧ ∀ c ∈ t, Text.isBlank c = false := by
  have hhyphen : Text.isBlank '-' = false := by decide
  simp [isWord_iff, or_imp, forall_and, hhyphen]

theorem isWord_word {c : PackageComment} (h : c.WellFormed) : isWord c.word = true := by
  cases c with
  | earlier name version => exact h.1
  | dpkgEarlier name version => exact h.1
  | dpkgInstalled name => exact h
  | installed name version release =>
    obtain ⟨hname, hversion, hrelease, -, -⟩ := h
    rw [isWord_iff] at hname hversion hrelease
    rw [word, List.append_assoc, List.cons_append, isWord_append]
    refine ⟨hname.2, fun c hc => ?_⟩
    rcases List.mem_append.mp hc with hc | hc
    · exact hversion.2 c hc
    · rcases List.mem_cons.mp hc with rfl | hc
      · decide
      · exact hrelease.2 c hc

theorem render_eq (c : PackageComment) : c.render = c.word ++ c.tail := by
  cases c <;> simp [render, word, tail]

theorem tail_eq_cons (c : PackageComment) : ∃ rest, c.tail = ' ' :: rest := by
  cases c <;> exact ⟨_, rfl⟩

theorem takeWhile_render {c : PackageComment} (h : c.WellFormed) :
    (c.render.takeWhile fun c => !Text.isBlank c) = c.word ∧
      (c.render.dropWhile fun c => !Text.isBlank c) = c.tail := by
  have hword : ∀ d ∈ c.word, (!Text.isBlank d) = true := by
    intro d hd
    rw [((isWord_iff _).mp (isWord_word h)).2 d hd]
    rfl
  have hblank : (!Text.isBlank ' ') = false := by decide
  obtain ⟨rest, htail⟩ := c.tail_eq_cons
  rw [render_eq, htail, List.takeWhile_append_of_pos hword, List.dropWhile_append_of_pos hword,
    List.takeWhile_cons_of_neg (by simp [hblank]), List.dropWhile_cons_of_neg (by simp [hblank])]
  exact ⟨List.append_nil _, rfl⟩

theorem earlierVersion?_eq_some_iff (s version : List Char) :
    earlierVersion? s = some version ↔ isWord version = true ∧ s = earlierThan ++ version := by
  rw [earlierVersion?, Option.bind_eq_some_iff]
  constructor
  · rintro ⟨v, hv, h⟩
    split at h
    · next hword =>
      cases h
      exact ⟨hword, (Text.after?_eq_some_iff ..).mp hv⟩
    · cases h
  · rintro ⟨hword, rfl⟩
    exact ⟨version, Text.after?_append .., if_pos hword⟩

theorem installed?_eq_some_iff {s : List Char} (hs : isWord s = true) (c : PackageComment) :
    installed? s = some c ↔ c.shape = .installed ∧ c.WellFormed ∧ s = c.word := by
  rw [isWord_iff] at hs
  simp only [installed?, Option.bind_eq_bind, Option.bind_eq_some_iff, Prod.exists, Text.cutLast?_eq_some_iff]
  constructor
  · rintro ⟨s', release, ⟨rfl, hrelease⟩, name, version, ⟨rfl, hversion⟩, h⟩
    split at h
    · cases h
    · next hempty =>
      cases h
      simp only [Bool.or_eq_true, List.isEmpty_iff, not_or] at hempty
      refine ⟨rfl, ⟨?_, ?_, ?_, hversion, hrelease⟩, by simp [word]⟩
      · exact (isWord_iff _).mpr ⟨hempty.1.1, fun c hc => hs.2 c (by simp [hc])⟩
      · exact (isWord_iff _).mpr ⟨hempty.1.2, fun c hc => hs.2 c (by simp [hc])⟩
      · exact (isWord_iff _).mpr ⟨hempty.2, fun c hc => hs.2 c (by simp [hc])⟩
  · rintro ⟨hshape, hwell, rfl⟩
    cases c with
    | installed name version release =>
      obtain ⟨hname, hversion, hrelease, hv, hr⟩ := hwell
      rw [isWord_iff] at hname hversion hrelease
      refine ⟨_, release, ⟨rfl, hr⟩, name, version, ⟨rfl, hv⟩, ?_⟩
      simp [hname.1, hversion.1, hrelease.1]
    | earlier name version => cases hshape
    | dpkgEarlier name version => cases hshape
    | dpkgInstalled name => cases hshape

theorem Shape.readAfter?_eq_some_iff (shape : Shape) {word : List Char} (hword : isWord word = true)
    (rest : List Char) (c : PackageComment) :
    shape.readAfter? word rest = some c ↔
      c.shape = shape ∧ c.WellFormed ∧ word = c.word ∧ rest = c.tail := by
  cases shape with
  | earlier =>
    simp only [readAfter?, Option.map_eq_some_iff, earlierVersion?_eq_some_iff]
    constructor
    · rintro ⟨version, ⟨hversion, rfl⟩, rfl⟩
      exact ⟨rfl, ⟨hword, hversion⟩, rfl, rfl⟩
    · rintro ⟨hshape, hwell, rfl, rfl⟩
      cases c <;> cases hshape
      exact ⟨_, ⟨hwell.2, rfl⟩, rfl⟩
  | dpkgEarlier =>
    simp only [readAfter?, Option.map_eq_some_iff, Option.bind_eq_some_iff, Text.after?_eq_some_iff,
      earlierVersion?_eq_some_iff]
    constructor
    · rintro ⟨version, ⟨_, rfl, hversion, rfl⟩, rfl⟩
      exact ⟨rfl, ⟨hword, hversion⟩, rfl, by rw [tail, List.append_assoc]⟩
    · rintro ⟨hshape, hwell, rfl, rfl⟩
      cases c <;> cases hshape
      exact ⟨_, ⟨_, by rw [tail, List.append_assoc], hwell.2, rfl⟩, rfl⟩
  | dpkgInstalled =>
    simp only [readAfter?]
    constructor
    · intro h
      split at h
      · next hrest =>
        cases h
        exact ⟨rfl, hword, rfl, hrest⟩
      · cases h
    · rintro ⟨hshape, hwell, rfl, rfl⟩
      cases c <;> cases hshape
      rfl
  | installed =>
    simp only [readAfter?]
    constructor
    · intro h
      split at h
      · next hrest =>
        obtain ⟨hshape, hwell, hs⟩ := (installed?_eq_some_iff hword c).mp h
        refine ⟨hshape, hwell, hs, ?_⟩
        cases c <;> cases hshape
        exact hrest
      · cases h
    · rintro ⟨hshape, hwell, hs, rfl⟩
      have htail : c.tail = isInstalled := by
        cases c <;> cases hshape
        rfl
      rw [if_pos htail]
      exact (installed?_eq_some_iff hword c).mpr ⟨hshape, hwell, hs⟩

theorem Shape.read?_eq_some_iff (shape : Shape) (s : List Char) (c : PackageComment) :
    shape.read? s = some c ↔ c.shape = shape ∧ c.WellFormed ∧ s = c.render := by
  unfold read?
  dsimp only
  constructor
  · intro h
    split at h
    · cases h
    · next hempty =>
      have hword : isWord (s.takeWhile fun c => !Text.isBlank c) = true :=
        (isWord_iff _).mpr ⟨fun he => hempty (by rw [he]; rfl),
          fun d hd => by simpa using List.mem_takeWhile_imp hd⟩
      obtain ⟨hshape, hwell, hw, ht⟩ := (shape.readAfter?_eq_some_iff hword _ c).mp h
      refine ⟨hshape, hwell, ?_⟩
      rw [render_eq, ← hw, ← ht, List.takeWhile_append_dropWhile]
  · rintro ⟨hshape, hwell, rfl⟩
    have hword := isWord_word hwell
    rw [(takeWhile_render hwell).1, (takeWhile_render hwell).2,
      if_neg (by simpa using ((isWord_iff _).mp hword).1)]
    exact (shape.readAfter?_eq_some_iff hword _ c).mpr ⟨hshape, hwell, rfl, rfl⟩

theorem shape_eq_of_tail {c d : PackageComment} (h : c.tail = d.tail) : c.shape = d.shape := by
  cases c <;> cases d <;> first | rfl | cases h

theorem eq_of_render {c d : PackageComment} (hc : c.WellFormed) (hd : d.WellFormed)
    (h : c.render = d.render) : c = d := by
  have htail : c.tail = d.tail := by
    rw [← (takeWhile_render hc).2, h, (takeWhile_render hd).2]
  have hread := (c.shape.read?_eq_some_iff c.render c).mpr ⟨rfl, hc, rfl⟩
  have hread' := (c.shape.read?_eq_some_iff c.render d).mpr ⟨(shape_eq_of_tail htail).symm, hd, h⟩
  exact Option.some.inj (hread.symm.trans hread')

theorem findSome?_read?_eq_some_iff {order : List Shape} (horder : order.Perm Shape.all) (s : List Char)
    (c : PackageComment) : order.findSome? (·.read? s) = some c ↔ c.WellFormed ∧ s = c.render := by
  have hread {d : PackageComment} (h : order.findSome? (·.read? s) = some d) : d.WellFormed ∧ s = d.render := by
    obtain ⟨shape, _, h⟩ := List.exists_of_findSome?_eq_some h
    exact ((shape.read?_eq_some_iff s d).mp h).2
  refine ⟨hread, fun h => ?_⟩
  cases hfound : order.findSome? (·.read? s) with
  | none =>
    have hnone := List.findSome?_eq_none_iff.mp hfound c.shape (horder.mem_iff.mpr c.shape.mem_all)
    rw [(c.shape.read?_eq_some_iff s c).mpr ⟨rfl, h⟩] at hnone
    cases hnone
  | some d =>
    obtain ⟨hd, hs⟩ := hread hfound
    rw [eq_of_render hd h.1 (hs.symm.trans h.2)]

theorem findSome?_readAfter? (word rest : List Char) :
    Shape.all.findSome? (·.readAfter? word rest) =
      match Text.after? dpkg rest with
      | some rest =>
        match earlierVersion? rest with
        | some version => some (dpkgEarlier word version)
        | none => if rest = isInstalled then some (dpkgInstalled word) else none
      | none =>
        match earlierVersion? rest with
        | some version => some (earlier word version)
        | none => if rest = isInstalled then installed? word else none := by
  -- A text that goes on with the mark of `dpkg` has none of the two shapes without it, and the other way round.
  cases h : Text.after? dpkg rest with
  | some rest' =>
    obtain rfl : rest = dpkg ++ rest' := (Text.after?_eq_some_iff ..).mp h
    have hearlier : earlierVersion? (dpkg ++ rest') = none := rfl
    have hinstalled : dpkg ++ rest' ≠ isInstalled := by
      intro he
      cases he
    cases hv : earlierVersion? rest' with
    | some version => simp [Shape.all, Shape.readAfter?, h, hv]
    | none =>
      by_cases hr : rest' = isInstalled
      · subst hr
        rfl
      · simp [Shape.all, Shape.readAfter?, h, hv, hearlier, hinstalled, hr]
  | none =>
    have hdpkg : rest ≠ dpkg ++ isInstalled := by
      rintro rfl
      rw [Text.after?_append] at h
      cases h
    cases hv : earlierVersion? rest <;> simp [Shape.all, Shape.readAfter?, h, hv, hdpkg]

theorem read?_eq_findSome? (comment : List Char) :
    read? comment = Shape.all.findSome? (·.read? (Text.trim comment)) := by
  unfold read? Shape.read?
  dsimp only
  split
  · rfl
  · exact (findSome?_readAfter? ..).symm

theorem read?_eq_some_iff (comment : List Char) (c : PackageComment) :
    read? comment = some c ↔ c.WellFormed ∧ Text.trim comment = c.render := by
  rw [read?_eq_findSome?]
  exact findSome?_read?_eq_some_iff (List.Perm.refl _) _ c

theorem trim_render {c : PackageComment} (h : c.WellFormed) : Text.trim c.render = c.render := by
  apply Text.trim_eq_self
  · intro d hd
    have hword := (isWord_iff _).mp (isWord_word h)
    rw [render_eq, List.head?_append_of_ne_nil _ hword.1] at hd
    exact hword.2 d (List.mem_of_mem_head? hd)
  · intro d hd
    cases c with
    | earlier name version =>
      have hversion := (isWord_iff _).mp h.2
      rw [render, List.getLast?_append_of_ne_nil _ hversion.1] at hd
      exact hversion.2 d (List.mem_of_mem_getLast? hd)
    | dpkgEarlier name version =>
      have hversion := (isWord_iff _).mp h.2
      rw [render, List.getLast?_append_of_ne_nil _ hversion.1] at hd
      exact hversion.2 d (List.mem_of_mem_getLast? hd)
    | dpkgInstalled name =>
      rw [render, List.getLast?_append_of_ne_nil _ (by decide)] at hd
      cases hd
      decide
    | installed name version release =>
      rw [render, List.getLast?_append_of_ne_nil _ (by decide)] at hd
      cases hd
      decide

end PackageComment

namespace Package

open PackageComment (Shape)

def IsWord (s : String) : Prop :=
  s ≠ "" ∧ ∀ c ∈ s.toList, Text.isBlank c = false

inductive NamedBy : Shape → String → Package → Prop where
  | earlier {name version : String} : IsWord name → IsWord version →
    NamedBy .earlier (name ++ " is earlier than " ++ version)
      { name := some name, version := some version, notFixedYet := some false }
  | dpkgEarlier {name version : String} : IsWord name → IsWord version →
    NamedBy .dpkgEarlier (name ++ " DPKG is earlier than " ++ version)
      { name := some name, version := some version, notFixedYet := some false }
  | dpkgInstalled {name : String} : IsWord name →
    NamedBy .dpkgInstalled (name ++ " DPKG is installed")
      { name := some name, version := some "", notFixedYet := some true }
  | installed {name version release : String} : IsWord name → IsWord version → IsWord release →
    '-' ∉ version.toList → '-' ∉ release.toList →
    NamedBy .installed (name ++ "-" ++ version ++ "-" ++ release ++ " is installed")
      { name := some name, version := some (version ++ "-" ++ release), notFixedYet := some false }

theorem isWord_toList {s : String} : PackageComment.isWord s.toList = true ↔ IsWord s := by
  rw [PackageComment.isWord_iff, IsWord]
  simp

theorem namedBy_iff (shape : Shape) (text : String) (p : Package) :
    NamedBy shape text p ↔
      ∃ c : PackageComment, c.shape = shape ∧ c.WellFormed ∧ text.toList = c.render ∧ p = c.package := by
  constructor
  · intro h
    cases h with
    | @earlier name version hname hversion =>
      refine ⟨.earlier name.toList version.toList, rfl,
        ⟨isWord_toList.mpr hname, isWord_toList.mpr hversion⟩, ?_, ?_⟩
      · simp only [String.toList_append]
        rfl
      · simp only [PackageComment.package, String.ofList_toList]
    | @dpkgEarlier name version hname hversion =>
      refine ⟨.dpkgEarlier name.toList version.toList, rfl,
        ⟨isWord_toList.mpr hname, isWord_toList.mpr hversion⟩, ?_, ?_⟩
      · simp only [String.toList_append, PackageComment.render, List.append_assoc]
        rfl
      · simp only [PackageComment.package, String.ofList_toList]
    | @dpkgInstalled name hname =>
      refine ⟨.dpkgInstalled name.toList, rfl, isWord_toList.mpr hname, ?_, ?_⟩
      · simp only [String.toList_append, PackageComment.render, List.append_assoc]
        rfl
      · simp only [PackageComment.package, String.ofList_toList]
    | @installed name version release hname hversion hrelease hv hr =>
      refine ⟨.installed name.toList version.toList release.toList, rfl,
        ⟨isWord_toList.mpr hname, isWord_toList.mpr hversion, isWord_toList.mpr hrelease, hv, hr⟩, ?_, ?_⟩
      · simp only [String.toList_append, PackageComment.render, List.append_assoc]
        rfl
      · simp [PackageComment.package, String.append_assoc]
  · rintro ⟨c, rfl, hwell, htext, rfl⟩
    have hword {s : List Char} (hs : PackageComment.isWord s = true) : IsWord (String.ofList s) :=
      isWord_toList.mp (by rwa [String.toList_ofList])
    obtain rfl : text = String.ofList c.render := by rw [← htext, String.ofList_toList]
    cases c with
    | earlier name version =>
      rw [PackageComment.render, String.ofList_append, String.ofList_append]
      exact .earlier (hword hwell.1) (hword hwell.2)
    | dpkgEarlier name version =>
      rw [PackageComment.render, List.append_assoc name, String.ofList_append, String.ofList_append]
      exact .dpkgEarlier (hword hwell.1) (hword hwell.2)
    | dpkgInstalled name =>
      rw [PackageComment.render, List.append_assoc name, String.ofList_append]
      exact .dpkgInstalled (hword hwell)
    | installed name version release =>
      obtain ⟨hname, hversion, hrelease, hv, hr⟩ := hwell
      have hcons (s t : List Char) : String.ofList (s ++ '-' :: t) = String.ofList s ++ "-" ++ String.ofList t :=
        String.toList_injective (by simp)
      rw [PackageComment.render, String.ofList_append, hcons, hcons, PackageComment.package, hcons]
      exact .installed (hword hname) (hword hversion) (hword hrelease) (by rwa [String.toList_ofList])
        (by rwa [String.toList_ofList])

def named? (shape : Shape) (text : String) : Option Package :=
  (shape.read? text.toList).map PackageComment.package

theorem named?_eq_some_iff (shape : Shape) (text : String) (p : Package) :
    named? shape text = some p ↔ NamedBy shape text p := by
  rw [named?, Option.map_eq_some_iff, namedBy_iff]
  simp only [Shape.read?_eq_some_iff, and_assoc, @eq_comm _ p]

theorem ofComment?_eq_some_iff (comment : String) (p : Package) :
    ofComment? comment = some p ↔ ∃ shape, NamedBy shape (Text.strip comment) p := by
  simp only [ofComment?, Option.map_eq_some_iff, PackageComment.read?_eq_some_iff, namedBy_iff,
    Text.strip, String.toList_ofList]
  constructor
  · rintro ⟨c, ⟨hwell, htext⟩, rfl⟩
    exact ⟨_, c, rfl, hwell, htext, rfl⟩
  · rintro ⟨_, c, _, hwell, htext, rfl⟩
    exact ⟨c, ⟨hwell, htext⟩, rfl⟩

theorem NamedBy.strip_pad {shape : Shape} {text : String} {p : Package} (h : NamedBy shape text p)
    {before after : String} (hb : ∀ c ∈ before.toList, Text.isBlank c = true)
    (ha : ∀ c ∈ after.toList, Text.isBlank c = true) : Text.strip (before ++ text ++ after) = text := by
  obtain ⟨c, _, hwell, htext, _⟩ := (namedBy_iff shape text p).mp h
  rw [Text.strip, String.toList_append, String.toList_append, Text.trim_append hb ha, htext,
    PackageComment.trim_render hwell, ← htext, String.ofList_toList]

theorem NamedBy.unique {shape shape' : Shape} {text : String} {p p' : Package} (h : NamedBy shape text p)
    (h' : NamedBy shape' text p') : shape = shape' ∧ p = p' := by
  obtain ⟨c, rfl, hc, htext, rfl⟩ := (namedBy_iff ..).mp h
  obtain ⟨c', rfl, hc', htext', rfl⟩ := (namedBy_iff ..).mp h'
  obtain rfl := PackageComment.eq_of_render hc hc' (htext.symm.trans htext')
  exact ⟨rfl, rfl⟩

theorem NamedBy.exists_name {shape : Shape} {text : String} {p : Package} (h : NamedBy shape text p) :
    ∃ name, p.name = some name ∧ IsWord name := by
  cases h with
  | earlier hname => exact ⟨_, rfl, hname⟩
  | dpkgEarlier hname => exact ⟨_, rfl, hname⟩
  | dpkgInstalled hname => exact ⟨_, rfl, hname⟩
  | installed hname => exact ⟨_, rfl, hname⟩

theorem NamedBy.eq_mk {shape : Shape} {text : String} {p : Package} (h : NamedBy shape text p) :
    p = { name := p.name, version := p.version, notFixedYet := some (p.version == some "") } := by
  cases h with
  | earlier _ hversion => simp [hversion.1]
  | dpkgEarlier _ hversion => simp [hversion.1]
  | dpkgInstalled _ => rfl
  | @installed name version release =>
    have hne : version ++ "-" ++ release ≠ "" := by simp
    simp [hne]

theorem eq_mk_of_ofComment? {comment : String} {p : Package} (h : ofComment? comment = some p) :
    p = { name := p.name, version := p.version, notFixedYet := some (p.version == some "") } := by
  obtain ⟨_, h⟩ := (ofComment?_eq_some_iff comment p).mp h
  exact h.eq_mk

/-- Comments are read exactly as the shapes say, whatever white space is around them. No text has two shapes, so
that the order in which the shapes are tried makes no difference. -/
theorem comments_read_exactly :
    (∀ comment p, ofComment? comment = some p ↔ ∃ shape, NamedBy shape (Text.strip comment) p) ∧
    (∀ shape text p, NamedBy shape text p → ∀ before after : String,
      (∀ c ∈ before.toList, Text.isBlank c = true) → (∀ c ∈ after.toList, Text.isBlank c = true) →
        ofComment? (before ++ text ++ after) = some p) ∧
    (∀ shape shape' text p p', NamedBy shape text p → NamedBy shape' text p' → shape = shape' ∧ p = p') ∧
    (∀ shape text p, named? shape text = some p ↔ NamedBy shape text p) ∧
    ∀ order : List Shape, order.Perm Shape.all → ∀ comment,
      order.findSome? (named? · (Text.strip comment)) = ofComment? comment := by
  refine ⟨ofComment?_eq_some_iff, fun shape text p h before after hb ha => ?_,
    fun _ _ _ _ _ h h' => h.unique h', named?_eq_some_iff, fun order horder comment => ?_⟩
  · exact (ofComment?_eq_some_iff ..).mpr ⟨shape, by rwa [h.strip_pad hb ha]⟩
  · rw [ofComment?, PackageComment.read?_eq_findSome?]
    have hany : order.findSome? (·.read? (Text.trim comment.toList)) =
        Shape.all.findSome? (·.read? (Text.trim comment.toList)) := by
      ext c
      rw [PackageComment.findSome?_read?_eq_some_iff horder,
        PackageComment.findSome?_read?_eq_some_iff (List.Perm.refl _)]
    rw [← hany, List.map_findSome?]
    simp only [named?, Text.strip, String.toList_ofList, Function.comp_def]

theorem comments_read_exactly_for_devel :
    NamedBy .installed "libfoo-devel-1.2.3-4.1 is installed"
        { name := some "libfoo-devel", version := some "1.2.3-4.1", notFixedYet := some false } ∧
      ofComment? "\t libfoo-devel-1.2.3-4.1 is installed\n" =
        some { name := some "libfoo-devel", version := some "1.2.3-4.1", notFixedYet := some false } ∧
      Shape.all.reverse.Perm Shape.all ∧
      Shape.all.reverse.findSome? (named? · (Text.strip "\t libfoo-devel-1.2.3-4.1 is installed\n")) =
        ofComment? "\t libfoo-devel-1.2.3-4.1 is installed\n" := by
  have hname : NamedBy .installed "libfoo-devel-1.2.3-4.1 is installed"
      { name := some "libfoo-devel", version := some "1.2.3-4.1", notFixedYet := some false } := by
    have hword (s : String) (hs : PackageComment.isWord s.toList = true) := isWord_toList.mp hs
    exact .installed (hword "libfoo-devel" (by decide)) (hword "1.2.3" (by decide)) (hword "4.1" (by decide))
      (by decide) (by decide)
  have hbefore : ∀ c ∈ "\t ".toList, Text.isBlank c = true := List.all_eq_true.mp (by decide)
  have hafter : ∀ c ∈ "\n".toList, Text.isBlank c = true := List.all_eq_true.mp (by decide)
  obtain ⟨_, hpadded, _, _, horder⟩ := comments_read_exactly
  exact ⟨hname, hpadded _ _ _ hname "\t " "\n" hbefore hafter, List.reverse_perm _,
    horder _ (List.reverse_perm _) _⟩

end Package

end OvalCatalog
