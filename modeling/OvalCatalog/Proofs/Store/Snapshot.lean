import Mathlib.Logic.Basic
import OvalCatalog.Proofs.Result
import OvalCatalog.Store.Refresh

namespace OvalCatalog

def Given (s : Option String) : Prop :=
  s ≠ none ∧ s ≠ some ""

theorem given_iff_getD (s : Option String) : Given s ↔ s.getD "" ≠ "" := by
  cases s <;> simp [Given]

structure Complete (family : Family) (root : Root) (file : FetchMeta) : Prop where
  family : root.family = some family.name
  osVersion : Given root.osVersion
  fileName : Given file.fileName
  timestamp : ∃ m, file.timestamp = .moment m
  definitionIds : ∀ d ∈ root.definitions, Given d.definitionId

namespace Snapshot

variable {family : Family} {root : Root} {file : FetchMeta}

theorem any_isBlankId_iff (definitions : List Definition) :
    definitions.any isBlankId = true ↔ ¬∀ d ∈ definitions, Given d.definitionId := by
  simp [isBlankId, given_iff_getD]

structure IsOf (x : Snapshot) (family : Family) (root : Root) (file : FetchMeta) : Prop where
  family : x.family = family
  osVersion : root.osVersion = some x.osVersion
  file : file = x.fetchMeta
  definitions : x.definitions = root.definitions

theorem IsOf.eq {x : Snapshot} {given : Option String} {osVersion fileName : String} {moment : Time.Moment}
    {definitions : List Definition}
    (h : x.IsOf family ⟨given, some osVersion, definitions⟩ ⟨some fileName, .moment moment⟩) :
    x = ⟨family, osVersion, fileName, moment, definitions⟩ := by
  obtain ⟨hfamily, hversion, hfile, hdefinitions⟩ := h
  cases x
  cases hfamily
  cases hversion
  cases hfile
  cases hdefinitions
  rfl

theorem of_ok {x : Snapshot} (h : Snapshot.of family root file = .ok x) :
    Complete family root file ∧ x.IsOf family root file := by
  obtain ⟨rootFamily, osVersion, definitions⟩ := root
  obtain ⟨fileName, timestamp⟩ := file
  unfold Snapshot.of at h
  split at h
  · cases h
  · next hf =>
    split at h
    · cases h
    · cases h
    · cases h
    · next m hs hv hn =>
      subst hs
      split at h
      · cases h
      · next hd =>
        cases h
        have hversion := (given_iff_getD osVersion).mpr hv
        have hname := (given_iff_getD fileName).mpr hn
        obtain ⟨v, rfl⟩ := Option.ne_none_iff_exists'.mp hversion.1
        obtain ⟨n, rfl⟩ := Option.ne_none_iff_exists'.mp hname.1
        refine ⟨⟨Classical.not_not.mp hf, hversion, hname, ⟨_, rfl⟩, ?_⟩, rfl, rfl, rfl, rfl⟩
        exact Classical.not_not.mp fun h => hd ((any_isBlankId_iff definitions).mpr h)

theorem of_error {m : Malformed} (h : Snapshot.of family root file = .error m) :
    ¬Complete family root file := by
  intro hc
  obtain ⟨t, ht⟩ := hc.timestamp
  unfold Snapshot.of at h
  split at h
  · next hf => exact hf hc.family
  · split at h
    · next hv => exact (given_iff_getD _).mp hc.osVersion hv
    · next hn _ => exact (given_iff_getD _).mp hc.fileName hn
    · next hs _ _ => cases ht.symm.trans hs
    · split at h
      · next hd => exact (any_isBlankId_iff _).mp hd hc.definitionIds
      · cases h

end Snapshot

end OvalCatalog
