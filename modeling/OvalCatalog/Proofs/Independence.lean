import OvalCatalog.Proofs.Catalog
import OvalCatalog.Proofs.Versions

/-! Refreshes of different versions from different files do not hinder each other. Each is answered as if it
came alone, and in whatever order they come, the tables serve the same afterwards. -/

namespace OvalCatalog

theorem Family.name_injective {f g : Family} (h : f.name = g.name) : f = g := by
  rw [← Option.some_inj, ← f.ofName?_name, h, g.ofName?_name]

structure Delivery where
  family : Family
  root : Root
  file : FetchMeta

namespace Delivery

def call (x : Delivery) : Call :=
  .insertOval x.family x.root x.file

/-- They are for different versions, by what is asked of the store or by what the roots say, and from
different files. -/
def Independent (x y : Delivery) : Prop :=
  (x.family ≠ y.family ∨ x.root.family ≠ y.root.family ∨ x.root.osVersion ≠ y.root.osVersion) ∧
    x.file.fileName ≠ y.file.fileName

instance (x y : Delivery) : Decidable (x.Independent y) :=
  inferInstanceAs (Decidable (_ ∧ _))

theorem Independent.symm {x y : Delivery} (h : x.Independent y) : y.Independent x :=
  ⟨h.1.imp Ne.symm (Or.imp Ne.symm Ne.symm), h.2.symm⟩

end Delivery

namespace Snapshot

def verdict (x : Snapshot) (noted : Option Time.Timestamp) : Except RefreshError (Option Time.Timestamp) :=
  let skips : Except StoreFailure Bool :=
    match noted with
    | none => .ok false
    | some t => x.fetchMeta.timestamp.normalize.map (t == ·)
  match skips, x.note with
  | .error e, _ => .error (.refresh e x.subject)
  | .ok true, _ => .ok none
  | .ok false, .error e => .error (.refresh e x.subject)
  | .ok false, .ok t => .ok (some t)

def Apart (x y : Snapshot) : Prop :=
  ¬(x.family.name = y.family.name ∧ x.osVersion = y.osVersion) ∧ x.fileName ≠ y.fileName

theorem Apart.of_independent {x y : Delivery} (h : x.Independent y) {sx sy : Snapshot}
    (hx : Snapshot.of x.family x.root x.file = .ok sx) (hy : Snapshot.of y.family y.root y.file = .ok sy) :
    sx.Apart sy := by
  obtain ⟨hcx, hx⟩ := Snapshot.of_ok hx
  obtain ⟨hcy, hy⟩ := Snapshot.of_ok hy
  obtain ⟨hversion, hfile⟩ := h
  rw [hcx.family, hcy.family, hx.osVersion, hy.osVersion, ← hx.family, ← hy.family] at hversion
  rw [hx.file, hy.file] at hfile
  refine ⟨?_, fun he => hfile (congrArg some he)⟩
  rintro ⟨hf, hv⟩
  rcases hversion with hne | hne | hne
  · exact hne (Family.name_injective hf)
  · exact hne (congrArg some hf)
  · exact hne (congrArg some hv)

end Snapshot

namespace Dictionary

variable {x y : Snapshot} {d : Dictionary}

def store (x : Snapshot) (t : Time.Timestamp) (d : Dictionary) : Dictionary :=
  (d.setEntry x.family.name x.osVersion (x.definitions.map Definition.content)).setTime x.fileName t

theorem setEntry_comm {f g v w : String} (h : ¬(f = g ∧ v = w)) (a b : List Definition) (d : Dictionary) :
    (d.setEntry f v a).setEntry g w b = (d.setEntry g w b).setEntry f v a := by
  unfold setEntry
  congr 1
  funext k u
  by_cases hf : k = f ∧ u = v
  · obtain ⟨rfl, rfl⟩ := hf
    simp [h]
  · simp only [hf, if_false]

theorem setTime_comm {m n : String} (h : m ≠ n) (t u : Time.Timestamp) (d : Dictionary) :
    (d.setTime m t).setTime n u = (d.setTime n u).setTime m t := by
  unfold setTime
  congr 1
  funext k
  by_cases hm : k = m
  · subst hm
    simp [h]
  · simp only [hm, if_false]

theorem store_comm (h : x.Apart y) (t u : Time.Timestamp) (d : Dictionary) :
    (d.store x t).store y u = (d.store y u).store x t := by
  let a := x.definitions.map Definition.content
  let b := y.definitions.map Definition.content
  calc (d.store x t).store y u
      = (((d.setEntry x.family.name x.osVersion a).setEntry y.family.name y.osVersion b).setTime
          x.fileName t).setTime y.fileName u := rfl
    _ = (((d.setEntry y.family.name y.osVersion b).setEntry x.family.name x.osVersion a).setTime
          y.fileName u).setTime x.fileName t := by rw [setEntry_comm h.1, setTime_comm h.2]
    _ = (d.store y u).store x t := rfl

def settle (x : Snapshot) (v : Except RefreshError (Option Time.Timestamp)) (d : Dictionary) : Dictionary :=
  match v with
  | .ok (some t) => d.store x t
  | _ => d

theorem refresh_eq (x : Snapshot) (d : Dictionary) :
    let v := x.verdict (d.times x.fileName)
    d.refresh x = (v.map Option.isSome, d.settle x v) := by
  have hfile : x.fetchMeta.fileName.bind d.times = d.times x.fileName := rfl
  unfold refresh Snapshot.verdict isFetched
  rw [hfile]
  cases d.times x.fileName with
  | none => cases x.note <;> rfl
  | some t =>
    dsimp only
    cases x.fetchMeta.timestamp.normalize.map (t == ·) with
    | error e => rfl
    | ok skips => cases skips <;> cases x.note <;> rfl

theorem times_settle (h : x.fileName ≠ y.fileName) (v : Except RefreshError (Option Time.Timestamp))
    (d : Dictionary) : (d.settle x v).times y.fileName = d.times y.fileName := by
  unfold settle
  split
  · exact if_neg h.symm
  · rfl

theorem settle_comm (h : x.Apart y) (v w : Except RefreshError (Option Time.Timestamp)) (d : Dictionary) :
    (d.settle x v).settle y w = (d.settle y w).settle x v := by
  unfold settle
  split <;> split
  · exact store_comm h _ _ d
  all_goals rfl

theorem refresh_comm (h : x.Apart y) (d : Dictionary) :
    ((d.refresh x).2.refresh y).1 = (d.refresh y).1 ∧
      ((d.refresh x).2.refresh y).2 = ((d.refresh y).2.refresh x).2 := by
  simp only [refresh_eq, times_settle h.2, times_settle h.2.symm]
  exact ⟨trivial, settle_comm h _ _ d⟩

theorem insertOval_comm {a b : Delivery} (h : a.Independent b) (d : Dictionary) :
    ((d.perform a.call).2.perform b.call).1 = (d.perform b.call).1 ∧
      ((d.perform a.call).2.perform b.call).2 = ((d.perform b.call).2.perform a.call).2 := by
  simp only [Delivery.call, perform, insertOval]
  cases hx : Snapshot.of a.family a.root a.file with
  | error m => exact ⟨rfl, rfl⟩
  | ok x =>
    cases hy : Snapshot.of b.family b.root b.file with
    | error m => exact ⟨rfl, rfl⟩
    | ok y =>
      obtain ⟨hanswer, hstate⟩ := refresh_comm (.of_independent h hx hy) d
      exact ⟨congrArg Answer.stored hanswer, hstate⟩

def answers : List Call → Dictionary → List Answer
  | [], _ => []
  | c :: calls, d => (d.perform c).1 :: answers calls (d.perform c).2

theorem answers_of_independent {deliveries : List Delivery} (h : deliveries.Pairwise Delivery.Independent)
    (d : Dictionary) :
    d.answers (deliveries.map Delivery.call) = deliveries.map fun x => (d.perform x.call).1 := by
  induction deliveries generalizing d with
  | nil => rfl
  | cons x rest ih =>
    obtain ⟨hx, hrest⟩ := List.pairwise_cons.mp h
    have hothers : (rest.map fun y => ((d.perform x.call).2.perform y.call).1) =
        rest.map fun y => (d.perform y.call).1 :=
      List.map_congr_left fun y hy => (insertOval_comm (hx y hy) d).1
    rw [List.map_cons, answers, ih hrest, hothers, List.map_cons]

theorem after_perm {deliveries rearranged : List Delivery} (hperm : deliveries.Perm rearranged)
    (h : deliveries.Pairwise Delivery.Independent) (d : Dictionary) :
    d.after (deliveries.map Delivery.call) = d.after (rearranged.map Delivery.call) := by
  induction hperm generalizing d with
  | nil => rfl
  | cons x _ ih => exact ih (List.pairwise_cons.mp h).2 _
  | swap x y rest =>
    -- Only here two calls change places.
    have hyx := (List.pairwise_cons.mp h).1 x List.mem_cons_self
    simp only [List.map_cons, after]
    rw [(insertOval_comm hyx d).2]
  | trans hfirst _ ih ih' =>
    have hmid := hfirst.pairwise h fun hxy => hxy.symm
    exact (ih h d).trans (ih' hmid d)

end Dictionary

namespace Store

def answers : List Call → Store → List Answer
  | [], _ => []
  | c :: calls, s => (c.perform s).1 :: answers calls (c.perform s).2

theorem Holds.answers_dictionary {s : Store} {trees : List DefinitionTree} (h : s.Holds trees)
    (calls : List Call) : s.answers calls = s.dictionary.answers calls := by
  induction calls generalizing s trees with
  | nil => rfl
  | cons c calls ih =>
    obtain ⟨_, trees', h'⟩ := h.perform c
    rw [answers, Dictionary.answers, ih h', h.perform_dictionary]

theorem Holds.answers_of_independent {s : Store} {trees : List DefinitionTree} (h : s.Holds trees)
    {deliveries : List Delivery} (hindep : deliveries.Pairwise Delivery.Independent) :
    s.answers (deliveries.map Delivery.call) = deliveries.map fun x => (x.call.perform s).1 := by
  rw [h.answers_dictionary, Dictionary.answers_of_independent hindep]
  simp only [h.perform_dictionary]

/-- Independent refreshes commute, in every state that calls lead to. In whatever order they are made, each is
answered as it would be alone in that state, be it stored, skipped or refused; and the states that they end in
are alike. -/
theorem refreshes_commute (calls : List Call) {deliveries rearranged : List Delivery}
    (hperm : deliveries.Perm rearranged) (h : deliveries.Pairwise Delivery.Independent) :
    let s := reached calls
    (s.answers (deliveries.map Delivery.call) = deliveries.map fun x => (x.call.perform s).1) ∧
      (s.answers (rearranged.map Delivery.call) = rearranged.map fun x => (x.call.perform s).1) ∧
      (s.after (deliveries.map Delivery.call)).Alike (s.after (rearranged.map Delivery.call)) := by
  intro s
  obtain ⟨trees, hs⟩ := reached_holds calls
  obtain ⟨first, hfirst⟩ := hs.after (deliveries.map Delivery.call)
  obtain ⟨second, hsecond⟩ := hs.after (rearranged.map Delivery.call)
  refine ⟨hs.answers_of_independent h, hs.answers_of_independent (hperm.pairwise h fun hxy => hxy.symm), ?_⟩
  apply hfirst.alike hsecond
  rw [hs.after_dictionary, hs.after_dictionary]
  exact Dictionary.after_perm hperm h s.dictionary

def mixedDeliveries : List Delivery :=
  let noted : Stamp := .moment ⟨{ date := ⟨2099, 1, 1⟩ }, none⟩
  [⟨.debian, ⟨some "debian", some "12", [{ definitionId := some "a" }]⟩, ⟨some "bookworm.xml", noted⟩⟩,
    ⟨.debian, ⟨some "debian", some "13", [{ definitionId := some "b", packages := [{ name := none }] }]⟩,
      ⟨some "trixie.xml", noted⟩⟩,
    ⟨.oracle, ⟨some "redhat", some "7", []⟩, ⟨some "rhel-7.xml", noted⟩⟩]

theorem refreshes_commute_reversed :
    let s := reached []
    mixedDeliveries.Pairwise Delivery.Independent ∧
      (s.answers (mixedDeliveries.map Delivery.call) = mixedDeliveries.map fun x => (x.call.perform s).1) ∧
      (s.answers (mixedDeliveries.reverse.map Delivery.call) =
        mixedDeliveries.reverse.map fun x => (x.call.perform s).1) ∧
      (s.after (mixedDeliveries.map Delivery.call)).Alike
        (s.after (mixedDeliveries.reverse.map Delivery.call)) := by
  have hindep : mixedDeliveries.Pairwise Delivery.Independent := by decide
  exact ⟨hindep, refreshes_commute [] (List.reverse_perm mixedDeliveries).symm hindep⟩

end Store

end OvalCatalog
