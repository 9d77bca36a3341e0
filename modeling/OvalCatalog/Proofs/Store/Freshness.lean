import OvalCatalog.Proofs.Store.Insertion

/-! Fresh numbers. What an insertion adds to a table has numbers that the table had not given before, whether
the insertion goes through or is refused on its way. -/

namespace OvalCatalog

namespace Table

variable {ρ α : Type} [Row ρ]

structure Renews (t u : Table ρ) : Prop where
  next : t.next ≤ u.next
  fresh : ∀ i ∈ u.ids, i ∈ t.ids ∨ t.next ≤ i

theorem Renews.refl (t : Table ρ) : t.Renews t :=
  ⟨Int.le_refl _, fun _ => .inl⟩

theorem Renews.trans {t u v : Table ρ} (h : t.Renews u) (h' : u.Renews v) : t.Renews v where
  next := Int.le_trans h.next h'.next
  fresh i hi := by
    rcases h'.fresh i hi with hu | hu
    · exact h.fresh i hu
    · exact .inr (Int.le_trans h.next hu)

def Lacks (t : Table ρ) (rows : List ρ) : Prop :=
  ∀ r ∈ rows, Row.id r ∉ t.ids

theorem Renews.lacks {t d u : Table ρ} (h : d.Renews u) (ht : t.Numbered) (hsub : d.rows ⊆ t.rows)
    (hnext : t.next ≤ d.next) {rows : List ρ} (hrows : ∀ r ∈ rows, r ∈ t.rows ∧ r ∉ d.rows) :
    u.Lacks rows := by
  intro r hr hid
  obtain ⟨hrt, hrd⟩ := hrows r hr
  rcases h.fresh _ hid with hid | hid
  · obtain ⟨q, hq, he⟩ := List.mem_map.mp hid
    rw [ht.eq_of_id (hsub hq) hrt he] at hq
    exact hrd hq
  · have := ht.below r hrt
    omega

section Fill

variable {row : Int → α → Except Column ρ} {lacks : α → Option Column}

theorem number_fresh (hm : Maker row lacks) (taken : List Int) (n : Int) (items : List α) :
    match number taken row n items with
    | .ok rows => ∀ r ∈ rows, n ≤ Row.id r
    | .error (_, next) => n ≤ next := by
  induction items generalizing n with
  | nil => simp [number]
  | cons a items ih =>
    rw [number]
    cases hr : row n a with
    | error c => exact Int.le_of_lt (Int.lt_succ n)
    | ok r =>
      dsimp only
      by_cases ht : taken.contains n = true
      · rw [if_pos ht]
        exact Int.le_of_lt (Int.lt_succ n)
      · rw [if_neg ht]
        have hrest := ih (n + 1)
        cases hx : number taken row (n + 1) items with
        | error e =>
          obtain ⟨e, next⟩ := e
          rw [hx] at hrest
          exact Int.le_trans (Int.le_of_lt (Int.lt_succ n)) hrest
        | ok rows =>
          rw [hx] at hrest
          refine List.forall_mem_cons.mpr ⟨Int.le_of_eq (hm.id hr).symm, fun q hq => ?_⟩
          have := hrest q hq
          omega

theorem renews_fill (hm : Maker row lacks) (t : Table ρ) (items : List α) :
    match t.fill row items with
    | .ok u => t.Renews u
    | .error (_, u) => t.Renews u := by
  have hn := number_fresh hm t.ids t.next items
  unfold fill
  cases hx : number t.ids row t.next items with
  | error e =>
    rw [hx] at hn
    exact ⟨hn, fun _ => .inl⟩
  | ok rows =>
    rw [hx] at hn
    refine ⟨Int.le_add_of_nonneg_right (Int.natCast_nonneg _), fun i hi => ?_⟩
    rw [ids, List.map_append, List.mem_append] at hi
    refine hi.imp_right fun hi => ?_
    obtain ⟨r, hr, rfl⟩ := List.mem_map.mp hi
    exact hn r hr

end Fill

end Table

namespace Store

structure Grows (s u : Store) : Prop where
  fetches : u.fetches = s.fetches
  roots : s.roots.Renews u.roots
  definitions : s.definitions.Renews u.definitions
  packages : s.packages.Renews u.packages
  references : s.references.Renews u.references
  advisories : s.advisories.Renews u.advisories
  cves : s.cves.Renews u.cves
  bugzillas : s.bugzillas.Renews u.bugzillas
  cpes : s.cpes.Renews u.cpes
  debians : s.debians.Renews u.debians

theorem Grows.refl (s : Store) : s.Grows s where
  fetches := rfl
  roots := .refl _
  definitions := .refl _
  packages := .refl _
  references := .refl _
  advisories := .refl _
  cves := .refl _
  bugzillas := .refl _
  cpes := .refl _
  debians := .refl _

theorem Grows.trans {s t u : Store} (h : s.Grows t) (h' : t.Grows u) : s.Grows u where
  fetches := h'.fetches.trans h.fetches
  roots := h.roots.trans h'.roots
  definitions := h.definitions.trans h'.definitions
  packages := h.packages.trans h'.packages
  references := h.references.trans h'.references
  advisories := h.advisories.trans h'.advisories
  cves := h.cves.trans h'.cves
  bugzillas := h.bugzillas.trans h'.bugzillas
  cpes := h.cpes.trans h'.cpes
  debians := h.debians.trans h'.debians

def left : Except Refused Store → Store
  | .ok u => u
  | .error e => e.left

section Steps

variable {s : Store}

theorem Grows.bind {x : Except Refused Store} {f : Store → Except Refused Store} (h : s.Grows (left x))
    (hf : ∀ u : Store, u.Grows (left (f u))) : s.Grows (left (x >>= f)) := by
  cases x with
  | error e => exact h
  | ok u => exact h.trans (hf u)

theorem grows_placed {ρ α : Type} [Row ρ] {row : Int → α → Except Column ρ} {lacks : α → Option Column}
    (hm : Table.Maker row lacks) {t : Table ρ} {put : Table ρ → Store} (items : List α)
    (hput : ∀ u : Table ρ, t.Renews u → s.Grows (put u)) : s.Grows (left (placed put (t.fill row items))) := by
  have hf := Table.renews_fill hm t items
  cases hx : t.fill row items with
  | error e =>
    rw [hx] at hf
    exact hput _ hf
  | ok u =>
    rw [hx] at hf
    exact hput _ hf

theorem grows_append {ρ : Type} [Row ρ] {row : Int → ρ} (hid : ∀ n, Row.id (row n) = n) {t : Table ρ}
    {put : Table ρ → Store} (hput : ∀ u : Table ρ, t.Renews u → s.Grows (put u)) :
    s.Grows (left (placed put (t.append row))) :=
  grows_placed (Maker.total fun n (_ : Unit) => hid n) [()] hput

theorem grows_addPackages (definition : Int) (items : List Package) (s : Store) :
    s.Grows (left (s.addPackages definition items)) :=
  grows_placed (PackageRow.maker definition) items fun _ hu => { Grows.refl s with packages := hu }

theorem grows_addReferences (definition : Int) (items : List Reference) (s : Store) :
    s.Grows (left (s.addReferences definition items)) :=
  grows_placed (Maker.total fun _ _ => rfl) items fun _ hu => { Grows.refl s with references := hu }

theorem grows_addCves (advisory : Int) (items : List Cve) (s : Store) :
    s.Grows (left (s.addCves advisory items)) :=
  grows_placed (CveRow.maker advisory) items fun _ hu => { Grows.refl s with cves := hu }

theorem grows_addBugzillas (advisory : Int) (items : List Bugzilla) (s : Store) :
    s.Grows (left (s.addBugzillas advisory items)) :=
  grows_placed (Maker.total fun _ _ => rfl) items fun _ hu => { Grows.refl s with bugzillas := hu }

theorem grows_addCpes (advisory : Int) (items : List Cpe) (s : Store) :
    s.Grows (left (s.addCpes advisory items)) :=
  grows_placed (Maker.total fun _ _ => rfl) items fun _ hu => { Grows.refl s with cpes := hu }

theorem grows_addDebian (definition : Int) (d : Debian) (s : Store) :
    s.Grows (left (s.addDebian definition d)) :=
  grows_append (fun _ => rfl) fun _ hu => { Grows.refl s with debians := hu }

theorem grows_addAdvisory (definition : Int) (a : Advisory) (s : Store) :
    s.Grows (left (s.addAdvisory definition a)) := by
  unfold addAdvisory
  refine Grows.bind (grows_append (fun _ => rfl) fun _ hu => ?_) fun s => ?_
  · exact { Grows.refl s with advisories := hu }
  · apply (grows_addCves _ _ s).bind
    intro s
    apply (grows_addBugzillas _ _ s).bind
    intro s
    exact grows_addCpes _ _ s

theorem grows_addGiven {α : Type} {add : α → Store → Except Refused Store}
    (hadd : ∀ a (s : Store), s.Grows (left (add a s))) (given : Option α) (s : Store) :
    s.Grows (left (addGiven add given s)) := by
  cases given with
  | none => exact .refl s
  | some a => exact hadd a s

theorem grows_addDefinition (root : Int) (d : Definition) (s : Store) :
    s.Grows (left (s.addDefinition root d)) := by
  unfold addDefinition
  refine Grows.bind (grows_append (fun _ => rfl) fun _ hu => ?_) fun s => ?_
  · exact { Grows.refl s with definitions := hu }
  · apply (grows_addPackages _ _ s).bind
    intro s
    apply (grows_addReferences _ _ s).bind
    intro s
    apply (grows_addGiven (grows_addAdvisory _) _ s).bind
    intro s
    exact grows_addGiven (grows_addDebian _) _ s

theorem grows_addDefinitions (root : Int) (definitions : List Definition) (s : Store) :
    s.Grows (left (s.addDefinitions root definitions)) := by
  induction definitions generalizing s with
  | nil => exact .refl s
  | cons d definitions ih => exact (grows_addDefinition root d s).bind ih

theorem grows_addRoot (family osVersion : String) (definitions : List Definition) (s : Store) :
    s.Grows (left (s.addRoot family osVersion definitions)) := by
  unfold addRoot
  refine Grows.bind (grows_append (fun _ => rfl) fun _ hu => ?_) fun s => ?_
  · exact { Grows.refl s with roots := hu }
  · exact grows_addDefinitions _ definitions s

end Steps

end Store

end OvalCatalog
