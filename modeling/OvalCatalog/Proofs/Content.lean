import OvalCatalog.Store.Row

namespace OvalCatalog

def Cve.content (c : Cve) : Cve :=
  { c with id := none }

def Bugzilla.content (b : Bugzilla) : Bugzilla :=
  { b with id := none }

def Cpe.content (c : Cpe) : Cpe :=
  { c with id := none }

def Reference.content (r : Reference) : Reference :=
  { r with id := none }

def Debian.content (d : Debian) : Debian :=
  { d with id := none }

def Package.content (p : Package) : Package :=
  { p with notFixedYet := some (p.notFixedYet.getD false), id := none }

def Advisory.content (a : Advisory) : Advisory :=
  { a with
    cves := a.cves.map Cve.content
    bugzillas := a.bugzillas.map Bugzilla.content
    cpes := a.cpes.map Cpe.content
    id := none }

def Definition.content (d : Definition) : Definition :=
  { d with
    advisory := d.advisory.map Advisory.content
    packages := d.packages.map Package.content
    references := d.references.map Reference.content
    debian := d.debian.map Debian.content
    id := none
    rootId := none }

def Package.lacks? (p : Package) : Option Column :=
  if p.name.isSome then none else some .packageName

def Cve.lacks? (c : Cve) : Option Column :=
  if c.cveId.isSome then none else some .cveId

def Definition.lacks? (d : Definition) : Option Column :=
  (d.packages.findSome? Package.lacks?).or (d.advisory.bind fun a => a.cves.findSome? Cve.lacks?)

theorem Definition.lacks?_eq_none_iff (d : Definition) :
    d.lacks? = none ↔
      (∀ p ∈ d.packages, p.name ≠ none) ∧ ∀ a ∈ d.advisory, ∀ c ∈ a.cves, c.cveId ≠ none := by
  simp [Definition.lacks?, Package.lacks?, Cve.lacks?, Option.or_eq_none_iff,
    Option.isSome_iff_ne_none]

end OvalCatalog
