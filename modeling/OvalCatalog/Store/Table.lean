/-! Tables of rows. Each table numbers its rows one after the other and never takes a number twice. -/

namespace OvalCatalog

inductive Column where
  | packageName
  | cveId
  | fileName
  deriving DecidableEq, Repr

def Column.name : Column → String
  | packageName => "packages.\"name\""
  | cveId => "cves.cve_id"
  | fileName => "fetch_meta.file_name"

inductive RowError where
  | missing (column : Column)
  | numberTaken (n : Int)
  deriving DecidableEq, Repr

def RowError.message : RowError → String
  | missing column => "Constraint Error: NOT NULL constraint failed: " ++ column.name
  | numberTaken n =>
    "Constraint Error: Duplicate key \"id: " ++ toString n ++ "\" violates primary key constraint."

class Row (ρ : Type) where
  id : ρ → Int

structure Table (ρ : Type) where
  rows : List ρ := []
  next : Int := 1
  deriving Repr

namespace Table

variable {ρ α : Type}

def ids [Row ρ] (t : Table ρ) : List Int :=
  t.rows.map Row.id

/-- One row per item, numbered from `n` on. A refused row ends it: what is left is the number after that
of the refused row. -/
def number (taken : List Int) (row : Int → α → Except Column ρ) :
    Int → List α → Except (RowError × Int) (List ρ)
  | _, [] => .ok []
  | n, a :: rest =>
    match row n a with
    | .error column => .error (.missing column, n + 1)
    | .ok r =>
      if taken.contains n then .error (.numberTaken n, n + 1)
      else (number taken row (n + 1) rest).map (r :: ·)

def fill [Row ρ] (row : Int → α → Except Column ρ) (items : List α) (t : Table ρ) :
    Except (RowError × Table ρ) (Table ρ) :=
  match number t.ids row t.next items with
  | .ok rows => .ok ⟨t.rows ++ rows, t.next + items.length⟩
  | .error (e, next) => .error (e, ⟨t.rows, next⟩)

def appendAll [Row ρ] (row : Int → α → ρ) (items : List α) (t : Table ρ) :
    Except (RowError × Table ρ) (Table ρ) :=
  t.fill (fun n a => .ok (row n a)) items

def append [Row ρ] (row : Int → ρ) (t : Table ρ) : Except (RowError × Table ρ) (Table ρ) :=
  t.appendAll (fun n _ => row n) [()]

def delete (p : ρ → Bool) (t : Table ρ) : Table ρ :=
  { t with rows := t.rows.filter fun r => !p r }

/-- The rows of `before`, with the numbers used up since. -/
def rollback (before after : Table ρ) : Table ρ :=
  { after with rows := before.rows }

def ordered [Row ρ] (t : Table ρ) : List ρ :=
  t.rows.mergeSort fun a b => Row.id a ≤ Row.id b

end Table

end OvalCatalog
