namespace OvalCatalog.Text

/-- The number of runs that start at or before `n`, which lies between `lo` and `lo + span`. -/
def runsUpTo (runs : Array (Nat × Nat)) (n : Nat) (lo span : Nat) : Nat :=
  if _h : span = 0 then lo
  else
    let mid := lo + span / 2
    if (runs[mid]?.elim true fun r => n < r.1) then runsUpTo runs n lo (span / 2)
    else runsUpTo runs n (mid + 1) (span - span / 2 - 1)
termination_by span

def inRuns (runs : Array (Nat × Nat)) (n : Nat) : Bool :=
  match runsUpTo runs n 0 runs.size with
  | 0 => false
  | k + 1 => runs[k]?.elim false fun r => n ≤ r.2

end OvalCatalog.Text
