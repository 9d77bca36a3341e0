import OvalCatalog.Bzip2.Bits

/-! Prefix codes given by the lengths of their words: shorter words come first, and words of one length
are in the order of their symbols. -/

namespace OvalCatalog.Bzip2

structure Level where
  first : Nat
  symbols : Array Nat

structure Code where
  shortest : Nat
  levels : List Level

namespace Code

def symbolsOfLength (lengths : List Nat) (length : Nat) : Array Nat :=
  ((lengths.zipIdx.filter fun l => l.1 == length).map (·.2)).toArray

def levelsFrom (lengths : List Nat) (first length : Nat) : Nat → List Level
  | 0 => []
  | count + 1 =>
    let symbols := symbolsOfLength lengths length
    ⟨first, symbols⟩ :: levelsFrom lengths (2 * (first + symbols.size)) (length + 1) count

def ofLengths (lengths : List Nat) : Code :=
  let shortest := lengths.foldl min 32
  let longest := lengths.foldl max 0
  ⟨shortest, levelsFrom lengths 0 shortest (longest + 1 - shortest)⟩

def overlong : Nat → Reader Nat
  | 0 => throw .invalid
  | count + 1 => do
    let _ ← Reader.bit
    overlong count

def lookup (length word : Nat) : List Level → Reader Nat
  | [] => overlong (21 - length)
  | level :: rest =>
    match level.symbols[word - level.first]? with
    | some symbol => pure symbol
    | none =>
      match rest with
      | [] => overlong (21 - length)
      | rest => do
        let b ← Reader.bit
        lookup (length + 1) (2 * word + b) rest

def read (c : Code) : Reader Nat := do
  let word ← Reader.bits c.shortest
  lookup c.shortest word c.levels

def readLength : Nat → Nat → Reader Nat
  | 0, _ => throw .invalid
  | fuel + 1, length => do
    Reader.require (1 ≤ length ∧ length ≤ 20)
    if (← Reader.bit) = 0 then return length
    else if (← Reader.bit) = 0 then readLength fuel (length + 1)
    else readLength fuel (length - 1)

def readLengths (fuel : Nat) : Nat → Nat → List Nat → Reader (List Nat)
  | 0, _, seen => pure seen.reverse
  | count + 1, length, seen => do
    let length ← readLength fuel length
    readLengths fuel count length (length :: seen)

def readCode (size : Nat) : Reader Code := do
  let start ← Reader.bits 5
  let fuel := 8 * (← get).bytes.length + 1
  return ofLengths (← readLengths fuel size start [])

end Code

end OvalCatalog.Bzip2
