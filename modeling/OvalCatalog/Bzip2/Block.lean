import OvalCatalog.Bzip2.Code
import OvalCatalog.Bzip2.Flipped

/-! A block: symbols of prefix codes, which stand for places in a list of bytes or for runs; the bytes
are in sorted order and, once back in place, shortened where a byte repeats. -/

namespace OvalCatalog.Bzip2

structure Symbols where
  front : List UInt8
  out : Array UInt8 := #[]
  run : Nat := 0
  weight : Nat := 1

namespace Symbols

def push (limit : Nat) (b : UInt8) (count : Nat) (s : Symbols) : Reader Symbols := do
  Reader.require (s.out.size + count ≤ limit)
  return { s with out := s.out ++ Array.replicate count b }

def endRun (limit : Nat) (s : Symbols) : Reader Symbols := do
  let s ← s.push limit (s.front.headD 0) s.run
  return { s with run := 0, weight := 1 }

/-- Symbols 0 and 1 are digits of a run's length, in base two with digits one and two. -/
def countRun (symbol : Nat) (s : Symbols) : Reader Symbols := do
  Reader.require (s.weight < 2097152)
  return { s with run := s.run + (symbol + 1) * s.weight, weight := 2 * s.weight }

def moveToFront (limit symbol : Nat) (s : Symbols) : Reader Symbols := do
  let place := symbol - 1
  let b := s.front.getD place 0
  let s := { s with front := b :: s.front.eraseIdx place }
  s.push limit b 1

def readGroup (limit last : Nat) (code : Code) : Nat → Symbols → Reader (Symbols × Bool)
  | 0, s => pure (s, false)
  | count + 1, s => do
    let symbol ← code.read
    if symbol ≤ 1 then
      let s ← s.countRun symbol
      readGroup limit last code count s
    else
      let s ← s.endRun limit
      if symbol = last then return (s, true)
      else
        let s ← s.moveToFront limit symbol
        readGroup limit last code count s

def readGroups (limit last : Nat) : List Code → Symbols → Reader (Array UInt8)
  | [], _ => throw .invalid
  | code :: rest, s => do
    match ← readGroup limit last code 50 s with
    | (s, true) => return s.out
    | (s, false) => readGroups limit last rest s

end Symbols

def sortedPositions (bytes : Array UInt8) : Array Nat :=
  let buckets := bytes.foldl (fun (state : Array (List Nat) × Nat) b =>
    (state.1.modify b.toNat (state.2 :: ·), state.2 + 1)) (Array.replicate 256 [], 0)
  buckets.1.foldl (fun out bucket => out ++ bucket.reverse.toArray) #[]

def follow (bytes : Array UInt8) (next : Array Nat) : Nat → Nat → List UInt8 → List UInt8
  | 0, _, seen => seen.reverse
  | count + 1, place, seen => follow bytes next count (next.getD place 0) (bytes.getD place 0 :: seen)

/-- The bytes whose sorted rotations end in `bytes`, the one not rotated at `origin`. -/
def unsort (bytes : Array UInt8) (origin : Nat) : List UInt8 :=
  let next := sortedPositions bytes
  follow bytes next bytes.size (next.getD origin 0) []

/-- After four equal bytes a count of further ones follows; `equal` of `last` were just read. -/
def lengthen? (out : Array UInt8) (last : UInt8) (equal : Nat) : List UInt8 → Option (Array UInt8)
  | [] => if equal = 4 then none else some out
  | b :: rest =>
    if equal = 4 then lengthen? (out ++ Array.replicate b.toNat last) 0 0 rest
    else if equal ≠ 0 ∧ b = last then lengthen? (out.push b) b (equal + 1) rest
    else lengthen? (out.push b) b 1 rest

def readPresentGroup (group : Nat) : Reader (List UInt8) := do
  let flags ← Reader.bits 16
  return ((List.range 16).filter fun i => flags.testBit (15 - i)).map fun i => UInt8.ofNat (16 * group + i)

def readPresent : Reader (List UInt8) := do
  let flags ← Reader.bits 16
  let groups := (List.range 16).filter fun i => flags.testBit (15 - i)
  return (← groups.mapM readPresentGroup).flatten

/-- More selectors than a block can use are read but dropped. -/
def selectorLimit : Nat := 18002

/-- Each selector is a place in a list of codes, whose code then moves to the front. -/
def readSelectors : Nat → List Nat → List Nat → Reader (List Nat)
  | 0, _, seen => pure seen.reverse
  | count + 1, front, seen => do
    let place ← Reader.unary front.length
    let code := front.getD place 0
    readSelectors count (code :: front.eraseIdx place) (code :: seen)

def readBlock (limit : Nat) : Reader (Array UInt8) := do
  let marked ← Reader.bit
  let origin ← Reader.bits 24
  Reader.require (origin ≤ limit + 10)
  let present ← readPresent
  Reader.require (present ≠ [])
  let count ← Reader.bits 3
  Reader.require (2 ≤ count ∧ count ≤ 6)
  let selectorCount ← Reader.bits 15
  Reader.require (1 ≤ selectorCount)
  let selectors ← readSelectors selectorCount (List.range count) []
  let codes ← (List.range count).mapM fun _ => Code.readCode (present.length + 2)
  let chosen := (selectors.take selectorLimit).filterMap fun i => codes[i]?
  let sorted ← Symbols.readGroups limit (present.length + 1) chosen { front := present }
  Reader.require (origin < sorted.size)
  let bytes := unsort sorted origin
  match lengthen? #[] 0 0 (if marked = 1 then unflip bytes else bytes) with
  | some bytes => return bytes
  | none => throw .invalid

end OvalCatalog.Bzip2
