namespace OvalCatalog.Bzip2

inductive Fault where
  | invalid
  | truncated
  deriving DecidableEq, Repr

structure Bits where
  bytes : List UInt8
  used : Nat := 0

abbrev Reader := StateT Bits (Except Fault)

namespace Reader

def bit : Reader Nat := fun s =>
  match s.bytes with
  | [] => .error .truncated
  | b :: rest =>
    let value := (b.toNat.testBit (7 - s.used)).toNat
    if s.used < 7 then .ok (value, { s with used := s.used + 1 }) else .ok (value, ⟨rest, 0⟩)

def bitsAfter (n : Nat) : Nat → Reader Nat
  | 0 => pure n
  | count + 1 => do
    let b ← bit
    bitsAfter (2 * n + b) count

def bits (count : Nat) : Reader Nat :=
  bitsAfter 0 count

def require (p : Prop) [Decidable p] : Reader Unit :=
  if p then pure () else throw .invalid

def expect : List Nat → Reader Unit
  | [] => pure ()
  | b :: rest => do
    let c ← bits 8
    require (c = b)
    expect rest

def unary (limit : Nat) : Reader Nat :=
  go 0 limit
where
  go (n : Nat) : Nat → Reader Nat
    | 0 => throw .invalid
    | left + 1 => do
      let b ← bit
      if b = 0 then return n else go (n + 1) left

def remaining (s : Bits) : List UInt8 :=
  if s.used = 0 then s.bytes else s.bytes.drop 1

end Reader

end OvalCatalog.Bzip2
