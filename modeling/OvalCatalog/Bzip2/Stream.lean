import OvalCatalog.Bzip2.Block

namespace OvalCatalog.Bzip2

def shiftChecksum (c : UInt32) : UInt32 :=
  if c &&& 0x80000000 = 0 then c <<< 1 else (c <<< 1) ^^^ 0x04c11db7

def addByte (c : UInt32) (b : UInt8) : UInt32 :=
  Nat.repeat shiftChecksum 8 (c ^^^ (b.toUInt32 <<< 24))

def checksum (bytes : Array UInt8) : UInt32 :=
  ~~~ (bytes.foldl addByte 0xffffffff)

def addChecksum (stream block : UInt32) : UInt32 :=
  ((stream <<< 1) ||| (stream >>> 31)) ^^^ block

def readBlocks (limit : Nat) : Nat → UInt32 → Array UInt8 → Reader (Array UInt8)
  | 0, _, _ => throw .truncated
  | fuel + 1, stream, seen => do
    let mark ← Reader.bits 8
    if mark = 0x17 then
      Reader.expect [0x72, 0x45, 0x38, 0x50, 0x90]
      let sum ← Reader.bits 32
      Reader.require (sum = stream.toNat)
      return seen
    else
      Reader.require (mark = 0x31)
      Reader.expect [0x41, 0x59, 0x26, 0x53, 0x59]
      let sum ← Reader.bits 32
      let bytes ← readBlock limit
      Reader.require (sum = (checksum bytes).toNat)
      readBlocks limit fuel (addChecksum stream (checksum bytes)) (seen ++ bytes)

def readStream : Reader (Array UInt8) := do
  Reader.expect [0x42, 0x5a, 0x68]
  let size ← Reader.bits 8
  Reader.require (0x31 ≤ size ∧ size ≤ 0x39)
  readBlocks ((size - 0x30) * 100000) ((← get).bytes.length + 1) 0 #[]

/-- Streams after those that gave `seen`. What follows them and is not the start of a stream is ignored. -/
def streamsAfter : Nat → Array UInt8 → List UInt8 → Except Fault (Array UInt8)
  | 0, seen, _ => .ok seen
  | _ + 1, seen, [] => .ok seen
  | fuel + 1, seen, data =>
    match readStream.run ⟨data, 0⟩ with
    | .ok (bytes, s) => streamsAfter fuel (seen ++ bytes) (Reader.remaining s)
    | .error .truncated => .error .truncated
    | .error .invalid => .ok seen

def decompress (data : List UInt8) : Except Fault (List UInt8) :=
  match data with
  | [] => .ok []
  | data => do
    let (bytes, s) ← readStream.run ⟨data, 0⟩
    return (← streamsAfter data.length bytes (Reader.remaining s)).toList

end OvalCatalog.Bzip2
