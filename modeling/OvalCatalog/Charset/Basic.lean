namespace OvalCatalog

structure Charset where
  names : List String
  aliases : List String := []
  first : Nat := 0x80
  characters : String := ""
  deriving DecidableEq, Repr

namespace Charset

def replacement : Char := '\ufffd'

def table (c : Charset) : Array Char :=
  ((List.range c.first).map Char.ofNat ++ c.characters.toList).toArray

def decode (c : Charset) (bytes : List UInt8) : List (Option Char) :=
  let table := c.table
  bytes.map fun b => table[b.toNat]?.filter (· != replacement)

end Charset

end OvalCatalog
