
namespace OvalCatalog

inductive Value where
  | null
  | bool (b : Bool)
  | whole (n : Int)
  | decimal (negative : Bool) (mantissa : Nat) (exponent : Int)
  | text (s : String)
  | list (items : List Value)
  | map (entries : List (String × Value))
  deriving Inhabited

namespace Value

def isGiven : Value → Bool
  | null => false
  | bool b => b
  | whole n => n != 0
  | decimal _ m _ => m != 0
  | text s => s != ""
  | list xs => !xs.isEmpty
  | map es => !es.isEmpty

def entries? : Value → Option (List (String × Value))
  | map es => some es
  | v => if v.isGiven then none else some []

def orEmpty (v : Value) : Value :=
  if v.isGiven then v else .map []

def text? : Option String → Value
  | some s => text s
  | none => null

end Value

end OvalCatalog
