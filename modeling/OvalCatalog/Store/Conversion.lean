import OvalCatalog.Number.Reading
import OvalCatalog.Sql.Expression
import OvalCatalog.Time.Moment
import OvalCatalog.Value.Printing

/-! Values as columns take them: a value of another kind than the column's is converted if it says
something of that kind. -/

namespace OvalCatalog.Value

def stored? (n : Int) : Option Value :=
  let limit : Int := Number.twoTo 63
  if -limit ≤ n ∧ n < limit then some (whole n) else none

def asWhole? : Value → Option Value
  | bool b => stored? (if b then 1 else 0)
  | whole n => stored? n
  | decimal negative m e =>
    let n : Int := Number.roundDecimal m 1 e
    stored? (if negative then -n else n)
  | text s => (Number.readWhole? s.toList).bind stored?
  | _ => none

def asText? : Value → Option Value
  | bool b => some (text (if b then "true" else "false"))
  | whole n => some (text (toString n))
  | decimal negative m e => some (text (decimalText negative m e))
  | text s => some (text s)
  | _ => none

def asTruth? : Value → Option Value
  | bool b => some (bool b)
  | whole n => some (bool (n != 0))
  | decimal _ m _ => some (bool (m != 0))
  | text s =>
    let word := String.ofList (Number.lowerAscii s.toList)
    if ["true", "t", "yes", "y", "1"].contains word then some (bool true)
    else if ["false", "f", "no", "n", "0"].contains word then some (bool false)
    else none
  | _ => none

def asTime? : Value → Option Value
  | text s => ((Time.Moment.read? s).bind Time.Moment.normalize?).map fun t => text t.isoText
  | _ => none

def inColumn? (k : Sql.Kind) (v : Value) : Option Value :=
  match v, k with
  | null, _ => some null
  | v, .text => v.asText?
  | v, .whole => v.asWhole?
  | v, .truth => v.asTruth?
  | v, .time => v.asTime?
  | v, .real | v, .any => some v

end OvalCatalog.Value
