import OvalCatalog.Number.Amount
import OvalCatalog.Number.Reading
import OvalCatalog.Number.Shortest
import OvalCatalog.Text.Quoted
import OvalCatalog.Value.Kind

namespace OvalCatalog.Value

def amount? : Value → Option Number.Amount
  | bool b => some (.whole (if b then 1 else 0))
  | whole n => some (.whole n)
  | decimal negative m e => some (.real (Number.nearestDecimal negative m e))
  | _ => none

def ofAmount : Number.Amount → Value
  | .whole n => whole n
  | .real x => (Number.shortestDecimal? x).elim null fun (negative, m, e) => decimal negative m e
  | .tooLarge => null

inductive FloatError where
  | noNumber (v : Value)
  | unreadable (s : String)
  | tooLarge

def FloatError.message : FloatError → String
  | noNumber v => "expected a number, not " ++ v.kind
  | unreadable s => "could not convert string to float: " ++ Text.quoted s
  | tooLarge => "int too large to convert to float"

def toFloat (v : Value) : Except FloatError Float :=
  match v, v.amount? with
  | .text s, _ => (Number.readReal? s.toList).elim (.error (.unreadable s)) fun x => .ok x.toFloat
  | _, some a => a.toFloat?.elim (.error .tooLarge) .ok
  | v, none => .error (.noNumber v)

end OvalCatalog.Value
