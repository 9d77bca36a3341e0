import OvalCatalog.Arguments.Switch

namespace OvalCatalog.Arguments

inductive Place where
  | one
  | many
  deriving DecidableEq, Repr

structure Reading where
  places : List Place
  filled : List (List String) := []
  given : List (Switch × String) := []
  hasExtras : Bool := false

namespace Reading

def isMark (w : Word) : Bool :=
  w.role = .mark

def withoutMark (values : List String) : List String :=
  values.erase "--"

def cutOne (run : List Word) : List Word × List Word :=
  let marks := run.takeWhile isMark
  match run.dropWhile isMark with
  | [] => (marks, [])
  | w :: rest => (marks ++ w :: rest.takeWhile isMark, rest.dropWhile isMark)

def fill : List Place → List Word → Reading → Reading
  | [], run, r => { r with places := [], hasExtras := r.hasExtras || !run.isEmpty }
  | place :: places, run, r =>
    if run.all isMark then { r with places := place :: places, hasExtras := r.hasExtras || !run.isEmpty }
    else
      let (words, rest) := match place with
        | .one => cutOne run
        | .many => (run, [])
      fill places rest { r with filled := r.filled ++ [withoutMark (words.map Word.text)] }

def take (run : List Word) (r : Reading) : Reading :=
  fill r.places run r

def give (s : Switch) (value : String) (r : Reading) : Except Stop Reading :=
  if r.given.any fun g => g.1 ≠ s then .error .usage
  else .ok { r with given := r.given ++ [(s, value)] }

/-- Reads words. The values in a row before them are in `run`; `awaiting` is the switch whose value comes
next. -/
def read (run : List Word) (awaiting : Option Switch) (r : Reading) : List Word → Except Stop Reading
  | [] => if awaiting.isSome then .error .usage else .ok (r.take run)
  | w :: rest =>
    match awaiting, w.role with
    | some s, .value => do read [] none (← r.give s w.text) rest
    | some _, _ => .error .usage
    | none, .value | none, .mark => read (run ++ [w]) none r rest
    | none, .unknown => read [] none { r.take run with hasExtras := true } rest
    | none, .switch s isShort attached =>
      if !s.takesValue then .error (helpStop isShort attached)
      else match attached with
        | some value => do read [] none (← (r.take run).give s value) rest
        | none => read [] (some s) (r.take run) rest

end Reading

end OvalCatalog.Arguments
