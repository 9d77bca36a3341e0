import OvalCatalog.Xml.Namespace

namespace OvalCatalog.Xml

structure Element where
  tag : String
  attributes : List (String × String) := []
  text : String := ""
  children : List Element := []

structure OpenElement where
  name : String
  tag : String
  attributes : List (String × String)
  text : List Char := []
  children : List Element := []
  scope : Scope
  entities : Nat := 0

structure Builder where
  stack : List OpenElement := []
  root : Option Element := none

namespace OpenElement

def element (e : OpenElement) : Element :=
  ⟨e.tag, e.attributes, String.ofList e.text.reverse, e.children.reverse⟩

def addText (s : List Char) (e : OpenElement) : OpenElement :=
  if e.children.isEmpty then { e with text := s.reverse ++ e.text } else e

end OpenElement

namespace Builder

def scope (b : Builder) : Scope :=
  b.stack.head?.elim Scope.outermost (·.scope)

def add (e : Element) (b : Builder) : Builder :=
  match b.stack with
  | [] => { b with root := some e }
  | parent :: rest => { b with stack := { parent with children := e :: parent.children } :: rest }

def addText (s : List Char) (b : Builder) : Builder :=
  match b.stack with
  | top :: rest => { b with stack := top.addText s :: rest }
  | [] => b

def start (e : OpenElement) (isEmpty : Bool) (b : Builder) : Builder :=
  if isEmpty then b.add e.element else { b with stack := e :: b.stack }

/-- Ends the innermost element. It must have begun in the same text as it ends, and `here` its name stands. -/
def stop (name : String) (here : List Char) (b : Builder) : Except Flaw Builder :=
  match b.stack with
  | top :: rest =>
    if top.entities != 0 then .error ⟨.asynchronousEntity, none⟩
    else if top.name != name then .error (.before .mismatchedTag here)
    else .ok (Builder.add top.element { b with stack := rest })
  | [] => .error ⟨.asynchronousEntity, none⟩

def enter (b : Builder) : Builder :=
  match b.stack with
  | top :: rest => { b with stack := { top with entities := top.entities + 1 } :: rest }
  | [] => b

def leave (b : Builder) : Except Flaw Builder :=
  match b.stack with
  | top :: rest =>
    if top.entities = 0 then .error ⟨.asynchronousEntity, none⟩
    else .ok { b with stack := { top with entities := top.entities - 1 } :: rest }
  | [] => .ok b

end Builder

end OvalCatalog.Xml
