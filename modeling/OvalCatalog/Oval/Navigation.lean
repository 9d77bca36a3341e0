import OvalCatalog.Text.Blank
import OvalCatalog.Xml.Element

namespace OvalCatalog

def localTag (tag : String) : String :=
  String.ofList (Text.afterLast '\x7d' tag.toList)

namespace Xml.Element

def named (name : String) (e : Element) : Bool :=
  localTag e.tag == name

def childrenNamed (name : String) (e : Element) : List Element :=
  e.children.filter (named name)

def child? (name : String) (e : Element) : Option Element :=
  e.children.find? (named name)

def attribute? (key : String) (e : Element) : Option String :=
  (e.attributes.find? fun a => a.1 == key).map (·.2)

def attributeText (key : String) (e : Element) : String :=
  (e.attribute? key).getD ""

def content (e : Element) : String :=
  Text.strip e.text

def childContent (name : String) (e : Element) : String :=
  ((e.child? name).map content).getD ""

end Xml.Element

end OvalCatalog
