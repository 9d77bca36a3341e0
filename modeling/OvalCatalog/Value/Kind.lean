import OvalCatalog.Value

namespace OvalCatalog.Value

def kind : Value → String
  | null => "NoneType"
  | bool _ => "bool"
  | whole _ => "int"
  | decimal _ _ _ => "float"
  | text _ => "str"
  | list _ => "list"
  | map _ => "dict"

def lacks (name : String) (v : Value) : String :=
  "'" ++ v.kind ++ "' object has no attribute '" ++ name ++ "'"

end OvalCatalog.Value
