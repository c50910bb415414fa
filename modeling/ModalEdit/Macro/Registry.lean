import ModalEdit.Text.Table
import ModalEdit.Unicode.Escape
import ModalEdit.Unicode.Letter

namespace ModalEdit.Macro

open Unicode

inductive VariableKind where
  | builtin
  | environment
  | fixed
  | input
  | inputOnce
  | template
  deriving DecidableEq, Repr

structure Variable where
  name : Text
  kind : VariableKind
  value : Text := []
  prompt : Option Text := none
  cached : Option Text := none
  deriving DecidableEq, Repr

inductive Error where
  | unknownVariable (name : Text)
  | cancelled (name : Text)
  | templateDepth (name : Text)
  | invalidName (name : Text)
  | malformed
  deriving DecidableEq, Repr

def Error.message : Error → Text
  | unknownVariable n => "unknown variable: ".toList ++ n
  | cancelled n => "input cancelled for: ".toList ++ n
  | templateDepth n => "template nesting too deep at: ".toList ++ n
  | invalidName n => "invalid macro name: ".toList ++ quote n
  | malformed => "parse error".toList

def isValidName (name : Text) : Bool :=
  !name.isEmpty && name.all fun c => isAlphanumeric c || c == '_' || c == '-'

structure Registry where
  macros : Table Text := {}
  variableTable : Table Variable := {}
  last : Option Text := none
  modified : Bool := false
  path : Option Text := none

instance : Inhabited Registry := ⟨{}⟩

namespace Registry

def get? (r : Registry) (name : Text) : Option Text := r.macros.get? name

def isRecorded (r : Registry) (name : Text) : Bool := r.macros.contains name

def isVariable (r : Registry) (name : Text) : Bool := r.variableTable.contains name

def set (r : Registry) (name keys : Text) : Registry :=
  { r with macros := r.macros.insert name keys, modified := true }

def erase (r : Registry) (name : Text) : Registry :=
  { r with macros := r.macros.erase name, modified := r.modified || r.isRecorded name }

def setVariable (r : Registry) (v : Variable) : Registry :=
  { r with variableTable := r.variableTable.insert v.name v, modified := true }

def setLast (r : Registry) (name : Text) : Registry := { r with last := some name }

def cache (r : Registry) (v : Variable) (answer : Text) : Registry :=
  { r with variableTable := r.variableTable.insert v.name { v with cached := some answer } }

def names (r : Registry) : List Text :=
  (r.variableTable.keys.foldl (fun t k => t.insert k ()) ({} : Table Unit) |>
    r.macros.keys.foldl fun t k => t.insert k ()).keys

def candidates (r : Registry) (start : Text) : List Text :=
  r.names.filter (Text.startsWith · start)

end Registry

end ModalEdit.Macro
