import ModalEdit.Macro.Registry
import ModalEdit.Toml.Field
import ModalEdit.Toml.Reader
import ModalEdit.Toml.Writer

namespace ModalEdit.Macro

open Toml

namespace VariableKind

def name : VariableKind → String
  | builtin => "builtin"
  | environment => "environment"
  | fixed => "fixed"
  | input => "input"
  | inputOnce => "input-once"
  | template => "template"

def all : List VariableKind := [builtin, environment, fixed, input, inputOnce, template]

def ofName? (t : Text) : Option VariableKind := all.find? (·.name.toList = t)

end VariableKind

def Variable.ofValue? (v : Value) : Option Variable := do
  match ← v.fields? ["name", "kind", "value", "prompt"] with
  | [name, kind, value, prompt] =>
    pure {
      name := ← name.bind Value.text?
      kind := ← (kind.bind Value.variant?).bind VariableKind.ofName?
      value := ← Value.withDefault [] Value.text? value
      prompt := ← Value.optional Value.text? prompt }
  | _ => none

def macrosOf? : Value → Option (List (Text × Text))
  | .table _ es => es.mapM fun (k, v) => v.text?.map (k, ·)
  | _ => none

def variablesOf? : Value → Option (List Variable)
  | .array _ items => items.mapM Variable.ofValue?
  | _ => none

namespace Registry

def ofParts (macros : Table Text) (vs : List Variable) : Except Error Registry :=
  match macros.keys.find? (!isValidName ·), (vs.map (·.name)).find? (!isValidName ·) with
  | some n, _ => .error (.invalidName n)
  | none, some n => .error (.invalidName n)
  | none, none =>
    .ok { macros, variableTable := vs.foldl (fun t v => t.insert v.name v) {} }

def parts? (es : Entries) : Option (Table Text × List Variable) := do
  let macros ← Value.withDefault [] macrosOf? (es.lookup "macros".toList)
  let vs ← Value.withDefault [] variablesOf? (es.lookup "variable".toList)
  pure (macros.foldl (fun t (k, v) => t.insert k v) {}, vs)

def read (t : Text) : Except Error Registry :=
  match (Toml.read? t).bind parts? with
  | none => .error .malformed
  | some (macros, vs) => ofParts macros vs

def writeEntry (k v : Text) : Text := writeKey k ++ " = ".toList ++ writeString v ++ ['\n']

def writeVariable (v : Variable) : Text :=
  "\n[[variable]]\n".toList ++ writeEntry "name".toList v.name ++
    writeEntry "kind".toList v.kind.name.toList ++
    (if v.value.isEmpty then [] else writeEntry "value".toList v.value) ++
    match v.prompt with
    | some p => writeEntry "prompt".toList p
    | none => []

def writeMacros (r : Registry) : Text :=
  "[macros]\n".toList ++ r.macros.entries.flatMap fun (k, v) => writeEntry k v

def write (r : Registry) : Text :=
  if r.variableTable.entries.isEmpty then "variable = []\n\n".toList ++ r.writeMacros
  else r.writeMacros ++ r.variableTable.entries.flatMap fun (_, v) => writeVariable v

end Registry

end ModalEdit.Macro
