import ModalEdit.Toml.Field
import ModalEdit.Toml.Reader

/-! The configuration file. Every field has a default, and a file that cannot be read as a
configuration leaves all defaults in place. -/

namespace ModalEdit

inductive SwitchPolicy where
  | abort | proceed
  deriving DecidableEq, Repr

structure Config where
  macroFile : Option Text := none
  maxDepth : Nat := 32
  statusPane : Text := "PaneMacro".toList
  onSwitch : SwitchPolicy := .abort
  readonly : Bool := false
  deriving DecidableEq, Repr

namespace Config

open Toml

def policyOf? (v : Value) : Option SwitchPolicy := do
  let t ← v.variant?
  if t = "abort".toList then pure .abort
  else if t = "continue".toList then pure .proceed
  else none

def ofEntries? (es : Entries) : Option Config := do
  let part (name : String) (fields : List String) : Option (List (Option Value)) :=
    Value.withDefault (fields.map fun _ => none) (·.fields? fields) (es.lookup name.toList)
  match ← part "macros" ["file", "max_depth", "status_pane"],
      ← part "playback" ["on_surface_switch"], ← part "vi" ["readonly"] with
  | [file, depth, pane], [policy], [readonly] =>
    pure {
      macroFile := ← Value.optional Value.text? file
      maxDepth := ← Value.withDefault 32 Value.size? depth
      statusPane := ← Value.withDefault "PaneMacro".toList Value.text? pane
      onSwitch := ← Value.withDefault .abort policyOf? policy
      readonly := ← Value.withDefault false Value.boolean? readonly }
  | _, _, _ => none

def read? (t : Text) : Option Config := (Toml.read? t).bind ofEntries?

end Config

end ModalEdit
