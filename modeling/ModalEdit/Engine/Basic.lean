import ModalEdit.Command.Pending
import ModalEdit.Config
import ModalEdit.Macro.Reference
import ModalEdit.Mode
import ModalEdit.Surface.Workspace

namespace ModalEdit

structure BlockEdge where
  first : Nat
  last : Nat
  column : Nat
  deriving DecidableEq, Repr

/-- An insertion: what was typed since it began, how often it will be there in the end, whether it
overwrites, and the rows that repeat it. -/
structure Typing where
  text : Text := []
  count : Nat := 1
  overwrite : Bool := false
  block : Option BlockEdge := none
  deriving DecidableEq, Repr

inductive Access where
  | absent | closed | byName
  deriving DecidableEq, Repr

structure Host where
  environment : Text → Option Text := fun _ => none
  now : Macro.Moment := {}
  run : Option (Text → Except Text Text) := none
  readonly : Bool := false
  onSwitch : SwitchPolicy := .abort
  access : Access := .absent

/-- `resolved` is the macro that the outermost reference of a whole command meant. -/
structure Engine where
  mode : Mode := .normal
  macros : Macro.Control := {}
  pending : Pending := {}
  workspace : Workspace := {}
  typing : Typing := {}
  lastPattern : Option Text := none
  resolved : Option Text := none
  interaction : Interaction := {}

namespace Engine

def new (surface : Option Text) (workspace : Workspace) (registry : Macro.Registry)
    (config : Config) (interaction : Interaction) : Engine where
  macros := ⟨.new config.maxDepth, registry, config.statusPane⟩
  pending := { surface }
  workspace
  interaction

def textPane : Text := "PaneText".toList

def modePane : Text := "PaneMode".toList

def surface? (e : Engine) : Option Surface := e.pending.surface.bind e.workspace.get?

def putSurface (e : Engine) (s : Surface) : Engine :=
  match e.pending.surface with
  | some name => { e with workspace := e.workspace.update name s }
  | none => e

def say (e : Engine) (t : Text) : Engine :=
  { e with interaction := e.interaction.say textPane t }

def tell (e : Engine) (message : String) : Engine := e.say message.toList

def sayMacro (e : Engine) (t : Text) : Engine :=
  { e with interaction := e.interaction.say e.macros.pane t }

def isReadonly (e : Engine) (h : Host) : Bool := h.readonly || e.surface?.any (·.readonly)

def editable (e : Engine) (h : Host) (s : Surface) : Engine × Bool :=
  if h.readonly || s.readonly then (e.tell "readonly", false) else (e, true)

end Engine

end ModalEdit
