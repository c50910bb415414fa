import ModalEdit.Macro.Expansion
import ModalEdit.Macro.Machine

namespace ModalEdit.Macro

inductive Request where
  | play (name : Text) (times : Nat)
  | expand (name : Text) (times : Nat)
  deriving DecidableEq, Repr

inductive Outcome where
  | ignored
  | incomplete
  | cancelled
  | notFound
  | done (consumed : Nat) (request : Option Request)
  deriving DecidableEq, Repr

def Outcome.code : Outcome → Nat
  | ignored | incomplete => 0
  | cancelled => 1
  | notFound => 2
  | done consumed _ => consumed

structure Control where
  machine : Machine := {}
  registry : Registry := {}
  pane : Text := []

instance : Inhabited Control := ⟨{}⟩

namespace Control

abbrev Step := Control × Interaction × Outcome

def say (d : Control) (i : Interaction) (message : String) (name : Text) : Interaction :=
  i.say d.pane (message.toList ++ name)

def startRecording (d : Control) (i : Interaction) (name : Text) (consumed : Nat) : Step :=
  if isValidName name then
    ({ d with machine := d.machine.process (.record name) }, d.say i "recording " name,
      .done consumed none)
  else (d, d.say i "invalid macro name: " name, .notFound)

def storeFinished (d : Control) (i : Interaction) : Control × Interaction :=
  match d.machine.finished with
  | none => (d, i)
  | some (name, keys) =>
    ({ d with
        machine := { d.machine with finished := none }
        registry := (d.registry.set name keys).setLast name },
      d.say i "recorded " name)

def readRecord (d : Control) (i : Interaction) (name : Text) (consumed : Nat) (complete : Bool) :
    Step :=
  match d.machine.state with
  | .recording =>
    let (d, i) := { d with machine := d.machine.process .stop }.storeFinished i
    (d, i, .done 1 none)
  | .playingWhileRecording =>
    ({ d with machine := d.machine.process .stop }, d.say i "playback aborted" [], .done 1 none)
  | .playing => (d, i, if name.isEmpty && !complete then .incomplete else .done consumed none)
  | .idle =>
    if !name.isEmpty then d.startRecording i name consumed
    else if !complete then (d, i, .incomplete)
    else
      match i.askText "Enter Macro".toList [] with
      | (i, some name) => d.startRecording i name consumed
      | (i, none) => (d, i, .cancelled)

def resolve (d : Control) (i : Interaction) (name : Text) (consumed times : Nat) : Step :=
  if d.registry.isRecorded name then (d, i, .done consumed (some (.play name times)))
  else if d.registry.isVariable name then (d, i, .done consumed (some (.expand name times)))
  else (d, d.say i "unknown macro: " name, .notFound)

def choose (d : Control) (i : Interaction) (choices : List Text) (consumed times : Nat) : Step :=
  if choices.isEmpty then (d, d.say i "no macros" [], .notFound)
  else
    match i.askChoice "Select Macro".toList choices with
    | (i, some name) => d.resolve i name consumed times
    | (i, none) => (d, i, .cancelled)

def closedName (t : Text) : Text :=
  match t with
  | '(' :: inner => if inner.getLast? = some ')' then inner.dropLast else t
  | _ => t

def search (d : Control) (i : Interaction) (start : Text) (consumed times : Nat) (complete : Bool) :
    Step :=
  match d.registry.candidates start with
  | [] => (d, d.say i "unknown macro: " start, if complete then .notFound else .incomplete)
  | [only] => d.resolve (i.say d.pane only) only consumed times
  | many =>
    if complete && start ∈ many then d.resolve i start consumed times
    else if complete then d.choose (i.say d.pane start) many consumed times
    else (d, i.say d.pane start, .incomplete)

def readPlayback (d : Control) (i : Interaction) (rest : Text) (consumed times : Nat)
    (complete : Bool) : Step :=
  let all := d.registry.macros.keys
  if rest.isEmpty then
    if complete then d.choose i all consumed times else (d, i, .incomplete)
  else if rest = ['@'] then
    match d.registry.last with
    | some name => d.resolve i name consumed times
    | none => d.choose i all consumed times
  else if rest.getLast? = some '@' then d.resolve i (closedName rest.dropLast) consumed times
  else if rest.head? = some '(' then
    if complete then (d, d.say i "unknown macro: " rest, .notFound) else (d, i, .incomplete)
  else d.search i rest consumed times complete

def read (d : Control) (i : Interaction) (command : Text) (complete : Bool) (times : Nat) : Step :=
  if times = 0 then (d, i, .incomplete)
  else match command with
    | [] => (d, i, .incomplete)
    | 'q' :: name => d.readRecord i name command.length complete
    | '@' :: rest => d.readPlayback i rest command.length times complete
    | _ => (d, i, .ignored)

def beginPlayback (d : Control) (i : Interaction) (name : Text) :
    Control × Interaction × Option Text :=
  match d.registry.get? name with
  | none => (d, d.say i "unknown macro: " name, none)
  | some keys =>
    match d.machine.process? (.play name) with
    | none => (d, d.say i "cannot play " name, none)
    | some machine =>
      ({ d with
          machine
          registry := if machine.depth = 1 then d.registry.setLast name else d.registry },
        i, some keys)

def endPlayback (d : Control) : Control := { d with machine := d.machine.process .done }

def recordKeys (d : Control) (keys : Text) : Control :=
  { d with machine := keys.foldl Machine.recordKey d.machine }

def expand (d : Control) (i : Interaction) (x : Context) (name : Text) :
    Control × Interaction × Option Text :=
  match Macro.expand x name (d.registry, i) with
  | (.ok t, registry, i) => ({ d with registry }, i, some t)
  | (.error e, registry, i) => ({ d with registry }, i.say d.pane e.message, none)

end Control

end ModalEdit.Macro
