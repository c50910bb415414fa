import ModalEdit.Macro.Storage
import ModalEdit.Script
import ModalEdit.Shell

namespace ModalEdit.CommandLine

structure Options where
  path : Option Text := none
  config : Option Text := none
  macros : Option Text := none
  commands : List Text := []
  script : Option Text := none
  readonly : Bool := false
  write : Bool := false
  quiet : Bool := false
  deriving DecidableEq, Repr

namespace Options

def withValue? (o : Options) (name : String) (v : Text) : Option Options :=
  match name with
  | "config" => some { o with config := some v }
  | "macros" => some { o with macros := some v }
  | "command" => some { o with commands := o.commands ++ [v] }
  | "script" => some { o with script := some v }
  | _ => none

def withFlag? (o : Options) (name : String) : Option Options :=
  match name with
  | "readonly" => some { o with readonly := true }
  | "write" => some { o with write := true }
  | "quiet" => some { o with quiet := true }
  | _ => none

def withPath? (o : Options) (path : Text) : Option Options :=
  if o.path.isSome then none else some { o with path := some path }

def ofLetters? (o : Options) (next : Option Text) : Text → Option (Options × Bool)
  | [] => some (o, false)
  | 'q' :: cs => ofLetters? { o with quiet := true } next cs
  | ['c'] => next.bind fun v => (o.withValue? "command" v).map (·, true)
  | 'c' :: '=' :: v => (o.withValue? "command" v).map (·, false)
  | 'c' :: v => (o.withValue? "command" v).map (·, false)
  | _ => none

def ofLong? (o : Options) (next : Option Text) (t : Text) : Option (Options × Bool) :=
  let (name, value) := Text.splitAtFirst '=' t
  let name := String.ofList name
  match value with
  | some v => (o.withValue? name v).map (·, false)
  | none =>
    match o.withFlag? name with
    | some o => some (o, false)
    | none => next.bind fun v => (o.withValue? name v).map (·, true)

def read? (o : Options) (next : Option Text) (t : Text) : Option (Options × Bool) :=
  match t with
  | '-' :: '-' :: name => o.ofLong? next name
  | '-' :: c :: cs => o.ofLetters? next (c :: cs)
  | _ => (o.withPath? t).map (·, false)

def readAll? (o : Options) : List Text → Option Options
  | [] => some o
  | t :: ts =>
    if t = ['-', '-'] then ts.foldlM withPath? o
    else match o.read? ts.head? t with
      | some (o, valued) => o.readAll? (ts.drop (if valued then 1 else 0))
      | none => none
termination_by ts => ts.length
decreasing_by simp only [List.length_drop, List.length_cons]; omega

def ofArguments? (ts : List Text) : Option Options := readAll? {} ts

end Options

structure Surroundings where
  files : Files := {}
  input : List Text := []
  configPlaces : List Text := []
  registryPlace : Text := []
  environment : Text → Option Text := fun _ => none
  now : Macro.Moment := {}

structure Outcome where
  code : Nat := 0
  asked : Bool := false
  output : Text := []
  messages : Text := []
  files : Files

inductive Failure where
  | readingMacros (path : Text)
  | parsingMacros (path : Text)
  | reading (path : Text)
  | readingScript (path : Text)
  | writing (path : Text)
  | writingMacros (path : Text)
  deriving DecidableEq, Repr

def Failure.message : Failure → Text
  | readingMacros path => "Error: reading macros from ".toList ++ path
  | parsingMacros path => "Error: parsing macros in ".toList ++ path
  | reading path => "Error: reading ".toList ++ path
  | readingScript path => "Error: reading script ".toList ++ path
  | writing path => "Error: writing ".toList ++ path
  | writingMacros path => "Error: writing macros to ".toList ++ path

namespace Surroundings

def config (w : Surroundings) (o : Options) : Config :=
  let path := match o.config with
    | some path => some (Files.clean path)
    | none => w.configPlaces.find? w.files.contains
  ((path.bind w.files.get?).bind Config.read?).getD {}

def registry (w : Surroundings) (path : Text) : Except Failure Macro.Registry :=
  match Macro.Registry.load w.files (Files.clean path) with
  | .ok r => .ok r
  | .error .unreadable => .error (.readingMacros path)
  | .error (.document _) => .error (.parsingMacros path)

def document (w : Surroundings) : Option Text → Except Failure (Text × Text)
  | none => .ok ("untitled".toList, [])
  | some path =>
    let name := (Files.fileName? path).getD "file".toList
    match w.files.get? (Files.clean path) with
    | some t => .ok (name, t)
    | none =>
      if w.files.isDirectory (Files.clean path) then .error (.reading path) else .ok (name, [])

def script (w : Surroundings) : Option Text → Except Failure (List Text)
  | none => .ok []
  | some path =>
    match w.files.get? (Files.clean path) with
    | some t => .ok (Script.commandsOf t)
    | none => .error (.readingScript path)

end Surroundings

def numbered (n : Nat) (t : Text) : Text :=
  let ds := Nat.toDigits 10 n
  List.replicate (3 - ds.length) ' ' ++ ds ++ ' ' :: t

def messageOf (quiet : Bool) : Notice → Text
  | .status pane t =>
    if quiet || t.isEmpty then [] else '[' :: pane ++ "] ".toList ++ t ++ ['\n']
  | .askedText title suggestion =>
    title ++ (if suggestion.isEmpty then [] else " [".toList ++ suggestion ++ [']']) ++
      ": ".toList
  | .askedChoice title choices =>
    ((choices.zipIdx 1).flatMap fun (c, n) => numbered n c ++ ['\n']) ++ title ++ ": ".toList
  | .ran _ => []

def isPrompt : Notice → Bool
  | .askedText .. | .askedChoice .. => true
  | _ => false

def messagesOf (o : Options) (e : Engine) : Text :=
  e.interaction.notices.reverse.flatMap (messageOf o.quiet)

def start (o : Options) (w : Surroundings) (config : Config) (registry : Macro.Registry)
    (name text : Text) : Engine :=
  .new (some name)
    ((({} : Workspace).insert name text).update name { name, text, readonly := o.readonly })
    registry config { dialog := .terminal w.input }

def host (w : Surroundings) (config : Config) : Host where
  environment := w.environment
  now := w.now
  run := some (Shell.run w.files)
  readonly := config.readonly
  onSwitch := config.onSwitch
  access := .byName

def finish (o : Options) (w : Surroundings) (registryPath : Text) (e : Engine) :
    Outcome × Option Failure :=
  let text := (e.surface?.map (·.text)).getD []
  let written (files : Files) (output : Text) : Outcome × Option Failure :=
    let r := e.macros.registry
    if r.modified && r.path.any files.isDirectory then
      ({ code := 1, output, files }, some (.writingMacros registryPath))
    else ({ output, files := (Macro.Registry.save files r).1 }, none)
  match o.path, o.write with
  | some path, true =>
    let place := Files.clean path
    if w.files.canWrite place then written (w.files.insert place text) []
    else ({ code := 1, files := w.files }, some (.writing path))
  | _, _ => written w.files text

def run (o : Options) (w : Surroundings) : Outcome :=
  let failed (f : Failure) (messages : Text) : Outcome :=
    { code := 1, messages := messages ++ f.message ++ ['\n'], files := w.files }
  let config := w.config o
  let registryPath := o.macros.getD (config.macroFile.getD w.registryPlace)
  match w.registry registryPath, w.document o.path, w.script o.script with
  | .error f, _, _ | _, .error f, _ | _, _, .error f => failed f []
  | .ok registry, .ok (name, text), .ok script =>
    let (e, _) :=
      Script.run (host w config) (start o w config registry name text) (o.commands ++ script)
    let messages := messagesOf o e
    let asked := e.interaction.notices.any isPrompt
    match finish o w registryPath e with
    | (outcome, none) => { outcome with asked, messages }
    | (outcome, some f) => { outcome with asked, messages := messages ++ f.message ++ ['\n'] }

def runArguments (arguments : List Text) (w : Surroundings) : Outcome :=
  match Options.ofArguments? arguments with
  | some o => run o w
  | none => { code := 2, messages := "error: invalid arguments\n".toList, files := w.files }

def inputLines (t : Text) : List Text :=
  (Text.fileLines t).map fun l => (l.reverse.dropWhile (· == '\r')).reverse

end ModalEdit.CommandLine
