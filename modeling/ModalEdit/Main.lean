import Std.Time
import ModalEdit.CommandLine

namespace ModalEdit.CommandLine

def toMoment (t : Std.Time.PlainDateTime) : Macro.Moment where
  year := t.year.toInt.toNat
  month := t.month.val.toNat
  day := t.day.val.toNat
  hour := t.hour.val.toNat
  minute := t.minute.val.toNat
  second := t.second.val.toNat

def currentMoment : IO Macro.Moment := toMoment <$> Std.Time.PlainDateTime.now

def readInto (files : Files) (path : Text) : IO Files := do
  let clean := Files.clean path
  if ← ((← IO.currentDir) / String.ofList clean).isDir then
    pure (files.insert (clean ++ "/.".toList) [])
  else
    try
      pure (files.insert clean (← IO.FS.readFile (String.ofList clean)).toList)
    catch _ => pure files

def above (path : Text) : Text :=
  List.intercalate ['/'] (Files.components (Files.clean path)).dropLast

def userPlace (name : String) : IO String := do
  match ← IO.getEnv "XDG_CONFIG_HOME", ← IO.getEnv "HOME" with
  | some dir, home =>
    if dir.startsWith "/" then pure s!"{dir}/wex/{name}"
    else pure ((home.map fun home => s!"{home}/.config/wex/{name}").getD name)
  | none, some home => pure s!"{home}/.config/wex/{name}"
  | none, none => pure name

def writeChanged (before after : Files) : IO Unit := do
  for (path, t) in after.entries do
    if before.get? path != some t then
      if !(above path).isEmpty then
        let dir := if path.head? == some '/' then '/' :: above path else above path
        IO.FS.createDirAll (String.ofList dir)
      IO.FS.writeFile (String.ofList path) (String.ofList t)

def readEnvironment (r : Macro.Registry) : IO (Text → Option Text) := do
  let mut table : List (Text × Text) := []
  for (name, v) in r.variableTable.entries do
    for key in [name, v.value] do
      if let some t ← IO.getEnv (String.ofList key) then table := (key, t.toList) :: table
  pure fun name => table.lookup name

def surroundings (o : Options) : IO Surroundings := do
  let mut w : Surroundings := {
    configPlaces := ["wex.toml".toList, (← userPlace "wex.toml").toList]
    registryPlace := (← userPlace "macros.toml").toList
    now := ← currentMoment }
  for path in o.config.toList ++ w.configPlaces do
    w := { w with files := ← readInto w.files path }
  let registryPath := o.macros.getD ((w.config o).macroFile.getD w.registryPlace)
  let parent := o.path.map above
  for path in [registryPath] ++ o.script.toList ++ o.path.toList ++ parent.toList do
    if !path.isEmpty then w := { w with files := ← readInto w.files path }
  match w.registry registryPath with
  | .ok r => pure { w with environment := ← readEnvironment r }
  | .error _ => pure w

def runIn (arguments : List Text) (w : Surroundings) : IO Outcome := do
  let first := runArguments arguments w
  if first.asked then
    let input ← (← IO.getStdin).readToEnd
    pure (runArguments arguments { w with input := inputLines input.toList })
  else pure first

def program (arguments : List Text) : IO UInt32 := do
  let w ← match Options.ofArguments? arguments with
    | some o => surroundings o
    | none => pure {}
  let outcome ← runIn arguments w
  IO.print (String.ofList outcome.output)
  IO.eprint (String.ofList outcome.messages)
  writeChanged w.files outcome.files
  pure outcome.code.toUInt32

end ModalEdit.CommandLine

def main (arguments : List String) : IO UInt32 :=
  ModalEdit.CommandLine.program (arguments.map String.toList)
