import ModalEdit.Engine.Keys

/-! Playback of macros. Recorded keys take the way of typed ones, so a replayed macro does what the
typed keys did. A playback may start others; their nesting is bounded by the machine's limit. -/

namespace ModalEdit.Engine

abbrev KeyFunction := Engine → Char → Engine × Bool

def replay (key : KeyFunction) (e : Engine) : Text → Engine × Bool
  | [] => (e, false)
  | c :: cs => if e.macros.machine.aborting then (e, true) else replay key (key e c).1 cs

def sayLabel (e : Engine) : Engine := e.sayMacro e.macros.machine.label

def setRound (e : Engine) (round rounds : Nat) : Engine :=
  let e := { e with macros := { e.macros with machine := e.macros.machine.setRound round rounds } }
  if 1 < rounds then e.sayLabel else e

/-- The rounds of a playback, of which `left` are to come. The first abort ends them, and so does
another surface after a round if that is the policy. -/
def playRounds (h : Host) (key : KeyFunction) (name keys : Text) (rounds : Nat) (e : Engine) :
    (left : Nat) → Engine
  | 0 => e
  | left + 1 =>
    let e := e.setRound (rounds - left) rounds
    let bound := e.pending.surface
    match replay key e keys with
    | (e, true) => e
    | (e, false) =>
      if e.pending.surface ≠ bound ∧ h.onSwitch = .abort then
        if left = 0 then e
        else e.sayMacro (name ++ ": surface switched, playback stopped".toList)
      else playRounds h key name keys rounds e left

/-- Plays a macro `times` times; tells whether it was not aborted. The pending command and its
binding are afterwards as they were before. -/
def playWith (h : Host) (key : KeyFunction) (e : Engine) (name : Text) (times : Nat) :
    Engine × Bool :=
  if times = 0 then (e, false)
  else
    match e.macros.beginPlayback e.interaction name with
    | (macros, interaction, none) => ({ e with macros, interaction }, false)
    | (macros, interaction, some keys) =>
      let before := e.pending
      let e := { e with macros, interaction, pending := e.pending.clear }.sayLabel
      let e := playRounds h key name keys times e times
      let completed := !e.macros.machine.aborting
      ({ e with macros := e.macros.endPlayback, pending := before }.sayLabel, completed)

def settle (h : Host) (key : KeyFunction) : Engine × Reply → Engine × Bool
  | (e, .handled acted) => (e, acted)
  | (e, .play name times) => playWith h key e name times

def record (e : Engine) (wasRecording : Bool) (keys : Text) : Engine :=
  if wasRecording && e.macros.machine.isRecording then { e with macros := e.macros.recordKeys keys }
  else e

def keyWith (h : Host) (inner : KeyFunction) : KeyFunction := fun e c =>
  let (after, acted) := settle h inner (e.stroke h c)
  ((after.record e.macros.machine.isRecording [c]).reportMode e.mode, acted)

/-- A key below which `depth` more playbacks may be nested. -/
def keyAt (h : Host) : (depth : Nat) → KeyFunction
  | 0 => keyWith h fun e _ => (e, false)
  | depth + 1 => keyWith h (keyAt h depth)

def key (e : Engine) (h : Host) (c : Char) : Engine × Bool := keyAt h e.macros.machine.limit e c

def playback (e : Engine) (h : Host) (name : Text) (times : Nat) : Engine × Bool :=
  playWith h (keyAt h e.macros.machine.limit) e name times

def type (e : Engine) (h : Host) (keys : Text) : Engine × Bool :=
  keys.foldl (fun (e, _) c => e.key h c) (e, false)

def escape (e : Engine) : Engine × Bool :=
  let (after, changed) := e.clearPending.escapeMode
  (after.reportMode e.mode, changed)

/-- The keys that do what a whole command did. A line needs its Enter, and a reference to a macro
the macro's full name. -/
def recordable (resolved : Option Text) (body : Text) : Text :=
  if (CommandKind.ofText body).isLine then body ++ ['\r']
  else
    match Prefix.split? body, resolved with
    | some (_, '@' :: rest), some name =>
      body.take (body.length - (rest.length + 1)) ++ '@' :: name ++ ['@']
    | _, _ => body

def wholeStroke (e : Engine) (h : Host) (body : Text) : Engine × Reply :=
  let start := { e with resolved := none, pending := e.pending.set body }
  if (CommandKind.ofText body).isLine then handle (start.finishLine h)
  else start.runPending h true

def canStrokeWhole (e : Engine) (h : Host) (body : Text) : Bool :=
  (CommandKind.ofText body).isLine || { e with pending := e.pending.set body }.canRunPending h

def runWhole (e : Engine) (h : Host) (body : Text) : Engine × Bool :=
  let (after, acted) := settle h (keyAt h e.macros.machine.limit) (e.wholeStroke h body)
  ((after.record e.macros.machine.isRecording (recordable after.resolved body)).reportMode e.mode,
    acted)

def isWhole (body : Text) : Bool :=
  (CommandKind.ofText body).isLine || (Prefix.split? body).any fun (_, b) => isMacroBody b

def withoutEnter (t : Text) : Text := (t.reverse.dropWhile isEnter).reverse

def command (e : Engine) (h : Host) (t : Text) : Engine × Bool :=
  if !e.mode.isInsert && isWhole (withoutEnter t) then e.runWhole h (withoutEnter t)
  else e.type h t

end ModalEdit.Engine
