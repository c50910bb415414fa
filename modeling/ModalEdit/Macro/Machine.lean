import ModalEdit.Text.Basic

/-! The machine that records keys and keeps the stack of playbacks. A playback may start another
one; the machine leaves a playing state when the outermost playback is done. A stop during a
recording's playback ends the playback, not the recording: the frames are unwound one by one, and
keys are recorded again once the last one is gone. -/

namespace ModalEdit.Macro

inductive State where
  | idle | recording | playing | playingWhileRecording
  deriving DecidableEq, Repr, Inhabited

inductive Event where
  | record (name : Text)
  | stop
  | play (name : Text)
  | done
  deriving DecidableEq, Repr

structure Frame where
  name : Text
  round : Nat := 0
  rounds : Nat := 0
  deriving DecidableEq, Repr

/-- `playing` holds the innermost playback first, and `finished` the last recording until it is
taken. -/
structure Machine where
  state : State := .idle
  recording : Option Text := none
  recorded : Text := []
  playing : List Frame := []
  limit : Nat := 32
  aborting : Bool := false
  finished : Option (Text × Text) := none
  deriving DecidableEq, Repr

namespace Machine

def new (maxDepth : Nat) : Machine := { limit := max 1 maxDepth }

def depth (m : Machine) : Nat := m.playing.length

def isRecording (m : Machine) : Bool :=
  m.state == .recording || m.state == .playingWhileRecording

def isPlaying (m : Machine) : Bool :=
  m.state == .playing || m.state == .playingWhileRecording

def setRound (m : Machine) (round rounds : Nat) : Machine :=
  match m.playing with
  | [] => m
  | f :: fs => { m with playing := { f with round, rounds } :: fs }

def recordKey (m : Machine) (c : Char) : Machine :=
  if m.state = .recording ∧ m.playing = [] then { m with recorded := m.recorded ++ [c] } else m

def State.playing : State → State
  | .idle => .playing
  | .recording => .playingWhileRecording
  | s => s

def popFrame (m : Machine) : Machine :=
  let rest := m.playing.tail
  { m with playing := rest, aborting := m.aborting && !rest.isEmpty }

def process? (m : Machine) (e : Event) : Option Machine :=
  match m.state, e with
  | .idle, .record name =>
    some { m with state := .recording, recording := some name, recorded := [] }
  | .recording, .stop =>
    some { m with
      state := .idle, recording := none, recorded := []
      finished := some (m.recording.getD [], m.recorded) }
  | .playingWhileRecording, .stop => some { m with state := .recording, aborting := true }
  | s, .play name =>
    if m.aborting || m.limit ≤ m.depth then none
    else some { m with state := State.playing s, playing := { name } :: m.playing }
  | .playing, .done =>
    let m := m.popFrame
    some { m with state := if m.playing = [] then .idle else .playing }
  | .playingWhileRecording, .done =>
    let m := m.popFrame
    some { m with state := if m.playing = [] then .recording else .playingWhileRecording }
  | .recording, .done => if m.playing = [] then none else some m.popFrame
  | _, _ => none

def process (m : Machine) (e : Event) : Machine := (m.process? e).getD m

def label (m : Machine) : Text :=
  match m.state with
  | .idle => []
  | .recording => "recording ".toList ++ m.recording.getD []
  | .playing | .playingWhileRecording =>
    match m.playing with
    | [] => "playing ".toList
    | f :: _ =>
      "playing ".toList ++ f.name ++
        if 1 < f.rounds then
          " (".toList ++ Nat.toDigits 10 f.round ++ '/' :: Nat.toDigits 10 f.rounds ++ [')']
        else []

end Machine

end ModalEdit.Macro
