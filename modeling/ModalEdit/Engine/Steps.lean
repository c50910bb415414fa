import ModalEdit.Engine.Playback

/-! The calls of an engine, and how each is carried out in small steps, with a list of what is still
to be done. A step fails where a line is cut within a character. -/

namespace ModalEdit

inductive Call where
  | key (c : Char)
  | command (t : Text)
  | playback (name : Text) (times : Nat)
  | escape

namespace Engine

def perform (e : Engine) (h : Host) : Call → Engine × Bool
  | .key c => e.key h c
  | .command t => e.command h t
  | .playback name times => e.playback h name times
  | .escape => e.escape

end Engine

structure Rounds where
  name : Text
  keys : Text
  total : Nat

inductive Task where
  | key (c : Char)
  | whole (body : Text)
  | escape
  | play (name : Text) (times : Nat)
  | rounds (r : Rounds) (left : Nat)
  | round (r : Rounds) (left : Nat) (bound : Option Text) (keys : Text)
  | finish (before : Pending)
  | close (was : Bool) (before : Mode) (keys : Option Text → Text)

/-- The engine in the midst of a call, and what is still to be done, the next task first. -/
structure Moment where
  engine : Engine
  tasks : List Task

namespace Moment

def replied (tasks : List Task) : Engine × Reply → Moment
  | (e, .handled _) => ⟨e, tasks⟩
  | (e, .play name times) => ⟨e, .play name times :: tasks⟩

def played (e : Engine) (name : Text) (times : Nat) (tasks : List Task) : Moment :=
  if times = 0 then ⟨e, tasks⟩
  else
    match e.macros.beginPlayback e.interaction name with
    | (macros, interaction, none) => ⟨{ e with macros, interaction }, tasks⟩
    | (macros, interaction, some keys) =>
      ⟨{ e with macros, interaction, pending := e.pending.clear }.sayLabel,
        .rounds ⟨name, keys, times⟩ times :: .finish e.pending :: tasks⟩

def roundEnded (h : Host) (e : Engine) (r : Rounds) (left : Nat) (bound : Option Text)
    (tasks : List Task) : Moment :=
  if e.pending.surface ≠ bound ∧ h.onSwitch = .abort then
    ⟨if left = 0 then e
      else e.sayMacro (r.name ++ ": surface switched, playback stopped".toList), tasks⟩
  else ⟨e, .rounds r left :: tasks⟩

def next (h : Host) (m : Moment) : Moment :=
  let e := m.engine
  match m.tasks with
  | [] => m
  | .key c :: tasks =>
    replied (.close e.macros.machine.isRecording e.mode (fun _ => [c]) :: tasks) (e.stroke h c)
  | .whole body :: tasks =>
    replied (.close e.macros.machine.isRecording e.mode (Engine.recordable · body) :: tasks)
      (e.wholeStroke h body)
  | .escape :: tasks => ⟨e.escape.1, tasks⟩
  | .play name times :: tasks => played e name times tasks
  | .rounds _ 0 :: tasks => ⟨e, tasks⟩
  | .rounds r (left + 1) :: tasks =>
    ⟨e.setRound (r.total - left) r.total, .round r left e.pending.surface r.keys :: tasks⟩
  | .round r left bound [] :: tasks => roundEnded h e r left bound tasks
  | .round r left bound (c :: cs) :: tasks =>
    if e.macros.machine.aborting then ⟨e, tasks⟩
    else ⟨e, .key c :: .round r left bound cs :: tasks⟩
  | .finish before :: tasks =>
    ⟨{ e with macros := e.macros.endPlayback, pending := before }.sayLabel, tasks⟩
  | .close was before keys :: tasks =>
    ⟨(e.record was (keys e.resolved)).reportMode before, tasks⟩

def start (e : Engine) : Call → Moment
  | .key c => ⟨e, [.key c]⟩
  | .command t =>
    if !e.mode.isInsert && Engine.isWhole (Engine.withoutEnter t) then
      ⟨e, [.whole (Engine.withoutEnter t)]⟩
    else ⟨e, t.map .key⟩
  | .playback name times => ⟨e, [.play name times]⟩
  | .escape => ⟨e, [.escape]⟩

/-- Whether the next task can be done. Keys and whole commands are what lines are cut for. -/
def canStep (h : Host) (m : Moment) : Bool :=
  match m.tasks with
  | .key c :: _ => m.engine.canStroke h c
  | .whole body :: _ => m.engine.canStrokeWhole h body
  | _ => true

def next? (h : Host) (m : Moment) : Option Moment := if m.canStep h then some (m.next h) else none

def run? (h : Host) : Nat → Moment → Option Moment
  | 0, m => some m
  | n + 1, m => (m.next? h).bind (run? h n)

end Moment

end ModalEdit
