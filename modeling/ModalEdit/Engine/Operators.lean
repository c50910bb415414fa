import ModalEdit.Command.Apply
import ModalEdit.Engine.Lines
import ModalEdit.Engine.Modes

namespace ModalEdit.Engine

def operate (e : Engine) (h : Host) (s : Surface) (op : Operator) (span : Span)
    (register : Option Char) (text : Text) : Engine × Bool :=
  let act (e : Engine) : Engine × Bool :=
    let e := e.putSurface (op.apply s span register)
    (if op = .change then (e.changeMode h text none).1 else e, true)
  if op.edits then e.editedBy h s act else act e

def move (e : Engine) (s : Surface) (m : Motion) (count : Nat) (explicit : Bool) : Engine × Bool :=
  let target := normalize s.text (m.target s.text s.cursor count explicit)
  let selection :=
    if e.mode.isVisual then s.selection.map ({ · with head := target }) else s.selection
  (e.putSurface { s.setCursor target with selection }, target != s.cursor)

def pasteRegister (e : Engine) (s : Surface) (side : Surface.Side) (count : Nat)
    (register : Option Char) : Engine × Bool :=
  match s.registers.get? (register.getD '"') with
  | some (c :: t) =>
    let (s, p) := s.paste s.cursor (c :: t) side count
    (e.putSurface (s.setCursor p), true)
  | _ => (e.tell "register empty", false)

def joinBelow (e : Engine) (s : Surface) (count : Nat) : Engine × Bool :=
  if s.lineCount ≤ s.cursor.line + 1 then (e, false)
  else
    let (s, p) := s.join s.cursor.line (s.cursor.line + max count 2 - 1)
    (e.putSurface (s.setCursor p), true)

def toggleAhead (e : Engine) (s : Surface) (count : Nat) : Engine × Bool :=
  let stop : Position := ⟨s.cursor.line, s.clustersAhead count⟩
  if stop.byte ≤ s.cursor.byte then (e, false)
  else
    let s := s.changeCase (.chars s.cursor stop) .toggle
    (e.putSurface (s.setCursor (normalize s.text stop)), true)

def runSimple (e : Engine) (h : Host) (s : Surface) (c : Simple) (count : Nat)
    (register : Option Char) (text : Text) : Engine × Bool :=
  let p := s.cursor
  let within (op : Operator) (first last : Nat) (e : Engine) : Engine × Bool :=
    e.operate h s op (.chars ⟨p.line, first⟩ ⟨p.line, last⟩) register text
  let deleteWithin (first last : Nat) (e : Engine) : Engine × Bool :=
    if last ≤ first then (e, false) else within .delete first last e
  match c with
  | .yankLines => e.operate h s .yank (Operator.lineRegion s count) register text
  | .deleteForward => e.editedBy h s (deleteWithin p.byte (s.clustersAhead count))
  | .deleteBackward => e.editedBy h s (deleteWithin (s.clustersBehind count) p.byte)
  | .deleteToEnd => e.editedBy h s (within .delete p.byte s.currentLine.byteLength)
  | .changeToEnd => e.editedBy h s (within .change p.byte s.currentLine.byteLength)
  | .paste side => e.editedBy h s (·.pasteRegister s side count register)
  | .joinLines => e.editedBy h s (·.joinBelow s count)
  | .toggleCase => e.editedBy h s (·.toggleAhead s count)

def replace (e : Engine) (h : Host) (s : Surface) (c : Char) (count : Nat) : Engine × Bool :=
  e.editedBy h s fun e =>
    match s.replaceChars? s.cursor (if c = '\r' then '\n' else c) count with
    | none => (e, false)
    | some replaced =>
      let l := replaced.lineAt s.cursor.line
      let stop := Motion.iterate (Grapheme.nextBoundary l) (count - 1) s.cursor.byte
      (e.putSurface (replaced.setCursor ⟨s.cursor.line, stop⟩), true)

def insert (e : Engine) (h : Host) (s : Surface) (i : Insertion) (count : Nat) (text : Text) :
    Engine × Bool :=
  if e.isReadonly h then ((e.changeMode h text none).1.tell "readonly", false)
  else
    let (e, _) := (e.putSurface (i.prepare s count)).changeMode h text none
    let count := if i.repeats then count else 1
    ({ e with typing := { e.typing with overwrite := i == .overwrite, count } }, true)

end ModalEdit.Engine
