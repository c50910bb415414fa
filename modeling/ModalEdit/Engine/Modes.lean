import ModalEdit.Edit
import ModalEdit.Engine.Basic

namespace ModalEdit

def Surface.stepBack (s : Surface) : Surface :=
  if 0 < s.cursor.byte then
    s.setCursor ⟨s.cursor.line, Grapheme.prevBoundary (s.lineAt s.cursor.line) s.cursor.byte⟩
  else s

namespace Typing

def repeatInRow (text : Text) (column : Nat) (s : Surface) (i : Nat) : Surface :=
  let l := s.lineAt i
  if Grapheme.columnOf l l.byteLength < column then s
  else (s.insert ⟨i, Grapheme.byteAtColumn l column⟩ text).1

def repeatInBlock (t : Typing) (s : Surface) : Surface :=
  match t.block with
  | some b =>
    if t.text = [] ∨ '\n' ∈ t.text then s
    else (lineRange (b.first + 1) b.last).foldl (repeatInRow t.text b.column) s
  | none => s

def repeatByCount (t : Typing) (s : Surface) : Surface :=
  if 1 < t.count ∧ t.text ≠ [] then
    let (s, stop) := s.insert s.cursor (copies (t.count - 1) t.text)
    s.setCursor stop
  else s

def finish (t : Typing) (mode : Mode) (s : Surface) : Surface :=
  (if mode = .insertBlock then t.repeatInBlock s else t.repeatByCount s).stepBack

end Typing

namespace Engine

def leave (e : Engine) (before : Mode) : Engine :=
  match e.surface? with
  | none => e
  | some s =>
    if before.isInsert then
      { e.putSurface { e.typing.finish before s with selection := none } with typing := {} }
    else e.putSurface { s with selection := none }

def enter (e : Engine) (m : Mode) (block : Option BlockEdge) : Engine :=
  let change := ModeChange.between? e.mode m
  let e := { e with mode := m }
  match change with
  | some (.toInsert inBlock) =>
    { e with typing := { e.typing with text := [], block := if inBlock then block else none } }
  | some (.toNormal before) => e.leave before
  | none => e

def changeMode (e : Engine) (h : Host) (text : Text) (block : Option BlockEdge) : Engine × Bool :=
  match e.mode.afterText? text (e.isReadonly h) with
  | some m => (e.enter m block, true)
  | none => (e, false)

def escapeMode (e : Engine) : Engine × Bool := (e.enter .normal none, e.mode != .normal)

def reportMode (e : Engine) (before : Mode) : Engine :=
  if e.mode = before then e
  else { e with interaction := e.interaction.say modePane e.mode.label.toList }

end Engine

end ModalEdit
