import ModalEdit.Surface.Registers
import ModalEdit.Surface.Selection
import ModalEdit.Text.Lines

namespace ModalEdit

structure Surface where
  serial : Nat := 0
  name : Text
  text : Text
  cursor : Position := .origin
  selection : Option Selection := none
  readonly : Bool := false
  focus : Bool := false
  registers : Registers := {}

namespace Surface

def lineCount (s : Surface) : Nat := s.text.lineCount

def lastLine (s : Surface) : Nat := s.text.lineCount - 1

def lineAt (s : Surface) (i : Nat) : Text := s.text.lineAt i

def lineLength (s : Surface) (i : Nat) : Nat := s.text.lineLength i

def setCursor (s : Surface) (p : Position) : Surface := { s with cursor := s.text.clamp p }

def setRegister (s : Surface) (c : Char) (t : Text) : Surface :=
  { s with registers := s.registers.set c t }

def insert (s : Surface) (p : Position) (t : Text) : Surface × Position :=
  let (text, stop) := s.text.insert p t
  ({ s with text }, stop)

/-- Where a deletion up to `p` stops: a byte past the end of a line takes the line's end along. -/
def stopOffset (s : Surface) (p : Position) : Nat :=
  s.text.offsetOf p + if p.line < s.lineCount ∧ s.lineLength p.line < p.byte then 1 else 0

def delete (s : Surface) (start stop : Position) : Surface × Text :=
  let a := s.text.offsetOf start
  let b := s.stopOffset stop
  let (text, removed) := s.text.remove (min a b) (max a b)
  ({ s with text, cursor := text.clamp s.cursor }, removed)

def erase (s : Surface) (start stop : Position) : Surface := (s.delete start stop).1

end Surface

end ModalEdit
