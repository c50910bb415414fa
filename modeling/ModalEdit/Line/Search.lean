import ModalEdit.Line.Basic
import ModalEdit.Pattern.Reader
import ModalEdit.Pattern.Template
import ModalEdit.Span

namespace ModalEdit

structure Finder where
  next? : Text → Nat → Option Nat
  starts : Text → List Nat

def Pattern.finder (p : Pattern) : Finder where
  next? t n := (p.find? t n).map (·.start)
  starts t := (p.findAll t).map (·.start)

inductive SearchDirection where
  | forward | backward
  deriving DecidableEq, Repr

namespace Finder

def visited (d : SearchDirection) (count line step : Nat) : Nat :=
  match d with
  | .forward => (line + step) % count
  | .backward => (line + count - step % count) % count

/-- The match that counts on the visited line: only those beyond the cursor on its line at first,
and those up to it at last. -/
def hit? (f : Finder) (d : SearchDirection) (l : Text) (byte count step : Nat) : Option Nat :=
  match d with
  | .forward =>
    if step = 0 then f.next? l (Grapheme.nextBoundary l byte)
    else (f.next? l 0).filter fun s => step < count || s ≤ byte
  | .backward =>
    ((f.starts l).filter fun s =>
      if step = 0 then s < byte else if step = count then s ≥ byte else true).getLast?

def search? (f : Finder) (d : SearchDirection) (t : Text) (cursor : Position) : Option Position :=
  let count := t.lineCount
  (List.range (count + 1)).findSome? fun step =>
    let line := visited d count cursor.line step
    (f.hit? d (t.lineAt line) cursor.byte count step).map (Position.mk line)

end Finder

namespace Surface

def mapLine (f : Text → Text) (acc : Surface × Nat) (i : Nat) : Surface × Nat :=
  let (s, changed) := acc
  let l := s.lineAt i
  if f l = l then acc
  else (((s.erase ⟨i, 0⟩ ⟨i, l.byteLength⟩).insert ⟨i, 0⟩ (f l)).1, changed + 1)

def mapLines (s : Surface) (first last : Nat) (f : Text → Text) : Surface × Nat :=
  (lineRange first last).foldl (mapLine f) (s, 0)

end Surface

end ModalEdit
