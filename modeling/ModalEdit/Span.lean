import ModalEdit.Surface.Basic
import ModalEdit.Motion.Word

/-! The regions that operators act on, the text they cover and its deletion. -/

namespace ModalEdit

open Text

inductive Span where
  | chars (start stop : Position)
  | lines (first last : Nat)
  | block (first last left right : Nat)
  deriving DecidableEq, Repr

def lineRange (first last : Nat) : List Nat := List.range' first (last + 1 - first)

namespace Span

def ofSelection (t : Text) (s : Selection) : Span :=
  match s.kind with
  | .characterwise =>
    let l := t.lineAt s.stop.line
    .chars s.start ⟨s.stop.line,
      if l.byteLength ≤ s.stop.byte then l.byteLength + 1
      else Grapheme.nextBoundary l s.stop.byte⟩
  | .linewise => .lines s.start.line s.stop.line
  | .blockwise =>
    let a := Grapheme.columnOf (t.lineAt s.anchor.line) s.anchor.byte
    let h := Grapheme.columnOf (t.lineAt s.head.line) s.head.byte
    .block s.start.line s.stop.line (min a h) (max a h)

def start (t : Text) : Span → Position
  | .chars start _ => start
  | .lines first _ => ⟨first, firstNonBlankOf t first⟩
  | .block first _ left _ => ⟨first, Grapheme.byteAtColumn (t.lineAt first) left⟩

def firstLine : Span → Nat
  | .chars start _ => start.line
  | .lines first _ | .block first _ _ _ => first

def lastLine : Span → Nat
  | .chars _ stop => stop.line
  | .lines _ last | .block _ last _ _ => last

def isLinewise : Span → Bool
  | .lines .. => true
  | _ => false

structure Segment where
  line : Nat
  start : Nat
  stop : Nat
  deriving DecidableEq, Repr

def segments (t : Text) : Span → List Segment
  | .chars start stop =>
    (lineRange start.line stop.line).map fun i =>
      let n := t.lineLength i
      let a := if i = start.line then min start.byte n else 0
      let b := if i = stop.line then min stop.byte n else n
      ⟨i, a, max a b⟩
  | .lines first last => (lineRange first last).map fun i => ⟨i, 0, t.lineLength i⟩
  | .block first last left right =>
    (lineRange first last).map fun i =>
      let l := t.lineAt i
      let a := Grapheme.byteAtColumn l left
      ⟨i, a, max a (Grapheme.byteAtColumn l (right + 1))⟩

def Segment.text (t : Text) (s : Segment) : Text := sliceBytes s.start s.stop (t.lineAt s.line)

def Segment.hasText (t : Text) (s : Segment) : Bool := (t.lineAt s.line).hasSlice s.start s.stop

def joinLines (ls : List Text) : Text := List.intercalate ['\n'] ls

def textOf (t : Text) (s : Span) : Text :=
  match s with
  | .lines first last => (lineRange first last).flatMap fun i => t.lineAt i ++ ['\n']
  | .block .. => joinLines ((s.segments t).map (Segment.text t))
  | .chars _ stop =>
    joinLines ((s.segments t).map (Segment.text t)) ++
      if t.lineLength stop.line < stop.byte ∧ stop.line + 1 < t.lineCount then ['\n'] else []

def hasText (t : Text) (s : Span) : Bool := s.isLinewise || (s.segments t).all (Segment.hasText t)

/-- Where lines `first` to `last` begin and stop for deletion: with their own line ends or, for the
last lines of the text, with the line end before them. -/
def lineBounds (t : Text) (first last : Nat) : Position × Position :=
  if last < t.lineCount - 1 then (⟨first, 0⟩, ⟨last, t.lineLength last + 1⟩)
  else if 0 < first then (⟨first - 1, t.lineLength (first - 1)⟩, ⟨last, t.lineLength last⟩)
  else (.origin, ⟨last, t.lineLength last⟩)

def erase (s : Surface) (span : Span) : Surface :=
  match span with
  | .chars start stop => s.erase start stop
  | .lines first last =>
    let (start, stop) := lineBounds s.text first last
    s.erase start stop
  | .block .. =>
    (span.segments s.text).foldr
      (fun g s => if g.start < g.stop then s.erase ⟨g.line, g.start⟩ ⟨g.line, g.stop⟩ else s) s

def delete (s : Surface) (span : Span) : Surface × Text :=
  (span.erase s, span.textOf s.text)

end Span

end ModalEdit
