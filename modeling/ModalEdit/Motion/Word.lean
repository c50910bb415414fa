import ModalEdit.Text.Lines
import ModalEdit.Text.Grapheme

/-! Positions to rest on, and motions over words. A word is a run of clusters of one class that is
not blank; an empty line also counts as a word. -/

namespace ModalEdit

open Text

def firstNonBlankOf (t : Text) (i : Nat) : Nat :=
  byteLength ((t.lineAt i).takeWhile Unicode.isWhitespace)

def normalize (t : Text) (p : Position) : Position :=
  let i := min p.line (t.lineCount - 1)
  let l := t.lineAt i
  ⟨i, if l.isEmpty then 0
    else if l.byteLength ≤ p.byte then Grapheme.prevBoundary l l.byteLength else p.byte⟩

namespace Word

inductive Class where
  | blank | word | punctuation
  deriving DecidableEq, Repr

def classOf (g : Text) : Class :=
  if Grapheme.isBlank g then .blank else if Grapheme.isWord g then .word else .punctuation

def dropClusters : Nat → List Text → List Text
  | _, [] => []
  | n, g :: gs =>
    if n = 0 then g :: gs
    else if g.byteLength ≤ n then dropClusters (n - g.byteLength) gs
    else dropBytes n g :: gs

def takeClusters : Nat → List Text → List Text
  | _, [] => []
  | n, g :: gs =>
    if n = 0 then []
    else if g.byteLength ≤ n then g :: takeClusters (n - g.byteLength) gs
    else [takeBytes n g]

def clustersFrom (l : Text) (b : Nat) : List Text := dropClusters b (Unicode.clusters l)

def clustersTo (l : Text) (b : Nat) : List Text := takeClusters b (Unicode.clusters l)

def dropBlanks (gs : List Text) : List Text := gs.dropWhile (classOf · == .blank)

def dropRun : List Text → List Text
  | [] => []
  | g :: gs => gs.dropWhile (classOf · == classOf g)

def dropWord (gs : List Text) : List Text :=
  match gs with
  | [] => []
  | g :: _ => if classOf g = .blank then gs else dropRun gs

def startOf (l : Text) (gs : List Text) : Nat := l.byteLength - byteLength gs.flatten

def forwardFrom : Nat → Nat → List Text → Position
  | i, n, [] => ⟨i, n⟩
  | i, _, l :: ls =>
    if l.isEmpty then ⟨i + 1, 0⟩
    else match dropBlanks (Unicode.clusters l) with
      | [] => forwardFrom (i + 1) l.byteLength ls
      | gs => ⟨i + 1, startOf l gs⟩

def forward (t : Text) (p : Position) : Position :=
  let l := t.lineAt p.line
  match dropBlanks (dropWord (clustersFrom l (min p.byte l.byteLength))) with
  | [] => forwardFrom p.line l.byteLength (t.lines.drop (p.line + 1))
  | gs => ⟨p.line, startOf l gs⟩

def lastWord? (gs : List Text) : Option Nat :=
  match dropBlanks gs with
  | [] => none
  | gs => some (byteLength (dropRun gs).flatten)

def backwardFrom (t : Text) : Nat → Position
  | 0 => .origin
  | i + 1 =>
    let l := t.lineAt i
    if l.isEmpty then ⟨i, 0⟩
    else match lastWord? (Unicode.clusters l).reverse with
      | some b => ⟨i, b⟩
      | none => backwardFrom t i

def backward (t : Text) (p : Position) : Position :=
  let l := t.lineAt p.line
  match lastWord? (clustersTo l p.byte).reverse with
  | some b => ⟨p.line, b⟩
  | none => backwardFrom t p.line

def runEnd (l : Text) (gs : List Text) : Nat :=
  match gs with
  | [] => l.byteLength
  | g :: rest =>
    let run := g :: rest.takeWhile (classOf · == classOf g)
    startOf l gs + byteLength run.dropLast.flatten

def toEndFrom (t : Text) : Nat → List Text → Position
  | i, [] => normalize t ⟨i, t.lineLength i⟩
  | i, l :: ls =>
    match dropBlanks (Unicode.clusters l) with
    | [] => toEndFrom t (i + 1) ls
    | gs => ⟨i + 1, runEnd l gs⟩

def toEnd (t : Text) (p : Position) : Position :=
  let l := t.lineAt p.line
  match dropBlanks (clustersFrom l (Grapheme.nextBoundary l p.byte)) with
  | [] => toEndFrom t p.line (t.lines.drop (p.line + 1))
  | gs => ⟨p.line, runEnd l gs⟩

end Word

end ModalEdit
