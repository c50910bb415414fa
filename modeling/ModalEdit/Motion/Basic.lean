import ModalEdit.Text.Lines
import ModalEdit.Text.Grapheme
import ModalEdit.Motion.Word

/-! Cursor motions. A motion may end past the last cluster of a line, so that an operator can reach
the end of the line; `normalize` brings the cursor back onto a cluster. -/

namespace ModalEdit

inductive Motion where
  | left | down | up | right
  | lineStart | firstNonBlank | lineEnd
  | wordForward | wordBackward | wordEnd
  | gotoLine | firstLine
  deriving DecidableEq, Repr

namespace Motion

open Text

def isLinewise : Motion → Bool
  | down | up | gotoLine | firstLine => true
  | _ => false

def isInclusive : Motion → Bool
  | wordEnd => true
  | _ => false

def iterate [DecidableEq α] (f : α → α) : Nat → α → α
  | 0, x => x
  | n + 1, x =>
    let y := f x
    if y = x then x else iterate f n y

def canIterate [DecidableEq α] (p : α → Bool) (f : α → α) : Nat → α → Bool
  | 0, _ => true
  | n + 1, x =>
    let y := f x
    p x && (y = x || canIterate p f n y)

def sameColumn (t : Text) (p : Position) (line : Nat) : Position :=
  ⟨line, Grapheme.byteAtColumn (t.lineAt line) (Grapheme.columnOf (t.lineAt p.line) p.byte)⟩

def lineTarget (t : Text) (count : Nat) (explicit : Bool) (default : Nat) : Nat :=
  if explicit then min (count - 1) (t.lineCount - 1) else default

def target (m : Motion) (t : Text) (p : Position) (count : Nat) (explicit : Bool) : Position :=
  let count := max 1 count
  let lastLine := t.lineCount - 1
  match m with
  | left =>
    let l := t.lineAt p.line
    ⟨p.line, iterate (Grapheme.prevBoundary l) count (min p.byte l.byteLength)⟩
  | right => ⟨p.line, iterate (Grapheme.nextBoundary (t.lineAt p.line)) count p.byte⟩
  | down => sameColumn t p (min (p.line + count) lastLine)
  | up => sameColumn t p (p.line - count)
  | lineStart => ⟨p.line, 0⟩
  | firstNonBlank => ⟨p.line, firstNonBlankOf t p.line⟩
  | lineEnd =>
    let line := min (p.line + count - 1) lastLine
    ⟨line, t.lineLength line⟩
  | gotoLine =>
    let line := lineTarget t count explicit lastLine
    ⟨line, firstNonBlankOf t line⟩
  | firstLine =>
    let line := lineTarget t count explicit 0
    ⟨line, firstNonBlankOf t line⟩
  | wordForward => iterate (Word.forward t) count p
  | wordBackward => iterate (Word.backward t) count p
  | wordEnd => iterate (Word.toEnd t) count p

/-- Whether the target is found. Words are read from the cut that each step begins at, but for
`wordEnd`, which begins at the next cluster. -/
def hasTarget (m : Motion) (t : Text) (p : Position) (count : Nat) : Bool :=
  match m with
  | wordForward => canIterate t.canCut (Word.forward t) (max 1 count) p
  | wordBackward => canIterate t.canCut (Word.backward t) (max 1 count) p
  | _ => true

end Motion

end ModalEdit
