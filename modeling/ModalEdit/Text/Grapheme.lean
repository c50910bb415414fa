import ModalEdit.Text.Basic
import ModalEdit.Unicode.Width
import ModalEdit.Unicode.Letter

namespace ModalEdit.Grapheme

open Text Unicode

def width (g : Text) : Nat := max 1 (textWidth g)

def isWord (g : Text) : Bool :=
  match g with
  | c :: _ => c == '_' || isAlphanumeric c
  | [] => false

def isBlank (g : Text) : Bool := g.all isWhitespace

def startsFrom : Nat → List Text → List Nat
  | _, [] => []
  | n, g :: gs => n :: startsFrom (n + byteLength g) gs

def starts (line : Text) : List Nat := startsFrom 0 (clusters line)

def prevBoundary (line : Text) (b : Nat) : Nat :=
  if b > byteLength line then 0
  else ((starts line).takeWhile (· < b)).getLast?.getD 0

def nextBoundary (line : Text) (b : Nat) : Nat :=
  ((starts line).find? (b < ·)).getD (byteLength line)

def columnByte : Nat → Nat → List Text → Nat
  | n, _, [] => n
  | n, col, g :: gs =>
    if col = 0 then n else columnByte (n + byteLength g) (col - width g) gs

def byteAtColumn (line : Text) (col : Nat) : Nat := columnByte 0 col (clusters line)

def columnsBefore (b : Nat) : Nat → List Text → Nat
  | _, [] => 0
  | n, g :: gs => if n < b then width g + columnsBefore b (n + byteLength g) gs else 0

def columnOf (line : Text) (b : Nat) : Nat := columnsBefore b 0 (clusters line)

end ModalEdit.Grapheme
