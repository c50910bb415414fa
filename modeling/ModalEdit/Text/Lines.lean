import ModalEdit.Text.Basic

/-! A text as a sequence of lines: positions and offsets, insertion and removal. -/

namespace ModalEdit.Text

def isLineBreak (c : Char) : Bool :=
  (10 ≤ c.toNat && c.toNat ≤ 13) || c.toNat == 0x85 || c.toNat == 0x2028 || c.toNat == 0x2029

def consLine (c : Char) : List Text → List Text
  | [] => [[c]]
  | l :: ls => (c :: l) :: ls

/-- The lines with their terminators. The last line has none, and is empty after a terminator. -/
def rawLines : Text → List Text
  | [] => [[]]
  | '\r' :: '\n' :: t => ['\r', '\n'] :: rawLines t
  | c :: t => if isLineBreak c then [c] :: rawLines t else consLine c (rawLines t)

def trimNewline (l : Text) : Text :=
  if l.getLast? = some '\n' then l.dropLast else l

def lines (t : Text) : List Text := (rawLines t).map trimNewline

def lineCount (t : Text) : Nat := (rawLines t).length

def line? (t : Text) (i : Nat) : Option Text := (lines t)[i]?

def lineAt (t : Text) (i : Nat) : Text := (line? t i).getD []

def lineLength (t : Text) (i : Nat) : Nat := byteLength (lineAt t i)

def canCut (t : Text) (p : Position) : Bool :=
  IsCharBoundary (lineAt t p.line) (min p.byte (lineLength t p.line))

def lineStart (t : Text) (i : Nat) : Nat := byteLength ((rawLines t).take i).flatten

def clamp (t : Text) (p : Position) : Position :=
  let line := min p.line (lineCount t - 1)
  ⟨line, min p.byte (lineLength t line)⟩

def offsetOf (t : Text) (p : Position) : Nat :=
  let p := clamp t p
  lineStart t p.line + p.byte

def locate : List Text → Nat → Position
  | l :: l' :: ls, n =>
    if n < byteLength l then ⟨0, n⟩
    else
      let p := locate (l' :: ls) (n - byteLength l)
      ⟨p.line + 1, p.byte⟩
  | _, n => ⟨0, n⟩

def positionOf (t : Text) (n : Nat) : Position :=
  locate (rawLines t) (min n (byteLength t))

def insertAt (t : Text) (n : Nat) (s : Text) : Text :=
  takeBytes n t ++ s ++ dropBytes n t

def insert (t : Text) (p : Position) (s : Text) : Text × Position :=
  let n := offsetOf t p
  let t' := insertAt t n s
  (t', positionOf t' (n + byteLength s))

def remove (t : Text) (first last : Nat) : Text × Text :=
  if first < last then
    let keep := takeBytes first t
    (keep ++ dropBytes last t, dropBytes (byteLength keep) (takeBytes last t))
  else (t, [])

end ModalEdit.Text
