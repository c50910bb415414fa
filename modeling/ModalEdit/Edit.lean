import ModalEdit.Span
import ModalEdit.Unicode.Case

namespace ModalEdit

open Text

inductive Case where
  | toggle | lower | upper
  deriving DecidableEq, Repr

def Case.map : Case → Text → Text
  | .lower, t => Unicode.lower t
  | .upper, t => Unicode.upper t
  | .toggle, t =>
    t.flatMap fun c =>
      if Unicode.isUppercase c then Unicode.charToLower c else Unicode.charToUpper c

def copies (n : Nat) (t : Text) : Text := (List.replicate n t).flatten

theorem copies_succ (n : Nat) (t : Text) : copies (n + 1) t = t ++ copies n t := rfl

namespace Surface

def changeSegment (case : Case) (s : Surface) (g : Span.Segment) : Surface :=
  let piece := g.text s.text
  let mapped := case.map piece
  if mapped = piece then s
  else ((s.erase ⟨g.line, g.start⟩ ⟨g.line, g.stop⟩).insert ⟨g.line, g.start⟩ mapped).1

def changeCase (s : Surface) (span : Span) (case : Case) : Surface :=
  (span.segments s.text).foldl (changeSegment case) s

def canChange (case : Case) : List Span.Segment → Surface → Bool
  | [], _ => true
  | g :: gs, s => g.hasText s.text && canChange case gs (s.changeSegment case g)

def canChangeCase (s : Surface) (span : Span) (case : Case) : Bool :=
  canChange case (span.segments s.text) s

inductive Direction where
  | right | left
  deriving DecidableEq, Repr

def shiftWidth : Nat := 4

def indent : Text := List.replicate shiftWidth ' '

def outdent (l : Text) : Nat :=
  match l with
  | '\t' :: _ => 1
  | _ => ((l.take shiftWidth).takeWhile (· == ' ')).length

def shiftLine (d : Direction) (s : Surface) (i : Nat) : Surface :=
  let l := s.lineAt i
  match d with
  | .right => if l.isEmpty then s else (s.insert ⟨i, 0⟩ indent).1
  | .left => if outdent l = 0 then s else s.erase ⟨i, 0⟩ ⟨i, outdent l⟩

def shift (s : Surface) (first last : Nat) (d : Direction) : Surface :=
  (lineRange first (min last s.lastLine)).foldl (shiftLine d) s

/-- Appends the line after line `i` to it, with one space between unless one of them is empty or
the second begins with a closing parenthesis. Also gives the place where they meet. -/
def joinNext (s : Surface) (i : Nat) : Surface × Position :=
  let n := s.lineLength i
  let next := s.lineAt (i + 1)
  let blanks := next.takeWhile Unicode.isWhitespace
  let rest := next.dropWhile Unicode.isWhitespace
  let joint : Position := ⟨i, n⟩
  let s := s.erase joint ⟨i + 1, byteLength blanks⟩
  (if 0 < n ∧ rest ≠ [] ∧ rest.head? ≠ some ')' then (s.insert joint [' ']).1 else s, joint)

def joinTimes (i : Nat) : Nat → Surface → Position → Surface × Position
  | 0, s, p => (s, p)
  | n + 1, s, _ =>
    let (s, p) := s.joinNext i
    joinTimes i n s p

def join (s : Surface) (first last : Nat) : Surface × Position :=
  joinTimes first (min last s.lastLine - first) s ⟨first, s.lineLength first⟩

inductive Side where
  | after | before
  deriving DecidableEq, Repr

def pasteLines (s : Surface) (line : Nat) (body : Text) (side : Side) (count : Nat) :
    Surface × Position :=
  let lines := copies count (body ++ ['\n'])
  let target := if side = .after then line + 1 else line
  let s :=
    if target < s.lineCount then (s.insert ⟨target, 0⟩ lines).1
    else (s.insert ⟨line, s.lineLength line⟩ ('\n' :: lines.dropLast)).1
  (s, ⟨target, firstNonBlankOf s.text target⟩)

def pasteChars (s : Surface) (p : Position) (t : Text) (side : Side) (count : Nat) :
    Surface × Position :=
  let l := s.lineAt p.line
  let joint := if side = .after ∧ l ≠ [] then ⟨p.line, Grapheme.nextBoundary l p.byte⟩ else p
  let (s, stop) := s.insert joint (copies count t)
  (s, ⟨stop.line, Grapheme.prevBoundary (s.lineAt stop.line) stop.byte⟩)

def paste (s : Surface) (p : Position) (t : Text) (side : Side) (count : Nat) :
    Surface × Position :=
  if t.getLast? = some '\n' then s.pasteLines p.line t.dropLast side (max 1 count)
  else s.pasteChars p t side (max 1 count)

def clusterEnd? (l : Text) : Nat → Nat → Option Nat
  | 0, b => some b
  | n + 1, b =>
    if b < l.byteLength then clusterEnd? l n (Grapheme.nextBoundary l b) else none

def replaceChars? (s : Surface) (p : Position) (c : Char) (count : Nat) : Option Surface :=
  match clusterEnd? (s.lineAt p.line) (max 1 count) p.byte with
  | none => none
  | some stop =>
    some ((s.erase p ⟨p.line, stop⟩).insert p (List.replicate (max 1 count) c)).1

end Surface

end ModalEdit
