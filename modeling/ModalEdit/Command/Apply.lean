import ModalEdit.Command.Basic
import ModalEdit.Surface.Basic

namespace ModalEdit

open Motion (iterate)

namespace Surface

def store (s : Surface) (register : Option Char) (t : Text) : Surface :=
  s.setRegister (register.getD '"') t

def currentLine (s : Surface) : Text := s.lineAt s.cursor.line

def clustersAhead (s : Surface) (n : Nat) : Nat :=
  iterate (Grapheme.nextBoundary s.currentLine) n s.cursor.byte

def clustersBehind (s : Surface) (n : Nat) : Nat :=
  iterate (Grapheme.prevBoundary s.currentLine) n s.cursor.byte

def emptyLines (s : Surface) (first last : Nat) : Surface × Text :=
  (s.erase ⟨first, 0⟩ ⟨last, s.lineLength last⟩, (Span.lines first last).textOf s.text)

end Surface

namespace Operator

def edits : Operator → Bool
  | yank => false
  | _ => true

/-- The motion that the operator makes of `m`: a change of words stops at the end of the last one,
unless the cursor is on a blank or behind the line. -/
def adjust (op : Operator) (s : Surface) (m : Motion) : Motion :=
  let onBlank := match Unicode.clusters (s.currentLine.dropBytes s.cursor.byte) with
    | g :: _ => Grapheme.isBlank g
    | [] => true
  if op = .change ∧ m = .wordForward ∧ !onBlank then .wordEnd else m

def regionEnd (t : Text) (m : Motion) (start stop : Position) : Position :=
  if m.isInclusive then ⟨stop.line, Grapheme.nextBoundary (t.lineAt stop.line) stop.byte⟩
  else if m = .wordForward ∧ start.line < stop.line then ⟨start.line, t.lineLength start.line⟩
  else stop

def region (op : Operator) (s : Surface) (m : Motion) (count : Nat) (explicit : Bool) : Span :=
  let m := op.adjust s m
  let target := m.target s.text s.cursor count explicit
  if m.isLinewise then .lines (min s.cursor.line target.line) (max s.cursor.line target.line)
  else
    let (start, stop) := if target < s.cursor then (target, s.cursor) else (s.cursor, target)
    .chars start (regionEnd s.text m start stop)

/-- Whether the region is found: `adjust` cuts the line at the cursor. -/
def hasRegion (op : Operator) (s : Surface) (m : Motion) (count : Nat) : Bool :=
  s.text.canCut s.cursor && (op.adjust s m).hasTarget s.text s.cursor count

def lineRegion (s : Surface) (count : Nat) : Span :=
  .lines s.cursor.line (min (s.cursor.line + count - 1) s.lastLine)

def apply (op : Operator) (s : Surface) (span : Span) (register : Option Char) : Surface :=
  match op with
  | yank =>
    let s := s.store register (span.textOf s.text)
    if span.isLinewise then s else s.setCursor (span.start s.text)
  | delete =>
    let (s, removed) := span.delete s
    (s.store register removed).setCursor (normalize s.text (span.start s.text))
  | change =>
    match span with
    | .lines first last =>
      let (s, removed) := s.emptyLines first last
      (s.setCursor ⟨first, 0⟩).store register removed
    | _ =>
      let (s, removed) := span.delete s
      (s.setCursor (span.start s.text)).store register removed
  | shift d =>
    let s := s.shift span.firstLine span.lastLine d
    s.setCursor ⟨span.firstLine, firstNonBlankOf s.text span.firstLine⟩

def canApply (op : Operator) (s : Surface) (span : Span) : Bool :=
  match op with
  | shift _ => true
  | _ => span.hasText s.text

end Operator

def Simple.canApply (c : Simple) (s : Surface) (count : Nat) : Bool :=
  let p := s.cursor
  let within (first last : Nat) : Span := .chars ⟨p.line, first⟩ ⟨p.line, last⟩
  let ahead := s.clustersAhead count
  let behind := s.clustersBehind count
  match c with
  | .deleteForward => ahead ≤ p.byte || (within p.byte ahead).hasText s.text
  | .deleteBackward => p.byte ≤ behind || (within behind p.byte).hasText s.text
  | .deleteToEnd | .changeToEnd => (within p.byte s.currentLine.byteLength).hasText s.text
  | .toggleCase => ahead ≤ p.byte || s.canChangeCase (within p.byte ahead) .toggle
  | .yankLines | .paste _ | .joinLines => true

namespace Insertion

def prepare (i : Insertion) (s : Surface) (count : Nat) : Surface :=
  let p := s.cursor
  let l := s.currentLine
  match i with
  | append => s.setCursor (if l.isEmpty then p else ⟨p.line, Grapheme.nextBoundary l p.byte⟩)
  | appendAtEnd => s.setCursor ⟨p.line, l.byteLength⟩
  | insertAtStart => s.setCursor ⟨p.line, firstNonBlankOf s.text p.line⟩
  | openBelow => (s.insert ⟨p.line, l.byteLength⟩ ['\n']).1.setCursor ⟨p.line + 1, 0⟩
  | openAbove => (s.insert ⟨p.line, 0⟩ ['\n']).1.setCursor ⟨p.line, 0⟩
  | substituteChars =>
    let (s, removed) := s.delete p ⟨p.line, s.clustersAhead count⟩
    (s.store none removed).setCursor p
  | substituteLine =>
    let (s, removed) := s.delete ⟨p.line, 0⟩ ⟨p.line, l.byteLength⟩
    (s.store none (removed ++ ['\n'])).setCursor ⟨p.line, 0⟩
  | insert | overwrite => s.setCursor p

def repeats : Insertion → Bool
  | append | appendAtEnd | insert | insertAtStart => true
  | _ => false

end Insertion

end ModalEdit
