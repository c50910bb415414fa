import ModalEdit.Pattern.Basic
import ModalEdit.Text.Basic

namespace ModalEdit.Pattern

open Unicode

structure Flags where
  ignoreCase : Bool := false
  multiLine : Bool := false
  dotAll : Bool := false
  swapGreed : Bool := false
  crlf : Bool := false
  verbose : Bool := false
  ascii : Bool := false

namespace Flags

def set? (f : Flags) (on : Bool) : Char → Option Flags
  | 'i' => some { f with ignoreCase := on }
  | 'm' => some { f with multiLine := on }
  | 's' => some { f with dotAll := on }
  | 'U' => some { f with swapGreed := on }
  | 'R' => some { f with crlf := on }
  | 'x' => some { f with verbose := on }
  | 'u' => some { f with ascii := !on }
  | _ => none

def skipBlanks (comment : Bool) : Text → Text
  | [] => []
  | c :: t =>
    if comment then skipBlanks (c != '\n') t
    else if c == '#' then skipBlanks true t
    else if isWhitespace c then skipBlanks false t
    else c :: t

def skip (f : Flags) (t : Text) : Text := if f.verbose then skipBlanks false t else t

def foldCase (f : Flags) (s : CharSet) : CharSet :=
  if f.ignoreCase then s.foldCase f.ascii else s

def admit? (f : Flags) (s : CharSet) : Option CharSet :=
  if f.ascii && !s.isAscii then none else some s

end Flags

inductive Atom where
  | literal (c : Char) (byte : Bool)
  | set (s : CharSet)
  | look (l : Look)

namespace Atom

def hexDigit? (c : Char) : Option Nat :=
  if c.isDigit then some (c.toNat - 48)
  else if 'a' ≤ c && c ≤ 'f' then some (c.toNat - 87)
  else if 'A' ≤ c && c ≤ 'F' then some (c.toNat - 55)
  else none

def charOf? (n : Nat) : Option Char := if n.isValidChar then some (Char.ofNat n) else none

def hexValue? (digits : Text) : Option Nat :=
  if digits.isEmpty then none
  else digits.foldlM (fun n c => (hexDigit? c).map (16 * n + ·)) 0

def braced? (f : Flags) (t : Text) : Option (Text × Text) :=
  let inner := t.takeWhile (· != '\x7d')
  match t.drop inner.length with
  | _ :: rest => some (if f.verbose then inner.filter (!isWhitespace ·) else inner, rest)
  | [] => none

def fixedHex? (f : Flags) : (digits : Nat) → (value : Nat) → Text → Option (Nat × Text)
  | 0, v, t => some (v, f.skip t)
  | n + 1, v, t =>
    match f.skip t with
    | c :: t => (hexDigit? c).bind fun d => fixedHex? f n (16 * v + d) t
    | [] => none

def hex? (f : Flags) (digits : Nat) (t : Text) : Option (Atom × Text) :=
  match f.skip t with
  | '\x7b' :: t => do
    let (inner, t) ← braced? f t
    let c ← charOf? (← hexValue? inner)
    pure (literal c false, f.skip t)
  | t => do
    let (n, t) ← fixedHex? f digits 0 t
    let c ← charOf? n
    pure (literal c (digits == 2), t)

def property? (f : Flags) (negated : Bool) (t : Text) : Option (Atom × Text) := do
  let (name, t) ← match f.skip t with
    | '\x7b' :: t => braced? f t
    | '\\' :: _ | [] => none
    | c :: t => some ([c], f.skip t)
  if f.ascii then none
  else
    let s ← CharSet.property? name
    pure (set ((f.foldCase s).complIf negated), t)

def isBoundaryLetter (c : Char) : Bool := c.isAlpha || c == '-'

def boundary? (f : Flags) (t : Text) : Option (Atom × Text) :=
  match t with
  | '\x7b' :: rest =>
    match f.skip rest with
    | [] => none
    | c :: _ =>
      if isBoundaryLetter c then do
        let (name, rest) ← braced? f rest
        let l ← match String.ofList name with
          | "start" => some (Look.wordStart f.ascii)
          | "end" => some (Look.wordEnd f.ascii)
          | "start-half" => some (Look.wordStartHalf f.ascii)
          | "end-half" => some (Look.wordEndHalf f.ascii)
          | _ => none
        pure (look l, rest)
      else some (look (.wordBoundary f.ascii), t)
  | _ => some (look (.wordBoundary f.ascii), t)

def escaped? (f : Flags) : Text → Option (Atom × Text)
  | [] => none
  | c :: t =>
    let plain (c : Char) : Option (Atom × Text) := some (literal c false, t)
    let perl (s : CharSet) (negated : Bool) : Option (Atom × Text) :=
      (f.admit? (s.complIf negated)).map (set ·, t)
    let place (l : Look) : Option (Atom × Text) := some (look l, t)
    match c with
    | 'x' => hex? f 2 t
    | 'u' => hex? f 4 t
    | 'U' => hex? f 8 t
    | 'p' => property? f false t
    | 'P' => property? f true t
    | 'd' => perl (.digit f.ascii) false
    | 'D' => perl (.digit f.ascii) true
    | 's' => perl (.space f.ascii) false
    | 'S' => perl (.space f.ascii) true
    | 'w' => perl (.word f.ascii) false
    | 'W' => perl (.word f.ascii) true
    | 'n' => plain '\n'
    | 't' => plain '\t'
    | 'r' => plain '\r'
    | 'a' => plain '\x07'
    | 'f' => plain '\x0c'
    | 'v' => plain '\x0b'
    | 'A' => place .textStart
    | 'z' => place .textEnd
    | 'b' => boundary? f t
    | 'B' => place (.notWordBoundary f.ascii)
    | '<' => place (.wordStart f.ascii)
    | '>' => place (.wordEnd f.ascii)
    | _ => if c.toNat < 128 && !c.isAlphanum then plain c else none

end Atom

end ModalEdit.Pattern
