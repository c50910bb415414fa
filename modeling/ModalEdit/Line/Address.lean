import ModalEdit.Text.Basic
import ModalEdit.Command.Prefix

namespace ModalEdit

inductive Address where
  | current
  | last
  | line (number : Nat)
  deriving DecidableEq, Repr

namespace Address

def numberCap : Nat := Nat.pow 2 64 - 1

def resolve (a : Address) (current lineCount : Nat) : Nat :=
  match a with
  | .current => min current (lineCount - 1)
  | .last => lineCount - 1
  | .line n => min (n - 1) (lineCount - 1)

def take (t : Text) : Option Address × Text :=
  match t with
  | '.' :: t => (some .current, t)
  | '$' :: t => (some .last, t)
  | _ =>
    let digits := t.takeWhile Char.isDigit
    if digits.isEmpty || decimal digits > numberCap then (none, t)
    else (some (.line (decimal digits)), t.dropWhile Char.isDigit)

end Address

structure LineRange where
  start : Option Address := none
  stop : Option Address := none
  whole : Bool := false
  deriving DecidableEq, Repr

namespace LineRange

def isEmpty (r : LineRange) : Bool := r.start.isNone && !r.whole

def resolve (r : LineRange) (current lineCount : Nat) : Nat × Nat :=
  if r.whole then (0, lineCount - 1)
  else
    let start := (r.start.getD .current).resolve current lineCount
    let stop := (r.stop.map (·.resolve current lineCount)).getD start
    (min start stop, max start stop)

def take (t : Text) : LineRange × Text :=
  match t with
  | '%' :: t => ({ whole := true }, t)
  | _ =>
    match Address.take t with
    | (some start, ',' :: t) =>
      let (stop, t) := Address.take t
      ({ start := some start, stop }, t)
    | (start, t) => ({ start }, t)

end LineRange

end ModalEdit
