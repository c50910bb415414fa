import ModalEdit.Text.Basic
import ModalEdit.Number.Shortest
import ModalEdit.Unicode.Escape
import ModalEdit.Unicode.Letter

/-! The calculator: decimal numbers, `+ - * / %`, parentheses and signs. An expression is cut into
tokens and then evaluated from left to right with a stack of open parentheses. -/

namespace ModalEdit.Calculator

open Unicode

inductive Error where
  | empty
  | unexpected (offset : Nat) (c : Char)
  | unexpectedEnd
  | divisionByZero
  deriving DecidableEq, Repr

def Error.message : Error → Text
  | .empty => "empty expression".toList
  | .unexpected n c => "unexpected ".toList ++ quoteChar c ++ " at ".toList ++ (toString n).toList
  | .unexpectedEnd => "unexpected end of expression".toList
  | .divisionByZero => "division by zero".toList

inductive Lexeme where
  | number (digits : Text)
  | symbol (c : Char)
  deriving DecidableEq, Repr

structure Token where
  offset : Nat
  lexeme : Lexeme
  deriving DecidableEq, Repr

def Token.head (t : Token) : Char :=
  match t.lexeme with
  | .number ds => ds.headD '.'
  | .symbol c => c

def isNumeral (c : Char) : Bool := c.isDigit || c == '.'

def consNumeral (n : Nat) (c : Char) : List Token → List Token
  | ⟨m, .number ds⟩ :: ts =>
    if m = n + 1 then ⟨n, .number (c :: ds)⟩ :: ts else ⟨n, .number [c]⟩ :: ⟨m, .number ds⟩ :: ts
  | ts => ⟨n, .number [c]⟩ :: ts

def tokens : Nat → Text → List Token
  | _, [] => []
  | n, c :: t =>
    let rest := tokens (n + c.utf8Size) t
    if isNumeral c then consNumeral n c rest
    else if isWhitespace c then rest
    else ⟨n, .symbol c⟩ :: rest

def literal? (ds : Text) : Option Float :=
  let whole := ds.takeWhile (· != '.')
  let fraction := (ds.dropWhile (· != '.')).drop 1
  let digits := whole ++ fraction
  if digits.isEmpty || fraction.contains '.' then none
  else
    let n := digits.foldl (fun n d => n * 10 + (d.toNat - 48)) 0
    some (Number.Binary64.nearest false n (Nat.pow 10 fraction.length))

inductive SumOp where
  | add | sub
  deriving DecidableEq, Repr

inductive ProductOp where
  | mul | div | rem
  deriving DecidableEq, Repr

def SumOp.ofChar? : Char → Option SumOp
  | '+' => some .add
  | '-' => some .sub
  | _ => none

def ProductOp.ofChar? : Char → Option ProductOp
  | '*' => some .mul
  | '/' => some .div
  | '%' => some .rem
  | _ => none

def SumOp.apply : SumOp → Float → Float → Float
  | .add, x, y => x + y
  | .sub, x, y => x - y

def ProductOp.apply : ProductOp → Float → Float → Except Error Float
  | .mul, x, y => .ok (x * y)
  | .div, x, y => if y == 0 then .error .divisionByZero else .ok (x / y)
  | .rem, x, y => if y == 0 then .error .divisionByZero else .ok (Number.floatRemainder x y)

/-- What waits for an operand: the sum and the product it belongs to, with the operator before it,
and the signs in front of it, the nearest first. -/
structure Pending where
  sum : Option (Float × SumOp) := none
  product : Option (Float × ProductOp) := none
  signs : List SumOp := []

namespace Pending

def applySigns (signs : List SumOp) (x : Float) : Float :=
  signs.foldl (fun x s => match s with | .add => x | .sub => -x) x

def receive (p : Pending) (x : Float) : Except Error Float :=
  match p.product with
  | none => .ok (applySigns p.signs x)
  | some (y, op) => op.apply y (applySigns p.signs x)

def total (p : Pending) (x : Float) : Float :=
  match p.sum with
  | none => x
  | some (y, op) => op.apply y x

end Pending

inductive State where
  | operand
  | value (x : Float)

def run (s : State) (p : Pending) (outer : List Pending) : List Token → Except Error Float
  | [] =>
    match s, outer with
    | .operand, _ => .error .unexpectedEnd
    | .value x, [] => .ok (p.total x)
    | .value _, _ :: _ => .error .unexpectedEnd
  | t :: ts =>
    let unexpected := .error (.unexpected t.offset t.head)
    match s, t.lexeme with
    | .operand, .number ds =>
      match literal? ds with
      | none => unexpected
      | some x =>
        match p.receive x with
        | .error e => .error e
        | .ok y => run (.value y) p outer ts
    | .operand, .symbol c =>
      if c = '(' then run .operand {} (p :: outer) ts
      else match SumOp.ofChar? c with
        | some op => run .operand { p with signs := op :: p.signs } outer ts
        | none => unexpected
    | .value _, .number _ => unexpected
    | .value x, .symbol c =>
      match SumOp.ofChar? c, ProductOp.ofChar? c, outer with
      | some op, _, _ => run .operand { sum := some (p.total x, op) } outer ts
      | none, some op, _ => run .operand { p with product := some (x, op), signs := [] } outer ts
      | none, none, q :: outer' =>
        if c = ')' then
          match q.receive (p.total x) with
          | .error e => .error e
          | .ok y => run (.value y) q outer' ts
        else unexpected
      | none, none, [] => unexpected

def evaluate (expr : Text) : Except Error Float :=
  match tokens 0 expr with
  | [] => .error .empty
  | ts => run .operand {} [] ts

def format (x : Float) : Text := Number.render x

end ModalEdit.Calculator
