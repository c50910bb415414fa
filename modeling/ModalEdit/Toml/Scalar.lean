import ModalEdit.Command.Prefix
import ModalEdit.Toml.Token
import ModalEdit.Toml.Value

namespace ModalEdit.Toml

def isDigitRun (digit : Char → Bool) : Text → Bool
  | [] => false
  | [c] => digit c
  | c :: '_' :: r => digit c && isDigitRun digit r
  | c :: r => digit c && isDigitRun digit r

def digitsOf (t : Text) : Text := t.filter (· != '_')

def valueIn (base : Nat) (t : Text) : Nat :=
  (digitsOf t).foldl (fun n c => n * base + (hexDigit? c).getD 0) 0

def isHexDigit (c : Char) : Bool := (hexDigit? c).isSome

def isOctalDigit (c : Char) : Bool := '0' ≤ c && c ≤ '7'

def isBinaryDigit (c : Char) : Bool := c == '0' || c == '1'

def isDecimal (t : Text) : Bool :=
  isDigitRun Char.isDigit t && (t.head? != some '0' || t.length == 1)

def splitSign : Text → Option Char × Text
  | '+' :: r => (some '+', r)
  | '-' :: r => (some '-', r)
  | r => (none, r)

def integer? (t : Text) : Option Int :=
  let (sign, r) := splitSign t
  match sign, r with
  | none, '0' :: 'x' :: ds => if isDigitRun isHexDigit ds then some (valueIn 16 ds) else none
  | none, '0' :: 'o' :: ds => if isDigitRun isOctalDigit ds then some (valueIn 8 ds) else none
  | none, '0' :: 'b' :: ds => if isDigitRun isBinaryDigit ds then some (valueIn 2 ds) else none
  | _, ds =>
    if isDecimal ds then
      some (if sign = some '-' then -(valueIn 10 ds : Int) else valueIn 10 ds)
    else none

def isExponent (t : Text) : Bool := isDigitRun Char.isDigit (splitSign t).2

def isFloat (t : Text) : Bool :=
  let r := (splitSign t).2
  if r = ['i', 'n', 'f'] ∨ r = ['n', 'a', 'n'] then true
  else
    let isE (c : Char) : Bool := c == 'e' || c == 'E'
    let mantissa := r.takeWhile (!isE ·)
    let exponent := r.dropWhile (!isE ·)
    let whole := mantissa.takeWhile (· != '.')
    let fraction := mantissa.dropWhile (· != '.')
    isDecimal whole && (fraction.isEmpty || isDigitRun Char.isDigit fraction.tail) &&
      (exponent.isEmpty || isExponent exponent.tail) && !(fraction.isEmpty && exponent.isEmpty)

def isField (n low high : Nat) (t : Text) : Bool :=
  t.length == n && t.all Char.isDigit && low ≤ decimal t && decimal t ≤ high

def daysIn (year month : Nat) : Nat :=
  if month = 2 then
    if (year % 4 = 0 ∧ year % 100 ≠ 0) ∨ year % 400 = 0 then 29 else 28
  else if month = 4 ∨ month = 6 ∨ month = 9 ∨ month = 11 then 30
  else 31

def isDate (t : Text) : Bool :=
  match t with
  | [a, b, c, d, '-', e, f, '-', g, h] =>
    isField 4 0 9999 [a, b, c, d] && isField 2 1 12 [e, f] &&
      isField 2 1 (daysIn (decimal [a, b, c, d]) (decimal [e, f])) [g, h]
  | _ => false

def isFraction : Text → Bool
  | [] => true
  | '.' :: ds => !ds.isEmpty && ds.all Char.isDigit
  | _ => false

def isTime (t : Text) : Bool :=
  match t with
  | a :: b :: ':' :: c :: d :: rest =>
    isField 2 0 23 [a, b] && isField 2 0 59 [c, d] &&
      match rest with
      | ':' :: e :: f :: rest => isField 2 0 60 [e, f] && isFraction rest
      | rest => rest.isEmpty
  | _ => false

def isOffset (t : Text) : Bool :=
  match t with
  | ['Z'] | ['z'] => true
  | [s, a, b, ':', c, d] =>
    (s == '+' || s == '-') && isField 2 0 23 [a, b] && isField 2 0 59 [c, d]
  | _ => false

def isZonedTime (t : Text) : Bool :=
  let inTime (c : Char) : Bool := c.isDigit || c == ':' || c == '.'
  let offset := t.dropWhile inTime
  isTime (t.takeWhile inTime) && (offset.isEmpty || isOffset offset)

def isMoment (t : Text) : Bool :=
  let date := t.take 10
  isTime t || (isDate date &&
    match t.drop 10 with
    | [] => true
    | c :: time => (c == 'T' || c == 't' || c == ' ') && isZonedTime time)

def scalar? (t : Text) : Option Value :=
  if t = "true".toList then some (.boolean true)
  else if t = "false".toList then some (.boolean false)
  else match integer? t with
    | some n => if -(Nat.pow 2 127 : Nat) ≤ n ∧ n < (Nat.pow 2 128 : Nat) then some (.integer n) else none
    | none =>
      if isFloat t then some (.float t)
      else if isMoment t then some (.moment t)
      else none

end ModalEdit.Toml
