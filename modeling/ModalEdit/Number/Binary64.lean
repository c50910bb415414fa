/-! Binary floating point taken apart: the exact value of a double, the double nearest to a
fraction, and the exact remainder of a division. -/

namespace ModalEdit.Number

inductive Binary64 where
  | nan
  | infinite (negative : Bool)
  | finite (negative : Bool) (significand : Nat) (exponent : Int)
  deriving DecidableEq, Repr

namespace Binary64

def ofBits (bits : Nat) : Binary64 :=
  let negative := Nat.pow 2 63 ≤ bits
  let field : Nat := bits / Nat.pow 2 52 % 2048
  let fraction : Nat := bits % Nat.pow 2 52
  if field = 2047 then
    if fraction = 0 then .infinite negative else .nan
  else if field = 0 then .finite negative fraction (-1074)
  else .finite negative (Nat.pow 2 52 + fraction) ((field : Int) - 1075)

def ofFloat (x : Float) : Binary64 := ofBits x.toBits.toNat

def shift (num den : Nat) (k : Int) : Nat × Nat :=
  if 0 ≤ k then (num * Nat.pow 2 k.toNat, den) else (num, den * Nat.pow 2 (-k).toNat)

def roundHalfEven (num den : Nat) : Nat :=
  let n := num / den
  let r := num % den
  if 2 * r < den then n
  else if den < 2 * r then n + 1
  else n + n % 2

def lastPlace (num den : Nat) : Int :=
  let guess : Int := max ((num.log2 : Int) - den.log2 - 53) (-1074)
  let (a, b) := shift num den (-guess)
  if a / b < Nat.pow 2 53 then guess else guess + 1

def nearestBits (num den : Nat) : Nat :=
  if num = 0 then 0
  else
    let q := lastPlace num den
    let (a, b) := shift num den (-q)
    let n := roundHalfEven a b
    let bits := if n < Nat.pow 2 52 then n else (q + 1074).toNat * Nat.pow 2 52 + n
    min bits (2047 * Nat.pow 2 52)

def nearest (negative : Bool) (num den : Nat) : Float :=
  Float.ofBits (.ofNat (nearestBits num den + if negative then Nat.pow 2 63 else 0))

def remainder (m : Nat) (e : Int) (n : Nat) (f : Int) : Nat × Int :=
  let k := min e f
  ((m * Nat.pow 2 (e - k).toNat) % (n * Nat.pow 2 (f - k).toNat), k)

end Binary64

open Binary64 in
def floatRemainder (x y : Float) : Float :=
  match ofFloat x, ofFloat y with
  | .finite s m e, .finite _ n f =>
    if n = 0 then 0 / 0
    else
      let (r, k) := remainder m e n f
      let (a, b) := shift r 1 k
      nearest s a b
  | .finite .., .infinite _ => x
  | _, _ => 0 / 0

end ModalEdit.Number
