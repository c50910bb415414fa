import ModalEdit.Number.Binary64

/-! Doubles as decimal text: the fewest digits that read back, in positional notation. -/

namespace ModalEdit.Number

/-- The fractions that read back as one double, over a common denominator, and the double. -/
structure Rounding where
  low : Nat
  value : Nat
  high : Nat
  den : Nat
  closed : Bool

namespace Rounding

def ofFinite (m : Nat) (e : Int) : Rounding :=
  let below := if m = Nat.pow 2 52 ∧ -1074 < e then 1 else 2
  let (unit, den) := Binary64.shift 1 1 (e - 2)
  ⟨(4 * m - below) * unit, 4 * m * unit, (4 * m + 2) * unit, den, m % 2 == 0⟩

def holds (r : Rounding) (n : Nat) (k : Int) : Bool :=
  let (a, b) := if 0 ≤ k then (n * Nat.pow 10 k.toNat * r.den, 1) else (n * r.den, Nat.pow 10 (-k).toNat)
  if r.closed then r.low * b ≤ a && a ≤ r.high * b else r.low * b < a && a < r.high * b

def grid (r : Rounding) (k : Int) : Nat × Nat × Nat :=
  let (a, b) :=
    if 0 ≤ k then (r.value, r.den * Nat.pow 10 k.toNat) else (r.value * Nat.pow 10 (-k).toNat, r.den)
  (2 * (a % b), a / b, b)

def onGrid? (r : Rounding) (k : Int) : Option Nat :=
  let (twice, n, unit) := r.grid k
  match r.holds n k && n != 0, r.holds (n + 1) k with
  | true, true => some (if twice < unit then n else n + 1)
  | true, false => some n
  | false, true => some (n + 1)
  | false, false => none

def search (r : Rounding) : Nat → Int → Nat × Int
  | 0, k => ((r.grid k).2.1, k)
  | steps + 1, k =>
    match r.onGrid? k with
    | some n => (n, k)
    | none => search r steps (k - 1)

def decade (r : Rounding) : Int :=
  (((r.value.log2 : Int) - r.den.log2 + 1) * 30103 / 100000) + 1

end Rounding

def dropTrailingZeros (n : Nat) (k : Int) : Nat → Nat × Int
  | 0 => (n, k)
  | steps + 1 => if n % 10 = 0 then dropTrailingZeros (n / 10) (k + 1) steps else (n, k)

def positional (n : Nat) (k : Int) : List Char :=
  let digits := Nat.toDigits 10 n
  if 0 ≤ k then digits ++ List.replicate k.toNat '0'
  else
    let places := (-k).toNat
    let digits := List.replicate (places + 1 - digits.length) '0' ++ digits
    digits.take (digits.length - places) ++ '.' :: digits.drop (digits.length - places)

def render (x : Float) : List Char :=
  match Binary64.ofFloat x with
  | .nan => ['N', 'a', 'N']
  | .infinite s => (if s then ['-'] else []) ++ ['i', 'n', 'f']
  | .finite s m e =>
    if m = 0 then ['0']
    else
      let r := Rounding.ofFinite m e
      let (n, k) := r.search 20 r.decade
      let (n, k) := dropTrailingZeros n k 20
      (if s then ['-'] else []) ++ positional n k

end ModalEdit.Number
