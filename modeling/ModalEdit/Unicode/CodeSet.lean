/-! Sets of code points, stored as the places where membership changes. -/

namespace ModalEdit.Unicode

def countAtMost (key : Nat → Nat) (x lo hi : Nat) : Nat :=
  if lo < hi then
    let mid := (lo + hi) / 2
    if key mid ≤ x then countAtMost key x (mid + 1) hi else countAtMost key x lo mid
  else lo
termination_by hi - lo

structure CodeSet where
  bounds : Array Nat

namespace CodeSet

def contains (s : CodeSet) (c : Char) : Bool :=
  countAtMost (s.bounds.getD · 0) c.toNat 0 s.bounds.size % 2 == 1

end CodeSet

end ModalEdit.Unicode
