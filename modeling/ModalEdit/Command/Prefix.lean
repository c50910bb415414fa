import ModalEdit.Text.Basic

namespace ModalEdit

def escapeKey : Char := '\x1b'

def blockKey : Char := '\x16'

def countCap : Nat := 999999

def decimal (ds : Text) : Nat := ds.foldl (fun n d => n * 10 + (d.toNat - 48)) 0

/-- Counts are kept in machine words: a sum or product beyond them is the largest word. -/
def saturate (n : Nat) : Nat := min n (UInt64.size - 1)

def wordDecimal (ds : Text) : Nat :=
  ds.foldl (fun n d => saturate (saturate (n * 10) + (d.toNat - 48))) 0

@[simp] theorem min_saturate (n : Nat) : min (saturate n) countCap = min n countCap := by
  simp only [saturate, UInt64.size, countCap]
  omega

theorem wordDecimal_eq (ds : Text) : wordDecimal ds = saturate (decimal ds) := by
  suffices h : ∀ n, ds.foldl (fun n d => saturate (saturate (n * 10) + (d.toNat - 48)))
      (saturate n) = saturate (ds.foldl (fun n d => n * 10 + (d.toNat - 48)) n) from h 0
  induction ds with
  | nil => exact fun n => rfl
  | cons d ds ih =>
    intro n
    have hstep : saturate (saturate (saturate n * 10) + (d.toNat - 48)) =
        saturate (n * 10 + (d.toNat - 48)) := by
      simp only [saturate, UInt64.size]
      omega
    rw [List.foldl_cons, List.foldl_cons, hstep, ih]

structure Prefix where
  register : Option Char := none
  count : Option Nat := none
  deriving DecidableEq, Repr

namespace Prefix

def countOrOne (p : Prefix) : Nat := p.count.getD 1

def opensCount (c : Char) : Bool := c.isDigit && c != '0'

def takeCount (t : Text) : Option Nat × Text :=
  match t with
  | c :: _ =>
    if opensCount c then
      (some (min (wordDecimal (t.takeWhile Char.isDigit)) countCap), t.dropWhile Char.isDigit)
    else (none, t)
  | [] => (none, [])

theorem takeCount_cons (c : Char) (t : Text) :
    takeCount (c :: t) =
      if opensCount c then
        (some (min (decimal ((c :: t).takeWhile Char.isDigit)) countCap),
          (c :: t).dropWhile Char.isDigit)
      else (none, c :: t) := by
  rw [takeCount, wordDecimal_eq, min_saturate]

def split? (t : Text) : Option (Prefix × Text) :=
  match t with
  | ['"'] => none
  | '"' :: r :: rest => some (⟨some r, (takeCount rest).1⟩, (takeCount rest).2)
  | _ => some (⟨none, (takeCount t).1⟩, (takeCount t).2)

end Prefix

def isMacroBody : Text → Bool
  | c :: _ => c == 'q' || c == '@'
  | [] => false

end ModalEdit
