import ModalEdit.Text.Basic

namespace ModalEdit

inductive RegisterName where
  | unnamed
  | digit (index : Nat)
  | letter (l : Char)
  | append (l : Char)
  deriving DecidableEq, Repr

namespace RegisterName

def ofChar? (c : Char) : Option RegisterName :=
  if c = '"' then some .unnamed
  else if c.isDigit then some (.digit (c.toNat - 48))
  else if c.isLower then some (.letter c)
  else if c.isUpper then some (.append c.toLower)
  else none

end RegisterName

structure Registers where
  unnamed : Text := []
  numbered : List Text := []
  letters : Char → Text := fun _ => []

namespace Registers

def ringSize : Nat := 10

def get? (r : Registers) (c : Char) : Option Text :=
  match RegisterName.ofChar? c with
  | some .unnamed => some r.unnamed
  | some (.digit i) => r.numbered[i]?
  | some (.letter l) | some (.append l) => some (r.letters l)
  | none => none

def setLetter (r : Registers) (l : Char) (t : Text) : Registers :=
  { r with letters := fun c => if c = l then t else r.letters c }

def setNumbered (r : Registers) (i : Nat) (t : Text) : Registers :=
  { r with numbered := (r.numbered ++ List.replicate (i + 1 - r.numbered.length) []).set i t }

def pushNumbered (r : Registers) (t : Text) : Registers :=
  { r with numbered := (t :: r.numbered).take ringSize }

/-- Every accepted write also reaches the unnamed register; a write to the unnamed register also
enters the ring. -/
def set? (r : Registers) (c : Char) (t : Text) : Option Registers :=
  let alsoUnnamed (r : Registers) : Registers := { r with unnamed := t }
  match RegisterName.ofChar? c with
  | some .unnamed => some (alsoUnnamed (r.pushNumbered t))
  | some (.digit i) => some (alsoUnnamed (r.setNumbered i t))
  | some (.letter l) => some (alsoUnnamed (r.setLetter l t))
  | some (.append l) => some (alsoUnnamed (r.setLetter l (r.letters l ++ t)))
  | none => none

def set (r : Registers) (c : Char) (t : Text) : Registers := (r.set? c t).getD r

def names : List Char := '"' :: "0123456789abcdefghijklmnopqrstuvwxyz".toList

def listing (r : Registers) : List (Char × Text) :=
  names.filterMap fun c =>
    match r.get? c with
    | some (a :: t) => some (c, a :: t)
    | _ => none

end Registers

end ModalEdit
