import ModalEdit.Command.Prefix

namespace ModalEdit

inductive VisualKind where
  | characters | lines | block
  deriving DecidableEq, Repr

inductive Mode where
  | normal | insert | insertBlock | visual | visualLine | visualBlock
  deriving DecidableEq, Repr, Inhabited

inductive Trigger where
  | insert
  | visual (kind : VisualKind)
  | escape
  | operate
  | change
  deriving DecidableEq, Repr

namespace VisualKind

def mode : VisualKind → Mode
  | characters => .visual
  | lines => .visualLine
  | block => .visualBlock

def ofKey? (c : Char) : Option VisualKind :=
  if c = 'v' then some characters
  else if c = 'V' then some lines
  else if c = 'K' ∨ c = blockKey then some block
  else none

end VisualKind

namespace Trigger

def normalInserts : List Text :=
  ["a", "A", "i", "I", "o", "O", "R", "s", "S", "C", "cc"].map String.toList

def visualOperators : List Char := "dxXyYD><J~uU".toList

def visualChanges : List Char := "csCSR".toList

def blockChanges : List Char := ['I', 'A']

def dropRegister : Text → Text
  | '"' :: _ :: rest => rest
  | t => t

def dropCount (t : Text) : Text :=
  match t with
  | c :: _ => if '1' ≤ c ∧ c ≤ '9' then t.dropWhile Char.isDigit else t
  | [] => []

def bodyOf (t : Text) : Text := dropCount (dropRegister t)

def ofNormalBody? (body : Text) : Option Trigger :=
  if body ∈ normalInserts ∨
      (body.head? = some 'c' ∧ 1 < body.length ∧ body.getLast? ≠ some escapeKey) then
    some .insert
  else match body with
    | [c] => (VisualKind.ofKey? c).map .visual
    | _ => none

def ofVisualKey? (m : Mode) (c : Char) : Option Trigger :=
  if c = escapeKey then some .escape
  else match VisualKind.ofKey? c with
    | some k => some (.visual k)
    | none =>
      if c ∈ visualOperators then some .operate
      else if c ∈ visualChanges ∨ (m = .visualBlock ∧ c ∈ blockChanges) then some .change
      else none

def classify? (m : Mode) (t : Text) : Option Trigger :=
  match m, bodyOf t with
  | .normal, body => ofNormalBody? body
  | .insert, [c] | .insertBlock, [c] => if c = escapeKey then some .escape else none
  | .visual, [c] | .visualLine, [c] | .visualBlock, [c] => ofVisualKey? m c
  | _, _ => none

end Trigger

namespace Mode

def isInsert : Mode → Bool
  | insert | insertBlock => true
  | _ => false

def isVisual : Mode → Bool
  | visual | visualLine | visualBlock => true
  | _ => false

def label : Mode → String
  | normal => ""
  | insert => "insert"
  | insertBlock => "insert block"
  | visual => "visual"
  | visualLine => "visual line"
  | visualBlock => "visual block"

def step (m : Mode) (t : Trigger) (readonly : Bool) : Mode :=
  match m, t with
  | _, .escape => normal
  | normal, .insert => if readonly then normal else insert
  | normal, .visual k => k.mode
  | visual, .visual k | visualLine, .visual k | visualBlock, .visual k =>
    if k.mode = m then normal else k.mode
  | visual, .operate | visualLine, .operate | visualBlock, .operate => normal
  | visualBlock, .change => if readonly then normal else insertBlock
  | visual, .change | visualLine, .change => if readonly then normal else insert
  | m, _ => m

def afterText? (m : Mode) (t : Text) (readonly : Bool) : Option Mode :=
  (Trigger.classify? m t).map fun trigger => m.step trigger readonly

end Mode

inductive ModeChange where
  | toInsert (block : Bool)
  | toNormal (before : Mode)
  deriving DecidableEq, Repr

def ModeChange.between? (m m' : Mode) : Option ModeChange :=
  if m = m' then none
  else match m' with
    | .insert => some (.toInsert false)
    | .insertBlock => some (.toInsert true)
    | .normal => some (.toNormal m)
    | _ => none

end ModalEdit
