import ModalEdit.Toml.Value

namespace ModalEdit.Toml.Value

def fields? (names : List String) : Value → Option (List (Option Value))
  | .table _ es => some (names.map fun n => es.lookup n.toList)
  | .array _ items => some ((List.range names.length).map (items[·]?))
  | _ => none

def text? : Value → Option Text
  | .text t => some t
  | _ => none

def boolean? : Value → Option Bool
  | .boolean b => some b
  | _ => none

def size? : Value → Option Nat
  | .integer n => if 0 ≤ n ∧ n.toNat < Nat.pow 2 64 then some n.toNat else none
  | _ => none

def isEmpty : Value → Bool
  | .array _ items => items.isEmpty
  | .table _ es => es.isEmpty
  | _ => false

def variant? : Value → Option Text
  | .text t => some t
  | .table _ [(k, v)] => if v.isEmpty then some k else none
  | _ => none

def optional (f : Value → Option α) : Option Value → Option (Option α)
  | none => some none
  | some v => (f v).map some

def withDefault (a : α) (f : Value → Option α) : Option Value → Option α
  | none => some a
  | some v => f v

end ModalEdit.Toml.Value
