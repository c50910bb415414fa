import ModalEdit.Pattern.Basic
import ModalEdit.Text.Basic

/-! The program of a pattern: instructions, of which a split has two successors in the order of
preference. -/

namespace ModalEdit.Pattern

inductive Instruction where
  | take (s : CharSet)
  | check (l : Look)
  | save (slot : Nat)
  | jump (target : Nat)
  | split (preferred other : Nat)
  | accept

namespace Node

def size : Node → Nat
  | empty => 0
  | set _ | look _ => 1
  | cat a b => a.size + b.size
  | alt a b => a.size + b.size + 2
  | group _ a => a.size + 2
  | repeated _ least (some most) a => least * a.size + (most - least) * (a.size + 1)
  | repeated _ 0 none a => a.size + 2
  | repeated _ (least + 1) none a => (least + 1) * a.size + 1

def weight : Node → Nat
  | empty => 1
  | set s => s.weight
  | look _ => 1
  | cat a b => a.weight + b.weight
  | alt a b => a.weight + b.weight + 1
  | group _ a => a.weight + 2
  | repeated _ least most a => max (most.getD (least + 1)) 1 * (a.weight + 1)

def choose (greedy : Bool) (body past : Nat) : Instruction :=
  if greedy then .split body past else .split past body

def emit : Node → (i : Nat) → List Instruction
  | empty, _ => []
  | set s, _ => [.take s]
  | look l, _ => [.check l]
  | cat a b, i => a.emit i ++ b.emit (i + a.size)
  | alt a b, i =>
    let other := i + a.size + 2
    .split (i + 1) other :: a.emit (i + 1) ++ .jump (other + b.size) :: b.emit other
  | group k a, i => .save (2 * k) :: a.emit (i + 1) ++ [.save (2 * k + 1)]
  | repeated greedy least (some most) a, i =>
    let first := i + least * a.size
    let past := first + (most - least) * (a.size + 1)
    ((List.range least).flatMap fun n => a.emit (i + n * a.size)) ++
      (List.range (most - least)).flatMap fun n =>
        let i := first + n * (a.size + 1)
        choose greedy (i + 1) past :: a.emit (i + 1)
  | repeated greedy 0 none a, i =>
    let past := i + a.size + 2
    if a.isNullable then
      choose greedy (i + 1) past :: a.emit (i + 1) ++ [choose greedy (i + 1) past]
    else choose greedy (i + 1) past :: a.emit (i + 1) ++ [.jump i]
  | repeated greedy (least + 1) none a, i =>
    let last := i + least * a.size
    ((List.range (least + 1)).flatMap fun n => a.emit (i + n * a.size)) ++
      [choose greedy last (last + a.size + 1)]

end Node

def weightLimit : Nat := 320000

def Node.program (a : Node) : Array Instruction :=
  ((group 0 a).emit 0 ++ [Instruction.accept]).toArray

end ModalEdit.Pattern

namespace ModalEdit

structure Pattern where
  program : Array Pattern.Instruction
  names : List (Text × Nat) := []

end ModalEdit
