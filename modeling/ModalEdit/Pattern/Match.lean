import Std.Data.TreeSet
import ModalEdit.Pattern.Program

/-! Matches: the leftmost one, where of the matches that begin there the program's preference
decides, and all matches of a text from the left. -/

namespace ModalEdit.Pattern

structure Place where
  before : Text
  after : Text
  byte : Nat

def Place.ofByte (t : Text) (n : Nat) : Place :=
  let before := t.takeBytes n
  ⟨before.reverse, t.dropBytes n, before.byteLength⟩

structure Thread where
  instruction : Nat
  place : Place
  saved : List (Nat × Nat)

abbrev Visited := Std.TreeSet Nat

namespace Thread

def next (i : Instruction) (t : Thread) : List Thread ⊕ List (Nat × Nat) :=
  let goOn (t : Thread) : Thread := { t with instruction := t.instruction + 1 }
  match i with
  | .take s =>
    match t.place.after with
    | c :: after =>
      if s.contains c then
        .inl [goOn { t with place := ⟨c :: t.place.before, after, t.place.byte + c.utf8Size⟩ }]
      else .inl []
    | [] => .inl []
  | .check l => .inl (if l.holds t.place.before.head? t.place.after.head? then [goOn t] else [])
  | .save k => .inl [goOn { t with saved := (k, t.place.byte) :: t.saved }]
  | .jump j => .inl [{ t with instruction := j }]
  | .split j k => .inl [{ t with instruction := j }, { t with instruction := k }]
  | .accept => .inr t.saved

/-- Runs threads depth first. An instruction that was tried at a place fails there again, so each
pair is tried once. -/
def run (p : Array Instruction) : (fuel : Nat) → List Thread → Visited → Option (List (Nat × Nat)) × Visited
  | fuel + 1, t :: ts, visited =>
    let key := t.place.byte * p.size + t.instruction
    if visited.contains key then run p fuel ts visited
    else match p[t.instruction]? with
      | none => run p fuel ts (visited.insert key)
      | some i =>
        match t.next i with
        | .inl us => run p fuel (us ++ ts) (visited.insert key)
        | .inr saved => (some saved, visited)
  | _, _, visited => (none, visited)

end Thread

structure Match where
  start : Nat
  stop : Nat
  saved : List (Nat × Nat)

namespace Match

def ofSaved (saved : List (Nat × Nat)) : Match :=
  ⟨(saved.lookup 0).getD 0, (saved.lookup 1).getD 0, saved⟩

def span? (m : Match) (group : Nat) : Option (Nat × Nat) := do
  pure (← m.saved.lookup (2 * group), ← m.saved.lookup (2 * group + 1))

def text (m : Match) (t : Text) (group : Nat) : Text :=
  ((m.span? group).map fun (first, last) => t.sliceBytes first last).getD []

end Match

def searchFrom (p : Array Instruction) (fuel : Nat) (visited : Visited) (before : Text) (byte : Nat) :
    Text → Option Match
  | [] => (Thread.run p fuel [⟨0, ⟨before, [], byte⟩, []⟩] visited).1.map .ofSaved
  | c :: after =>
    match Thread.run p fuel [⟨0, ⟨before, c :: after, byte⟩, []⟩] visited with
    | (some saved, _) => some (.ofSaved saved)
    | (none, visited) => searchFrom p fuel visited (c :: before) (byte + c.utf8Size) after

def findAt? (p : Pattern) (place : Place) : Option Match :=
  searchFrom p.program (2 * p.program.size * (place.after.length + 1) + 2) {} place.before
    place.byte place.after

def find? (p : Pattern) (t : Text) (byte : Nat) : Option Match := p.findAt? (.ofByte t byte)

def findAllFrom (p : Pattern) (t : Text) : (fuel : Nat) → (byte : Nat) → (last : Option Nat) →
    List Match
  | 0, _, _ => []
  | fuel + 1, byte, last =>
    let place := Place.ofByte t byte
    let found := (p.findAt? place).bind fun m =>
      if m.start = m.stop ∧ some m.stop = last then
        match place.after with
        | c :: after => p.findAt? ⟨c :: place.before, after, place.byte + c.utf8Size⟩
        | [] => none
      else some m
    match found with
    | some m => m :: p.findAllFrom t fuel m.stop (some m.stop)
    | none => []

def findAll (p : Pattern) (t : Text) : List Match :=
  p.findAllFrom t (t.byteLength + 2) 0 none

end ModalEdit.Pattern
