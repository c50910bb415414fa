import ModalEdit.Command.Basic

/-! Reading a command that is typed key by key:

    ["r] [count] (motion | operator [count] (motion | operator) | key | r char)
-/

namespace ModalEdit

inductive Parse (α : Type) where
  | complete (a : α)
  | incomplete
  | invalid
  deriving DecidableEq, Repr

namespace Parse

def map (f : α → β) : Parse α → Parse β
  | complete a => complete (f a)
  | incomplete => incomplete
  | invalid => invalid

def ofKey (rest : Text) (a : α) : Parse α := if rest.isEmpty then complete a else invalid

end Parse

def Motion.parse? (c : Char) (rest : Text) : Option (Parse Motion) :=
  if c = 'g' then
    match rest with
    | [] => some .incomplete
    | ['g'] => some (.complete .firstLine)
    | _ => some .invalid
  else (Motion.ofKey? c).map (.ofKey rest)

namespace Command

def parseOperator (op : Operator) (key : Char) (p : Prefix) (rest : Text) : Parse Command :=
  let (post, rest) := Prefix.takeCount rest
  let count := min (saturate (p.countOrOne * post.getD 1)) countCap
  let explicit := p.count.isSome || post.isSome
  match rest with
  | [] => .incomplete
  | c :: rest =>
    if c = key then .ofKey rest (.operateLines op count p.register)
    else match Motion.parse? c rest with
      | some m => m.map fun m => .operate op m count explicit p.register
      | none => .invalid

def parseReplace (p : Prefix) : Text → Parse Command
  | [] => .incomplete
  | c :: rest =>
    if c = escapeKey then .complete .escape else .ofKey rest (.replace c p.countOrOne)

def parseVisual (p : Prefix) (c : Char) (rest : Text) : Parse Command :=
  match VisualAction.ofKey? c with
  | some a => .ofKey rest (.visualAction a p.register p.countOrOne)
  | none => .invalid

def parseNormal (p : Prefix) (c : Char) (rest : Text) : Parse Command :=
  match Operator.ofKey? c, Simple.ofKey? c, Insertion.ofKey? c with
  | some op, _, _ => parseOperator op c p rest
  | _, some s, _ => .ofKey rest (.simple s p.countOrOne p.register)
  | _, _, some i => .ofKey rest (.insert i p.countOrOne)
  | none, none, none => if c = 'r' then parseReplace p rest else .invalid

def parseBody (visual : Bool) (p : Prefix) : Text → Parse Command
  | [] => .incomplete
  | c :: rest =>
    if c = escapeKey then .complete .escape
    else match VisualKind.ofKey? c with
      | some k => .ofKey rest (.visual k)
      | none =>
        match Motion.parse? c rest with
        | some m => m.map fun m => .move m p.countOrOne p.count.isSome
        | none => if visual then parseVisual p c rest else parseNormal p c rest

def parse (visual : Bool) (t : Text) : Parse Command :=
  match Prefix.split? t with
  | none => .incomplete
  | some (p, body) => parseBody visual p body

end Command

end ModalEdit
