import ModalEdit.Pattern.Escape

namespace ModalEdit.Pattern

structure OpenClass where
  outer : CharSet := .none
  negated : Bool := false
  pending : Option ((CharSet → CharSet → CharSet) × CharSet) := none

namespace OpenClass

def operate (k : OpenClass) (f : Flags) (items : CharSet) : CharSet :=
  match k.pending with
  | some (op, left) => op (f.foldCase left) (f.foldCase items)
  | none => items

def close? (k : OpenClass) (f : Flags) (items : CharSet) : Option CharSet :=
  f.admit? ((f.foldCase (k.operate f items)).complIf k.negated)

end OpenClass

namespace Bracket

def hyphens (items : CharSet) : Text → CharSet × Text
  | '-' :: t => hyphens (items.union (.single '-')) t
  | t => (items, t)

def opening (f : Flags) (outer : CharSet) (t : Text) : OpenClass × CharSet × Text :=
  let (negated, t) := match f.skip t with
    | '^' :: t => (true, f.skip t)
    | t => (false, t)
  let k : OpenClass := { outer, negated }
  match t with
  | ']' :: t => (k, .single ']', f.skip t)
  | _ => (k, hyphens .none t)

def named? (t : Text) : Option (CharSet × Text) := do
  let ':' :: t := t | none
  let (negated, t) := match t with
    | '^' :: t => (true, t)
    | t => (false, t)
  let name := t.takeWhile (· != ':')
  let ':' :: ']' :: rest := t.drop name.length | none
  let s ← CharSet.posix? (String.ofList name)
  pure (s.complIf negated, rest)

def atom? (f : Flags) : Text → Option (Atom × Text)
  | [] => none
  | c :: t => if c = '\\' then Atom.escaped? f t else some (.literal c false, t)

def literal? (f : Flags) : Atom → Option Char
  | .literal c byte => if f.ascii && !byte && c.toNat ≥ 128 then none else some c
  | _ => none

def item? (f : Flags) (t : Text) : Option (CharSet × Text) := do
  let (a, t) ← atom? f t
  let t := f.skip t
  let lone : Option (CharSet × Text) :=
    match a with
    | .set s => some (s, t)
    | a => (literal? f a).map (.single ·, t)
  match t with
  | [] => none
  | '-' :: rest =>
    match f.skip rest with
    | ']' :: _ | '-' :: _ => lone
    | rest =>
      let (b, rest) ← atom? f rest
      let lo ← literal? f a
      let hi ← literal? f b
      if lo ≤ hi then pure (.range lo hi, rest) else none
  | _ => lone

def read? (f : Flags) (stack : List OpenClass) (top : OpenClass) (items : CharSet) (t : Text) :
    Option (CharSet × Text) :=
  let goOn (stack : List OpenClass) (top : OpenClass) (items : CharSet) (rest : Text) :=
    if rest.length < t.length then read? f stack top items rest else none
  let operation (op : CharSet → CharSet → CharSet) (rest : Text) :=
    goOn stack { top with pending := some (op, top.operate f items) } .none rest
  match f.skip t with
  | [] => none
  | '[' :: rest =>
    match named? rest with
    | some (s, rest) => goOn stack top (items.union s) rest
    | none =>
      let (k, inner, rest) := opening f items rest
      goOn (top :: stack) k inner rest
  | ']' :: rest => do
    let s ← top.close? f items
    match stack with
    | [] => pure (s, rest)
    | below :: stack => goOn stack below (top.outer.union s) rest
  | '&' :: '&' :: rest => operation .inter rest
  | '-' :: '-' :: rest => operation .diff rest
  | '~' :: '~' :: rest => operation .symmDiff rest
  | rest => do
    let (s, rest) ← item? f rest
    goOn stack top (items.union s) rest
termination_by t.length

end Bracket

end ModalEdit.Pattern
