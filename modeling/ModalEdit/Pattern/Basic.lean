import ModalEdit.Pattern.CharSet

namespace ModalEdit.Pattern

inductive Look where
  | textStart | textEnd
  | lineStart (crlf : Bool) | lineEnd (crlf : Bool)
  | wordBoundary (ascii : Bool) | notWordBoundary (ascii : Bool)
  | wordStart (ascii : Bool) | wordEnd (ascii : Bool)
  | wordStartHalf (ascii : Bool) | wordEndHalf (ascii : Bool)
  deriving DecidableEq, Repr

def Look.holds (l : Look) (before after : Option Char) : Bool :=
  let word (ascii : Bool) (c : Option Char) : Bool :=
    c.any fun c => if ascii then CharSet.isAsciiWord c else CharSet.isWord c
  match l with
  | textStart => before.isNone
  | textEnd => after.isNone
  | lineStart false => before.all (· == '\n')
  | lineEnd false => after.all (· == '\n')
  | lineStart true => before.all fun c => c == '\n' || c == '\r' && after != some '\n'
  | lineEnd true => after.all fun c => c == '\r' || c == '\n' && before != some '\r'
  | wordBoundary a => word a before != word a after
  | notWordBoundary a => word a before == word a after
  | wordStart a => !word a before && word a after
  | wordEnd a => word a before && !word a after
  | wordStartHalf a => !word a before
  | wordEndHalf a => !word a after

inductive Node where
  | empty
  | set (s : CharSet)
  | look (l : Look)
  | cat (a b : Node)
  | alt (a b : Node)
  | group (index : Nat) (a : Node)
  | repeated (greedy : Bool) (least : Nat) (most : Option Nat) (a : Node)

namespace Node

def isNullable : Node → Bool
  | empty | look _ => true
  | set _ => false
  | cat a b => a.isNullable && b.isNullable
  | alt a b => a.isNullable || b.isNullable
  | group _ a => a.isNullable
  | repeated _ least _ a => least == 0 || a.isNullable

def ofList : List Node → Node
  | [] => empty
  | [a] => a
  | a :: as => cat a (ofList as)

def ofBranches : List Node → Node
  | [] => empty
  | [a] => a
  | a :: as => alt a (ofBranches as)

end Node

end ModalEdit.Pattern
