import ModalEdit.Toml.Scalar

/-! Reading a document token by token. The state holds the tables so far, the place of the current
one, the containers that are open on the line, and what may come next. -/

namespace ModalEdit.Toml

inductive Frame where
  | line (key : List Text)
  | array (items : List Value)
  | braces (entries : Entries) (key : List Text)
  deriving Repr

inductive Phase where
  | lineStart
  | lineEnd
  | header
  | headerKey (double : Bool) (path : List Text)
  | headerAfterKey (double : Bool) (path : List Text)
  | headerClose (path : List Text)
  | key (path : List Text)
  | afterKey (path : List Text)
  | value
  | item
  | braceKey
  | scalar (t : Text)
  | afterValue
  deriving Repr

structure State where
  root : Entries := []
  current : List Text := []
  stack : List Frame := []
  phase : Phase := .lineStart
  deriving Repr

namespace State

def isKeyChar (c : Char) : Bool := c.isAlphanum || c == '_' || c == '-'

def keyOf? : Lexeme → Option Text
  | .atom t => if t.all isKeyChar then some t else none
  | .string t false => some t
  | _ => none

def complete (s : State) (v : Value) : Option State :=
  match s.stack with
  | [] => none
  | .line key :: _ =>
    (s.root.modify? (·.insertDotted? key v) s.current).map fun root =>
      { s with root, stack := [], phase := .lineEnd }
  | .array items :: fs =>
    some { s with stack := .array (items ++ [v]) :: fs, phase := .afterValue }
  | .braces entries key :: fs =>
    (entries.insertDotted? key v).map fun entries =>
      { s with stack := .braces entries [] :: fs, phase := .afterValue }

def close (s : State) (l : Lexeme) : Option State :=
  match s.stack, l with
  | .array items :: fs, .closeBracket => complete { s with stack := fs } (.array false items)
  | .braces entries _ :: fs, .closeBrace => complete { s with stack := fs } (.table .inline entries)
  | _, _ => none

def onValue (s : State) : Lexeme → Option State
  | .string t _ => s.complete (.text t)
  | .atom t => some { s with phase := .scalar t }
  | .openBracket => some { s with stack := .array [] :: s.stack, phase := .item }
  | .openBrace => some { s with stack := .braces [] [] :: s.stack, phase := .braceKey }
  | _ => none

def onAfterValue (s : State) (l : Lexeme) : Option State :=
  match s.stack, l with
  | _ :: _, .newline => some s
  | .array _ :: _, .comma => some { s with phase := .item }
  | .braces .. :: _, .comma => some { s with phase := .braceKey }
  | _, l => s.close l

def onLineEnd (s : State) : Lexeme → Option State
  | .newline => some { s with phase := .lineStart }
  | _ => none

def onFollow (s : State) (l : Lexeme) : Option State :=
  match s.phase with
  | .lineEnd => s.onLineEnd l
  | _ => s.onAfterValue l

def startKey (s : State) (l : Lexeme) : Option State :=
  (keyOf? l).map fun k => { s with phase := .afterKey [k] }

def bindKey (s : State) (path : List Text) : State :=
  match s.stack with
  | .braces entries _ :: fs => { s with stack := .braces entries path :: fs, phase := .value }
  | fs => { s with stack := .line path :: fs, phase := .value }

def openHeader (s : State) (double : Bool) (path : List Text) : Option State :=
  (if double then s.root.openElement? path else s.root.openTable? path).map fun root =>
    { s with root, current := path, phase := .lineEnd }

def extendScalar? (t : Text) (k : Token) : Option Text :=
  match k.gap, k.lexeme with
  | [], .dot => some (t ++ ['.'])
  | [], .atom u => some (t ++ u)
  | [' '], .atom u =>
    if isDate t && (u.head?.map Char.isDigit).getD false then some (t ++ ' ' :: u) else none
  | _, _ => none

def step (s : State) (k : Token) : Option State :=
  match s.phase, k.lexeme with
  | .lineStart, .newline => some s
  | .lineStart, .openBracket => some { s with phase := .header }
  | .lineStart, l => s.startKey l
  | .lineEnd, l => s.onLineEnd l
  | .header, .openBracket =>
    if k.gap.isEmpty then some { s with phase := .headerKey true [] } else none
  | .header, l => (keyOf? l).map fun key => { s with phase := .headerAfterKey false [key] }
  | .headerKey double path, l =>
    (keyOf? l).map fun key => { s with phase := .headerAfterKey double (path ++ [key]) }
  | .headerAfterKey double path, .dot => some { s with phase := .headerKey double path }
  | .headerAfterKey double path, .closeBracket =>
    if double then some { s with phase := .headerClose path } else s.openHeader false path
  | .headerClose path, .closeBracket => if k.gap.isEmpty then s.openHeader true path else none
  | .key path, l => (keyOf? l).map fun key => { s with phase := .afterKey (path ++ [key]) }
  | .afterKey path, .dot => some { s with phase := .key path }
  | .afterKey path, .equals => some (s.bindKey path)
  | .value, l => s.onValue l
  | .item, .newline => some s
  | .item, .closeBracket => s.close .closeBracket
  | .item, l => s.onValue l
  | .braceKey, .newline => some s
  | .braceKey, .closeBrace => s.close .closeBrace
  | .braceKey, l => s.startKey l
  | .scalar t, l =>
    match extendScalar? t k with
    | some t => some { s with phase := .scalar t }
    | none => ((scalar? t).bind s.complete).bind (·.onFollow l)
  | .afterValue, l => s.onAfterValue l
  | _, _ => none

def finish (s : State) : Option Entries :=
  match s.phase with
  | .lineStart | .lineEnd => some s.root
  | .scalar t =>
    match (scalar? t).bind s.complete with
    | some s => if s.stack.isEmpty then some s.root else none
    | none => none
  | _ => none

end State

def read? (t : Text) : Option Entries := do
  let ts ← tokens t
  let s ← ts.foldlM State.step ({} : State)
  s.finish

end ModalEdit.Toml
