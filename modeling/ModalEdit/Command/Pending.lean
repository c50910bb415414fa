import ModalEdit.Text.Basic

namespace ModalEdit

inductive CommandKind where
  | none
  | line
  | calculation
  | shell
  | search
  | keys
  deriving DecidableEq, Repr

namespace CommandKind

def ofText : Text → CommandKind
  | [] => .none
  | ':' :: _ => .line
  | '=' :: _ => .calculation
  | '!' :: _ => .shell
  | '/' :: _ | '?' :: _ => .search
  | _ :: _ => .keys

def isLine : CommandKind → Bool
  | .line | .calculation | .shell | .search => true
  | .none | .keys => false

end CommandKind

structure Pending where
  text : Text := []
  surface : Option Text := none
  deriving DecidableEq, Repr

namespace Pending

def kind (p : Pending) : CommandKind := .ofText p.text

def set (p : Pending) (t : Text) : Pending := { p with text := t }

def append (p : Pending) (t : Text) : Pending := { p with text := p.text ++ t }

def clear (p : Pending) : Pending := { p with text := [] }

def bind (p : Pending) (s : Option Text) : Pending := { p with surface := s }

def pop (p : Pending) : Pending := { p with text := p.text.dropLast }

def run? (p : Pending) (f : Text → CommandKind → α) : Option α := p.surface.map fun _ => f p.text p.kind

end Pending

end ModalEdit
