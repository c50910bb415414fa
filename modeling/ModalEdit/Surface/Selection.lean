import ModalEdit.Text.Basic

namespace ModalEdit

inductive SelectionKind where
  | characterwise | linewise | blockwise
  deriving DecidableEq, Repr

structure Selection where
  anchor : Position
  head : Position
  kind : SelectionKind
  deriving DecidableEq, Repr

namespace Selection

def start (s : Selection) : Position := s.anchor.first s.head

def stop (s : Selection) : Position := s.anchor.last s.head

end Selection

end ModalEdit
