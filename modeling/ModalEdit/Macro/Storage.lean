import ModalEdit.Files
import ModalEdit.Macro.Document

namespace ModalEdit.Macro.Registry

inductive LoadError where
  | unreadable
  | document (e : Error)
  deriving DecidableEq, Repr

def load (files : Files) (path : Text) : Except LoadError Registry :=
  match files.get? path with
  | some t =>
    match read t with
    | .ok r => .ok { r with path := some path }
    | .error e => .error (.document e)
  | none =>
    if files.isDirectory path then .error .unreadable else .ok { path := some path }

def save (files : Files) (r : Registry) : Files × Registry × Bool :=
  match r.path with
  | some path =>
    if r.modified then (files.insert path r.write, { r with modified := false }, true)
    else (files, r, false)
  | none => (files, r, false)

end ModalEdit.Macro.Registry
