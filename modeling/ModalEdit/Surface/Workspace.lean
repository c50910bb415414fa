import ModalEdit.Surface.Basic
import ModalEdit.Text.Table

namespace ModalEdit

structure Workspace where
  surfaces : Table Surface := {}
  active : Option Text := none
  fresh : Nat := 0

namespace Workspace

def get? (w : Workspace) (name : Text) : Option Surface := w.surfaces.get? name

def active? (w : Workspace) : Option Surface := w.active.bind w.get?

def names (w : Workspace) : List Text := w.surfaces.keys

def insert (w : Workspace) (name text : Text) : Workspace where
  surfaces := w.surfaces.insert name { serial := w.fresh, name, text }
  active := some (w.active.getD name)
  fresh := w.fresh + 1

def activate (w : Workspace) (name : Text) : Workspace :=
  let w := if w.surfaces.contains name then w else w.insert name []
  { w with active := some name }

def update (w : Workspace) (name : Text) (s : Surface) : Workspace :=
  { w with surfaces := w.surfaces.insert name s }

end Workspace

end ModalEdit
