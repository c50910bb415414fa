import ModalEdit.Text.Basic
import ModalEdit.Unicode.Letter

namespace ModalEdit.Text

def trimStart (t : Text) : Text := t.dropWhile Unicode.isWhitespace

def trimEnd (t : Text) : Text := (trimStart t.reverse).reverse

def trim (t : Text) : Text := trimEnd (trimStart t)

def after? (t s : Text) : Option Text :=
  if t.startsWith s then some (t.drop s.length) else none

def splitAtFirst (d : Char) : Text → Text × Option Text
  | [] => ([], none)
  | c :: t =>
    if c = d then ([], some t)
    else (c :: (splitAtFirst d t).1, (splitAtFirst d t).2)

def fileLines : Text → List Text
  | [] => []
  | '\n' :: t => [] :: fileLines t
  | '\r' :: '\n' :: t => [] :: fileLines t
  | c :: t =>
    match fileLines t with
    | [] => [[c]]
    | l :: ls => (c :: l) :: ls

end ModalEdit.Text
