import ModalEdit.Text.Table
import ModalEdit.Text.Trim

namespace ModalEdit

abbrev Files := Table Text

namespace Files

def components (path : Text) : List Text :=
  (path.splitOnP (· == '/')).filter fun c => !c.isEmpty && c != ['.']

def isDirectory (files : Files) (path : Text) : Bool :=
  files.keys.any (Text.startsWith · (path ++ ['/']))

def follow (above : List Text) (c : Text) : List Text :=
  if c = ['.', '.'] then
    match above with
    | [] => [c]
    | d :: ds => if d = c then c :: d :: ds else ds
  else c :: above

def clean (path : Text) : Text :=
  let joined := List.intercalate ['/'] (((components path).foldl follow []).reverse)
  if path.head? = some '/' then '/' :: joined else joined

def fileName? (path : Text) : Option Text :=
  (components path).getLast?.bind fun c => if c = ['.', '.'] then none else some c

def canWrite (files : Files) (path : Text) : Bool :=
  let above := List.intercalate ['/'] (components path).dropLast
  !path.isEmpty && !isDirectory files path && (above.isEmpty || isDirectory files above)

end Files

end ModalEdit
