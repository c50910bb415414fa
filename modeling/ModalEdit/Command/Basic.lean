import ModalEdit.Command.Prefix
import ModalEdit.Edit
import ModalEdit.Mode
import ModalEdit.Motion.Basic

namespace ModalEdit

inductive Operator where
  | delete | yank | change | shift (d : Surface.Direction)
  deriving DecidableEq, Repr

inductive Simple where
  | deleteForward | deleteBackward | deleteToEnd | changeToEnd | yankLines
  | paste (side : Surface.Side) | joinLines | toggleCase
  deriving DecidableEq, Repr

inductive Insertion where
  | append | appendAtEnd | insert | insertAtStart | openBelow | openAbove
  | overwrite | substituteChars | substituteLine
  deriving DecidableEq, Repr

inductive VisualAction where
  | yank | yankLines | delete | deleteLines | shift (d : Surface.Direction) | join
  | changeCase (case : Case) | insertLeft | appendRight | change | changeLines
  deriving DecidableEq, Repr

inductive Command where
  | move (motion : Motion) (count : Nat) (explicit : Bool)
  | operate (op : Operator) (motion : Motion) (count : Nat) (explicit : Bool)
      (register : Option Char)
  | operateLines (op : Operator) (count : Nat) (register : Option Char)
  | simple (s : Simple) (count : Nat) (register : Option Char)
  | replace (c : Char) (count : Nat)
  | insert (i : Insertion) (count : Nat)
  | visual (kind : VisualKind)
  | visualAction (a : VisualAction) (register : Option Char) (count : Nat)
  | escape
  deriving DecidableEq, Repr

def Motion.ofKey? : Char → Option Motion
  | 'h' => some .left
  | 'j' => some .down
  | 'k' => some .up
  | 'l' | ' ' => some .right
  | '0' => some .lineStart
  | '^' => some .firstNonBlank
  | '$' => some .lineEnd
  | 'w' => some .wordForward
  | 'b' => some .wordBackward
  | 'e' => some .wordEnd
  | 'G' => some .gotoLine
  | _ => none

def Operator.ofKey? : Char → Option Operator
  | 'd' => some .delete
  | 'y' => some .yank
  | 'c' => some .change
  | '>' => some (.shift .right)
  | '<' => some (.shift .left)
  | _ => none

def Simple.ofKey? : Char → Option Simple
  | 'x' => some .deleteForward
  | 'X' => some .deleteBackward
  | 'D' => some .deleteToEnd
  | 'C' => some .changeToEnd
  | 'Y' => some .yankLines
  | 'p' => some (.paste .after)
  | 'P' => some (.paste .before)
  | 'J' => some .joinLines
  | '~' => some .toggleCase
  | _ => none

def Insertion.ofKey? : Char → Option Insertion
  | 'a' => some .append
  | 'A' => some .appendAtEnd
  | 'i' => some .insert
  | 'I' => some .insertAtStart
  | 'o' => some .openBelow
  | 'O' => some .openAbove
  | 'R' => some .overwrite
  | 's' => some .substituteChars
  | 'S' => some .substituteLine
  | _ => none

def VisualAction.ofKey? : Char → Option VisualAction
  | 'y' => some .yank
  | 'Y' => some .yankLines
  | 'd' | 'x' => some .delete
  | 'D' | 'X' => some .deleteLines
  | '>' => some (.shift .right)
  | '<' => some (.shift .left)
  | 'J' => some .join
  | '~' => some (.changeCase .toggle)
  | 'u' => some (.changeCase .lower)
  | 'U' => some (.changeCase .upper)
  | 'I' => some .insertLeft
  | 'A' => some .appendRight
  | 'c' | 's' => some .change
  | 'C' | 'S' | 'R' => some .changeLines
  | _ => none

end ModalEdit
