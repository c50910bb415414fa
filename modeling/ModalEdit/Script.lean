import ModalEdit.Engine.Playback
import ModalEdit.Text.Trim

/-! Scripts: keys written with names in angle brackets, and lists of commands. -/

namespace ModalEdit.Script

open Text

def keyNamed? (name : Text) : Option Char :=
  match String.ofList (name.map Char.toLower) with
  | "esc" => some escapeKey
  | "cr" | "enter" | "return" => some '\r'
  | "bs" | "backspace" => some backspaceKey
  | "del" => some deleteKey
  | "c-v" => some blockKey
  | "tab" => some '\t'
  | "space" => some ' '
  | "lt" => some '<'
  | _ => none

def keyOf (name : Text) : Text :=
  match keyNamed? name with
  | some c => [c]
  | none => '<' :: name ++ ['>']

def decodeKeys : Text → Text
  | [] => []
  | c :: t =>
    if c = '<' then
      match h : t.dropWhile (· != '>') with
      | _ :: rest =>
        have := length_of_dropWhile_eq_cons h c
        keyOf (t.takeWhile (· != '>')) ++ decodeKeys rest
      | [] => '<' :: t
    else c :: decodeKeys t
termination_by t => t.length
decreasing_by
  · assumption
  · exact Nat.lt_succ_self _

def commandsOf (content : Text) : List Text :=
  ((fileLines content).map trimEnd).filter fun l => !l.isEmpty && l.head? != some '#'

structure Report where
  commands : Nat := 0
  failed : Nat := 0
  deriving DecidableEq, Repr

def runOne (h : Host) (acc : Engine × Report) (entry : Text) : Engine × Report :=
  let (e, handled) := acc.1.command h (decodeKeys entry)
  (e, ⟨acc.2.commands + 1, acc.2.failed + if handled then 0 else 1⟩)

def run (h : Host) (e : Engine) (entries : List Text) : Engine × Report :=
  let (e, report) := entries.foldl (runOne h) (e, {})
  (e.escape.1, report)

end ModalEdit.Script
