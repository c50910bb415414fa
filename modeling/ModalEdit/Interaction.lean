import ModalEdit.Text.Basic
import ModalEdit.Command.Prefix

namespace ModalEdit

inductive Notice where
  | status (pane text : Text)
  | askedText (title suggestion : Text)
  | askedChoice (title : Text) (choices : List Text)
  | ran (command : Text)
  deriving DecidableEq, Repr

inductive Dialog where
  | silent
  | scripted (answers : List (Option Text))
  | terminal (input : List Text)
  deriving DecidableEq, Repr

namespace Dialog

def readLine : List Text → List Text × Option Text
  | [] => ([], none)
  | l :: ls => (ls, if l.isEmpty then none else some l)

def number? (t : Text) : Option Nat :=
  let ds := match t with
    | '+' :: ds => ds
    | ds => ds
  if !ds.isEmpty && ds.all Char.isDigit then some (decimal ds) else none

def pick? (choices : List Text) (answer : Text) : Option Text :=
  match (number? answer).bind fun n => if n = 0 then none else choices[n - 1]? with
  | some c => some c
  | none => if answer ∈ choices then some answer else none

def answerText (d : Dialog) (suggestion : Text) : Dialog × Option Text :=
  match d with
  | silent => (silent, none)
  | scripted [] => (scripted [], none)
  | scripted (a :: as) => (scripted as, a)
  | terminal input =>
    let (rest, a) := readLine input
    (terminal rest, a.or (if suggestion.isEmpty then none else some suggestion))

def answerChoice (d : Dialog) (choices : List Text) : Dialog × Option Text :=
  match d with
  | silent => (silent, none)
  | scripted [] => (scripted [], none)
  | scripted (a :: as) => (scripted as, a)
  | terminal input =>
    let (rest, a) := readLine input
    (terminal rest, a.bind (pick? choices))

end Dialog

structure Interaction where
  dialog : Dialog := .silent
  notices : List Notice := []
  deriving DecidableEq, Repr

namespace Interaction

def note (i : Interaction) (n : Notice) : Interaction := { i with notices := n :: i.notices }

def say (i : Interaction) (pane text : Text) : Interaction := i.note (.status pane text)

def noteAsked (i : Interaction) (n : Notice) : Interaction :=
  match i.dialog with
  | .silent => i
  | _ => i.note n

def askText (i : Interaction) (title suggestion : Text) : Interaction × Option Text :=
  let (dialog, answer) := i.dialog.answerText suggestion
  ({ i.noteAsked (.askedText title suggestion) with dialog }, answer)

def askChoice (i : Interaction) (title : Text) (choices : List Text) : Interaction × Option Text :=
  let (dialog, answer) := i.dialog.answerChoice choices
  ({ i.noteAsked (.askedChoice title choices) with dialog }, answer)

end Interaction

end ModalEdit
