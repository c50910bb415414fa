import ModalEdit.Line.Address
import ModalEdit.Text.Trim

namespace ModalEdit

inductive LineCommand where
  | goTo (a : Address)
  | delete (r : LineRange)
  | yank (r : LineRange)
  | substitute (r : LineRange) (pattern replacement : Text) (all : Bool)
  | edit (name : Text)
  | setOption (option : Text)
  | registers
  | macros
  | unknown (t : Text)
  deriving DecidableEq, Repr

namespace LineCommand

def substitute? (r : LineRange) : Text → Option LineCommand
  | [] => none
  | d :: t =>
    if Unicode.isAlphanumeric d || Unicode.isWhitespace d then none
    else
      let (pattern, t) := Text.splitAtFirst d t
      let (replacement, t) := Text.splitAtFirst d (t.getD [])
      some (substitute r pattern replacement ((t.getD []).contains 'g'))

def named? (r : LineRange) (name argument : Text) : Option LineCommand :=
  match String.ofList name with
  | "d" | "delete" => some (delete r)
  | "y" | "yank" => some (yank r)
  | "e" | "edit" => if argument.isEmpty then none else some (edit argument)
  | "set" | "se" => if argument.isEmpty then none else some (setOption argument)
  | "reg" | "registers" | "display" => some registers
  | "macros" => some macros
  | _ => none

def substituteBody? (t : Text) : Option Text :=
  (t.after? "substitute".toList).or (t.after? ['s'])

def ofBody (r : LineRange) (body rest : Text) : LineCommand :=
  if rest.isEmpty then
    match r.stop.or r.start with
    | some a => goTo a
    | none => unknown body
  else
    let name := rest.takeWhile (!Unicode.isWhitespace ·)
    let argument := Text.trim (rest.drop name.length)
    match named? r name argument with
    | some c => c
    | none => ((substituteBody? rest).bind (substitute? r)).getD (unknown rest)

def parse (t : Text) : LineCommand :=
  let body := Text.trimStart (t.trim.dropWhile (· == ':'))
  let (r, rest) := LineRange.take body
  ofBody r body (Text.trim rest)

end LineCommand

end ModalEdit
