import ModalEdit.Interaction
import ModalEdit.Macro.Registry

/-! Expansion of variables. A template is replaced piece by piece; references in it may go on to
other templates up to a limit. -/

namespace ModalEdit.Macro

structure Moment where
  year : Nat := 0
  month : Nat := 0
  day : Nat := 0
  hour : Nat := 0
  minute : Nat := 0
  second : Nat := 0
  deriving DecidableEq, Repr

namespace Moment

def padded (width n : Nat) : Text :=
  let ds := Nat.toDigits 10 n
  List.replicate (width - ds.length) '0' ++ ds

def yearText (m : Moment) : Text := padded 4 m.year

def date (m : Moment) : Text :=
  m.yearText ++ '-' :: padded 2 m.month ++ '-' :: padded 2 m.day

def time (m : Moment) : Text :=
  padded 2 m.hour ++ ':' :: padded 2 m.minute ++ ':' :: padded 2 m.second

end Moment

structure Context where
  environment : Text → Option Text := fun _ => none
  now : Moment := {}
  filename : Text := []
  line : Nat := 0

def maxTemplateDepth : Nat := 16

inductive Piece where
  | literal (c : Char)
  | reference (name : Text)
  deriving DecidableEq, Repr

def pieces (known : Text → Bool) : Text → List Piece
  | [] => []
  | c :: t =>
    match h : t.dropWhile (· != '@') with
    | _ :: rest =>
      have := Text.length_of_dropWhile_eq_cons h c
      if c = '@' ∧ known (t.takeWhile (· != '@')) then
        .reference (t.takeWhile (· != '@')) :: pieces known rest
      else .literal c :: pieces known t
    | [] => .literal c :: pieces known t
termination_by t => t.length
decreasing_by
  · assumption
  all_goals exact Nat.lt_succ_self _

abbrev Expansion := Registry × Interaction → Except Error Text × (Registry × Interaction)

def Variable.ask (v : Variable) : Expansion := fun (r, i) =>
  let (i, answer) := i.askText (v.prompt.getD v.name) v.value
  match answer with
  | some t => (.ok t, r, i)
  | none => (.error (.cancelled v.name), r, i)

def Variable.builtinText (x : Context) (name : Text) : Except Error Text :=
  match String.ofList name with
  | "Date" => .ok x.now.date
  | "Time" => .ok x.now.time
  | "Year" => .ok x.now.yearText
  | "Datetime" => .ok (x.now.date ++ ' ' :: x.now.time)
  | "Filename" => .ok x.filename
  | "Line" => .ok (Nat.toDigits 10 (x.line + 1))
  | "Newline" => .ok ['\n']
  | _ => .error (.unknownVariable name)

def Variable.expand (x : Context) (v : Variable) : Expansion := fun s =>
  match v.kind with
  | .builtin => (Variable.builtinText x v.name, s)
  | .environment =>
    (.ok ((x.environment (if v.value.isEmpty then v.name else v.value)).getD []), s)
  | .fixed | .template => (.ok v.value, s)
  | .input => v.ask s
  | .inputOnce =>
    match v.cached with
    | some t => (.ok t, s)
    | none =>
      match v.ask s with
      | (.ok t, r, i) => (.ok t, r.cache v t, i)
      | (.error e, s) => (.error e, s)

def expandPieces (f : Text → Expansion) : List Piece → Expansion
  | [], s => (.ok [], s)
  | .literal c :: ps, s =>
    match expandPieces f ps s with
    | (.ok t, s) => (.ok (c :: t), s)
    | (.error e, s) => (.error e, s)
  | .reference name :: ps, s =>
    match f name s with
    | (.error e, s) => (.error e, s)
    | (.ok t, s) =>
      match expandPieces f ps s with
      | (.ok t', s) => (.ok (t ++ t'), s)
      | (.error e, s) => (.error e, s)

def expandTemplateWith (f : Text → Expansion) (t : Text) : Expansion := fun s =>
  expandPieces f (pieces s.1.isVariable t) s

/-- Expands a variable when `levels` more references may be followed, this one included. -/
def expandWithin (x : Context) : (levels : Nat) → Text → Expansion
  | 0, name => fun s => (.error (.templateDepth name), s)
  | n + 1, name => fun s =>
    match s.1.variableTable.get? name with
    | none => (.error (.unknownVariable name), s)
    | some v =>
      match v.expand x s with
      | (.error e, s) => (.error e, s)
      | (.ok t, s) =>
        if v.kind = .template then expandTemplateWith (expandWithin x n) t s else (.ok t, s)

def expand (x : Context) (name : Text) : Expansion := expandWithin x (maxTemplateDepth + 1) name

def expandTemplate (x : Context) (t : Text) : Expansion :=
  expandTemplateWith (expand x) t

end ModalEdit.Macro
