import ModalEdit.Toml.Value

/-! Writing keys and strings. A string is written in the plainest form that shows it as it is; only
when none does are characters escaped. -/

namespace ModalEdit.Toml

structure Shape where
  controls : Bool
  backslash : Bool
  newline : Bool
  quotes : Nat
  apostrophes : Nat
  deriving DecidableEq, Repr

def longestRun (c : Char) (n : Nat) : Text → Nat
  | [] => n
  | d :: t => if d = c then longestRun c (n + 1) t else max n (longestRun c 0 t)

def isEscapedControl (c : Char) : Bool :=
  (c.toNat < 32 && c != '\t' && c != '\n') || c.toNat == 127

def Shape.of (t : Text) : Shape where
  controls := t.any isEscapedControl
  backslash := t.contains '\\'
  newline := t.contains '\n'
  quotes := longestRun '"' 0 t
  apostrophes := longestRun '\'' 0 t

inductive Form where
  | basic | literal | longBasic | longLiteral
  deriving DecidableEq, Repr

def Shape.form (s : Shape) : Form :=
  if !s.controls && !s.backslash && s.quotes == 0 && !s.newline then .basic
  else if !s.controls && s.apostrophes == 0 && !s.newline then .literal
  else if !s.controls && !s.backslash && s.quotes ≤ 2 then .longBasic
  else if !s.controls && s.apostrophes ≤ 2 then .longLiteral
  else if s.newline then .longBasic
  else .basic

def hexUpper (n : Nat) : Text :=
  let ds := (Nat.toDigits 16 n).map Char.toUpper
  List.replicate (4 - ds.length) '0' ++ ds

def escapeBasic (c : Char) : Text :=
  match c with
  | '\x08' => ['\\', 'b']
  | '\t' => ['\\', 't']
  | '\x0c' => ['\\', 'f']
  | '\r' => ['\\', 'r']
  | '\\' => ['\\', '\\']
  | _ => if isEscapedControl c then '\\' :: 'u' :: hexUpper c.toNat else [c]

def basicBody : Text → Text
  | [] => []
  | c :: t =>
    (if c = '"' then ['\\', '"'] else if c = '\n' then ['\\', 'n'] else escapeBasic c) ++
      basicBody t

def longBasicBody (run : Nat) : Text → Text
  | [] => []
  | c :: t =>
    if c = '"' then
      if run < 2 then '"' :: longBasicBody (run + 1) t else '\\' :: '"' :: longBasicBody 0 t
    else (if c = '\n' then ['\n'] else escapeBasic c) ++ longBasicBody 0 t

def writeString (t : Text) : Text :=
  let s := Shape.of t
  let lead : Text := if s.newline then ['\n'] else []
  match s.form with
  | .basic => '"' :: basicBody t ++ ['"']
  | .literal => '\'' :: t ++ ['\'']
  | .longBasic => ['"', '"', '"'] ++ lead ++ longBasicBody 0 t ++ ['"', '"', '"']
  | .longLiteral => ['\'', '\'', '\''] ++ lead ++ t ++ ['\'', '\'', '\'']

def isBareKey (t : Text) : Bool :=
  !t.isEmpty && t.all fun c => c.isAlphanum || c == '_' || c == '-'

def writeKey (t : Text) : Text :=
  if isBareKey t then t
  else
    let s := Shape.of t
    if s.form = .literal then '\'' :: t ++ ['\''] else '"' :: basicBody t ++ ['"']

end ModalEdit.Toml
