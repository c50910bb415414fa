import ModalEdit.Unicode.Cluster

namespace ModalEdit.Unicode

def isPrintable (c : Char) : Bool :=
  if c.toNat < 127 then 32 ≤ c.toNat
  else
    let k := Category.ofChar c
    !k.isOther && !k.isSeparator

def escapeCode (c : Char) : List Char :=
  '\\' :: 'u' :: '\x7b' :: Nat.toDigits 16 c.toNat ++ ['\x7d']

structure EscapeStyle where
  single : Bool
  double : Bool
  extend : Bool

def escapeChar (style : EscapeStyle) (c : Char) : List Char :=
  match c with
  | '\x00' => ['\\', '0']
  | '\t' => ['\\', 't']
  | '\r' => ['\\', 'r']
  | '\n' => ['\\', 'n']
  | '\\' => ['\\', '\\']
  | '"' => if style.double then ['\\', '"'] else ['"']
  | '\'' => if style.single then ['\\', '\''] else ['\'']
  | _ =>
    if style.extend && 128 ≤ c.toNat && isGraphemeExtend c then escapeCode c
    else if isPrintable c then [c] else escapeCode c

def escape (s : List Char) : List Char :=
  match s with
  | [] => []
  | c :: rest => escapeChar ⟨true, true, true⟩ c ++ rest.flatMap (escapeChar ⟨true, true, false⟩)

def quoteChar (c : Char) : List Char :=
  '\'' :: escapeChar ⟨true, false, true⟩ c ++ ['\'']

def quote (s : List Char) : List Char :=
  '"' :: s.flatMap (escapeChar ⟨false, true, true⟩) ++ ['"']

end ModalEdit.Unicode
