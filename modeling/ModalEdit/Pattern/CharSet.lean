import ModalEdit.Unicode.Case
import ModalEdit.Unicode.Cluster
import ModalEdit.Unicode.Script

namespace ModalEdit.Pattern

open Unicode

structure CharSet where
  contains : Char → Bool
  weight : Nat := 1

namespace CharSet

def none : CharSet := ⟨fun _ => false, 0⟩

def range (lo hi : Char) : CharSet where
  contains c := lo ≤ c && c ≤ hi
  weight := if hi.toNat < 128 then 1 else 4

def single (c : Char) : CharSet := range c c

def ofList (cs : List Char) : CharSet := ⟨(cs.contains ·), cs.length⟩

def union (s t : CharSet) : CharSet := ⟨fun c => s.contains c || t.contains c, s.weight + t.weight⟩

def inter (s t : CharSet) : CharSet := ⟨fun c => s.contains c && t.contains c, s.weight + t.weight⟩

def diff (s t : CharSet) : CharSet := ⟨fun c => s.contains c && !t.contains c, s.weight + t.weight⟩

def symmDiff (s t : CharSet) : CharSet :=
  ⟨fun c => s.contains c != t.contains c, s.weight + t.weight⟩

def compl (s : CharSet) : CharSet := ⟨fun c => !s.contains c, s.weight + 10⟩

def complIf (negated : Bool) (s : CharSet) : CharSet := if negated then s.compl else s

def foldingExtras : List Char :=
  ("\u00b5\u017f\u01c5\u01c8\u01cb\u01f2\u0345\u03c2\u03d0\u03d1\u03d5\u03d6\u03f0\u03f1\u03f4" ++
    "\u03f5\u1c80\u1c81\u1c82\u1c83\u1c84\u1c85\u1c86\u1c87\u1c88\u1e9b\u1e9e\u1fbc\u1fbe\u1fcc" ++
    "\u1fd3\u1fe3\u1ffc\u2126\u212a\u212b\ufb05").toList ++
  (List.range 8).flatMap fun i =>
    [Char.ofNat (0x1f88 + i), Char.ofNat (0x1f98 + i), Char.ofNat (0x1fa8 + i)]

def variants (c : Char) : List Char :=
  let f := fold c
  [c, f, simpleUpper c] ++ foldingExtras.filter (fold · == f)

def asciiVariants (c : Char) : List Char := [c, c.toLower, c.toUpper]

def foldCase (ascii : Bool) (s : CharSet) : CharSet where
  contains c := (if ascii then asciiVariants c else variants c).any s.contains
  weight := 2 * s.weight

def isAscii (s : CharSet) : Bool :=
  (List.range 128).all fun n => !s.contains (Char.ofNat (128 + n))

def digit (ascii : Bool) : CharSet :=
  if ascii then range '0' '9' else ⟨(Category.ofChar · == .decimalNumber), 120⟩

def space (ascii : Bool) : CharSet :=
  if ascii then ofList "\t\n\x0b\x0c\r ".toList else ⟨isWhitespace, 20⟩

def isWord (c : Char) : Bool :=
  let k := Category.ofChar c
  isAlphabetic c || k.isMark || k == .decimalNumber || k == .connectorPunctuation ||
    c == '\u200c' || c == '\u200d'

def isAsciiWord (c : Char) : Bool := c.isAlphanum || c == '_'

def word (ascii : Bool) : CharSet := if ascii then ⟨isAsciiWord, 4⟩ else ⟨isWord, 1500⟩

def posix? (name : String) : Option CharSet :=
  match name with
  | "alnum" => some ⟨Char.isAlphanum, 3⟩
  | "alpha" => some ⟨Char.isAlpha, 2⟩
  | "ascii" => some (range '\x00' '\x7f')
  | "blank" => some (ofList ['\t', ' '])
  | "cntrl" => some ((range '\x00' '\x1f').union (single '\x7f'))
  | "digit" => some (range '0' '9')
  | "graph" => some (range '!' '~')
  | "lower" => some (range 'a' 'z')
  | "print" => some (range ' ' '~')
  | "punct" => some ((range '!' '~').diff ⟨Char.isAlphanum, 3⟩)
  | "space" => some (space true)
  | "upper" => some (range 'A' 'Z')
  | "word" => some (word true)
  | "xdigit" => some ((range '0' '9').union ((range 'A' 'F').union (range 'a' 'f')))
  | _ => .none

def normalizeName (name : List Char) : String :=
  let s := (name.filter fun c => !(isWhitespace c || c == '_' || c == '-')).map Char.toLower
  match s with
  | 'i' :: 's' :: rest => if rest == ['c'] then "isc" else String.ofList rest
  | _ => String.ofList s

def ofCategory (f : Category → Bool) : CharSet := ⟨fun c => f (Category.ofChar c), 500⟩

def longCategories : List (String × String) :=
  [("uppercaseletter", "Lu"), ("lowercaseletter", "Ll"), ("titlecaseletter", "Lt"),
   ("modifierletter", "Lm"), ("otherletter", "Lo"), ("nonspacingmark", "Mn"),
   ("spacingmark", "Mc"), ("enclosingmark", "Me"), ("decimalnumber", "Nd"), ("digit", "Nd"),
   ("letternumber", "Nl"), ("othernumber", "No"), ("connectorpunctuation", "Pc"),
   ("dashpunctuation", "Pd"), ("openpunctuation", "Ps"), ("closepunctuation", "Pe"),
   ("initialpunctuation", "Pi"), ("finalpunctuation", "Pf"), ("otherpunctuation", "Po"),
   ("mathsymbol", "Sm"), ("currencysymbol", "Sc"), ("modifiersymbol", "Sk"), ("othersymbol", "So"),
   ("spaceseparator", "Zs"), ("lineseparator", "Zl"), ("paragraphseparator", "Zp"),
   ("control", "Cc"), ("cntrl", "Cc"), ("format", "Cf"), ("surrogate", "Cs"),
   ("privateuse", "Co"), ("unassigned", "Cn")]

def category? (name : String) : Option CharSet :=
  match name with
  | "any" => some (range '\x00' (Char.ofNat 0x10ffff))
  | "ascii" => some (range '\x00' '\x7f')
  | "assigned" => some (ofCategory (· != .unassigned))
  | "l" | "letter" => some (ofCategory Category.isLetter)
  | "lc" | "casedletter" => some <| ofCategory fun k =>
    k == .uppercaseLetter || k == .lowercaseLetter || k == .titlecaseLetter
  | "m" | "mark" | "combiningmark" => some (ofCategory Category.isMark)
  | "n" | "number" => some (ofCategory Category.isNumber)
  | "p" | "punctuation" | "punct" => some (ofCategory Category.isPunctuation)
  | "s" | "symbol" => some (ofCategory Category.isSymbol)
  | "z" | "separator" => some (ofCategory Category.isSeparator)
  | "c" | "other" => some (ofCategory Category.isOther)
  | _ =>
    let short := (longCategories.lookup name).getD (name.capitalize)
    (Category.ofAbbreviation? short).map fun k => ofCategory (· == k)

def binaryProperty? (name : String) : Option CharSet :=
  match name with
  | "alphabetic" | "alpha" => some ⟨isAlphabetic, 1000⟩
  | "uppercase" | "upper" => some ⟨isUppercase, 800⟩
  | "lowercase" | "lower" => some ⟨isLowercase, 800⟩
  | "cased" => some ⟨isCased, 800⟩
  | "caseignorable" | "ci" => some ⟨isCaseIgnorable, 800⟩
  | "whitespace" | "wspace" | "space" => some (space false)
  | "graphemeextend" | "grext" => some ⟨isGraphemeExtend, 500⟩
  | "extendedpictographic" | "extpict" => some ⟨extendedPictographic.contains, 200⟩
  | "regionalindicator" | "ri" => some ⟨isRegionalIndicator, 4⟩
  | "emojimodifier" | "emod" => some ⟨isEmojiModifier, 4⟩
  | "asciihexdigit" | "ahex" => posix? "xdigit"
  | "joincontrol" | "joinc" => some (ofList ['\u200c', '\u200d'])
  | _ => .none

def script? (name : String) : Option CharSet :=
  (ofScript? name).map fun s => ⟨s.contains, 40⟩

def property? (name : List Char) : Option CharSet :=
  let value (name value : List Char) : Option CharSet :=
    match normalizeName name with
    | "gc" | "generalcategory" => category? (normalizeName value)
    | "sc" | "script" => script? (normalizeName value)
    | _ => .none
  let before (c : Char) := name.takeWhile (· != c)
  let after (c : Char) := (name.dropWhile (· != c)).drop 1
  if name.contains '!' && (after '!').head? == some '=' then
    (value (before '!') ((after '!').drop 1)).map compl
  else if name.contains ':' then value (before ':') (after ':')
  else if name.contains '=' then value (before '=') (after '=')
  else
    let n := normalizeName name
    (if n == "cf" || n == "sc" || n == "lc" then .none else binaryProperty? n).orElse fun _ =>
      (category? n).orElse fun _ => script? n

end CharSet

end ModalEdit.Pattern
