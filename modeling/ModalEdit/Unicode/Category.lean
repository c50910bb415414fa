import ModalEdit.Unicode.Category.Letters
import ModalEdit.Unicode.Category.Marks
import ModalEdit.Unicode.Category.Signs

namespace ModalEdit.Unicode

inductive Category where
  | uppercaseLetter
  | lowercaseLetter
  | titlecaseLetter
  | modifierLetter
  | otherLetter
  | nonspacingMark
  | spacingMark
  | enclosingMark
  | decimalNumber
  | letterNumber
  | otherNumber
  | connectorPunctuation
  | dashPunctuation
  | openPunctuation
  | closePunctuation
  | initialPunctuation
  | finalPunctuation
  | otherPunctuation
  | mathSymbol
  | currencySymbol
  | modifierSymbol
  | otherSymbol
  | spaceSeparator
  | lineSeparator
  | paragraphSeparator
  | control
  | format
  | surrogate
  | privateUse
  | unassigned
  deriving DecidableEq, Repr

namespace Category

def abbreviations : List (String × Category) :=
  [("Lu", .uppercaseLetter), ("Ll", .lowercaseLetter), ("Lt", .titlecaseLetter),
   ("Lm", .modifierLetter), ("Lo", .otherLetter), ("Mn", .nonspacingMark), ("Mc", .spacingMark),
   ("Me", .enclosingMark), ("Nd", .decimalNumber), ("Nl", .letterNumber), ("No", .otherNumber),
   ("Pc", .connectorPunctuation), ("Pd", .dashPunctuation), ("Ps", .openPunctuation),
   ("Pe", .closePunctuation), ("Pi", .initialPunctuation), ("Pf", .finalPunctuation),
   ("Po", .otherPunctuation), ("Sm", .mathSymbol), ("Sc", .currencySymbol),
   ("Sk", .modifierSymbol), ("So", .otherSymbol), ("Zs", .spaceSeparator),
   ("Zl", .lineSeparator), ("Zp", .paragraphSeparator), ("Cc", .control), ("Cf", .format),
   ("Cs", .surrogate), ("Co", .privateUse), ("Cn", .unassigned)]

def ofAbbreviation? (s : String) : Option Category :=
  abbreviations.lookup s

def sets : List (Category × CodeSet) :=
  [(.lowercaseLetter, lowercaseLetters), (.uppercaseLetter, uppercaseLetters),
   (.otherLetter, otherLetters), (.nonspacingMark, nonspacingMarks), (.otherSymbol, otherSymbols),
   (.mathSymbol, mathSymbols), (.otherPunctuation, otherPunctuations),
   (.spacingMark, spacingMarks), (.decimalNumber, decimalNumbers), (.otherNumber, otherNumbers),
   (.modifierLetter, modifierLetters), (.titlecaseLetter, titlecaseLetters),
   (.letterNumber, letterNumbers), (.enclosingMark, enclosingMarks),
   (.connectorPunctuation, connectorPunctuations), (.dashPunctuation, dashPunctuations),
   (.openPunctuation, openPunctuations), (.closePunctuation, closePunctuations),
   (.initialPunctuation, initialPunctuations), (.finalPunctuation, finalPunctuations),
   (.currencySymbol, currencySymbols), (.modifierSymbol, modifierSymbols),
   (.spaceSeparator, spaceSeparators), (.lineSeparator, lineSeparators),
   (.paragraphSeparator, paragraphSeparators), (.control, controls), (.format, formats),
   (.privateUse, privateUses)]

def ofChar (c : Char) : Category :=
  ((sets.find? fun s => s.2.contains c).map (·.1)).getD .unassigned

def isLetter : Category → Bool
  | uppercaseLetter | lowercaseLetter | titlecaseLetter | modifierLetter | otherLetter => true
  | _ => false

def isMark : Category → Bool
  | nonspacingMark | spacingMark | enclosingMark => true
  | _ => false

def isNumber : Category → Bool
  | decimalNumber | letterNumber | otherNumber => true
  | _ => false

def isPunctuation : Category → Bool
  | connectorPunctuation | dashPunctuation | openPunctuation | closePunctuation
  | initialPunctuation | finalPunctuation | otherPunctuation => true
  | _ => false

def isSymbol : Category → Bool
  | mathSymbol | currencySymbol | modifierSymbol | otherSymbol => true
  | _ => false

def isSeparator : Category → Bool
  | spaceSeparator | lineSeparator | paragraphSeparator => true
  | _ => false

def isOther : Category → Bool
  | control | format | surrogate | privateUse | unassigned => true
  | _ => false

end Category

end ModalEdit.Unicode
