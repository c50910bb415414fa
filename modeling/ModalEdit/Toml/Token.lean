import ModalEdit.Text.Basic

/-! TOML text as tokens: punctuation, line ends, quoted strings, and atoms, which are keys, numbers
or dates. Comments are checked and dropped. -/

namespace ModalEdit.Toml

inductive Lexeme where
  | newline
  | dot | equals | comma
  | openBracket | closeBracket | openBrace | closeBrace
  | atom (t : Text)
  | string (t : Text) (multiline : Bool)
  deriving DecidableEq, Repr

structure Token where
  gap : Text
  lexeme : Lexeme
  deriving DecidableEq, Repr

def isBlank (c : Char) : Bool := c == ' ' || c == '\t'

def isControl (c : Char) : Bool := (c.toNat < 32 && c != '\t') || c.toNat == 127

def hexDigit? (c : Char) : Option Nat :=
  if c.isDigit then some (c.toNat - 48)
  else if 'a' ≤ c ∧ c ≤ 'f' then some (c.toNat - 87)
  else if 'A' ≤ c ∧ c ≤ 'F' then some (c.toNat - 55)
  else none

def hexChar? (ds : Text) : Option Char :=
  match ds.foldl (fun n c => do pure ((← n) * 16 + (← hexDigit? c))) (some 0) with
  | some n => if n.isValidChar then some (Char.ofNat n) else none
  | none => none

def escape? : Text → Option (Char × Text)
  | 'b' :: r => some ('\x08', r)
  | 't' :: r => some ('\t', r)
  | 'n' :: r => some ('\n', r)
  | 'f' :: r => some ('\x0c', r)
  | 'r' :: r => some ('\r', r)
  | 'e' :: r => some ('\x1b', r)
  | '"' :: r => some ('"', r)
  | '\\' :: r => some ('\\', r)
  | 'x' :: a :: b :: r => (hexChar? [a, b]).map (·, r)
  | 'u' :: a :: b :: c :: d :: r => (hexChar? [a, b, c, d]).map (·, r)
  | 'U' :: a :: b :: c :: d :: e :: f :: g :: h :: r =>
    (hexChar? [a, b, c, d, e, f, g, h]).map (·, r)
  | _ => none

theorem escape?_length {t r : Text} {c : Char} (h : escape? t = some (c, r)) :
    r.length < t.length := by
  unfold escape? at h
  split at h
  case h_9 | h_10 | h_11 =>
    obtain ⟨_, -, he⟩ := Option.map_eq_some_iff.1 h
    cases he
    simp only [List.length_cons]
    omega
  all_goals cases h <;> (simp only [List.length_cons]; omega)

def scanBasic : Text → Option (Text × Text)
  | [] => none
  | '"' :: r => some ([], r)
  | '\\' :: r =>
    match h : escape? r with
    | some (c, r') =>
      have := escape?_length h
      (scanBasic r').map fun (s, r) => (c :: s, r)
    | none => none
  | c :: r => if isControl c then none else (scanBasic r).map fun (s, r) => (c :: s, r)
termination_by t => t.length

def scanLiteral : Text → Option (Text × Text)
  | [] => none
  | '\'' :: r => some ([], r)
  | c :: r => if isControl c then none else (scanLiteral r).map fun (s, r) => (c :: s, r)

def dropSpace : Text → Text
  | '\r' :: '\n' :: r => dropSpace r
  | c :: r => if isBlank c || c == '\n' then dropSpace r else c :: r
  | [] => []

theorem dropSpace_length (t : Text) : (dropSpace t).length ≤ t.length := by
  fun_induction dropSpace t with
  | case1 r ih => simp only [List.length_cons]; omega
  | case2 c r _ _ ih => simp only [List.length_cons]; omega
  | case3 => simp
  | case4 => simp

def afterEscapedLine? (t : Text) : Option Text :=
  match t.dropWhile isBlank with
  | '\n' :: r | '\r' :: '\n' :: r => some (dropSpace r)
  | _ => none

theorem afterEscapedLine?_length {t r : Text} (h : afterEscapedLine? t = some r) :
    r.length < t.length := by
  have hd := List.IsSuffix.length_le (List.dropWhile_suffix isBlank (l := t))
  unfold afterEscapedLine? at h
  split at h <;> simp at h
  all_goals
    next r' he =>
      rw [he] at hd
      have := dropSpace_length r'
      subst h
      simp only [List.length_cons] at hd
      omega

def scanLongBasic : Text → Option (Text × Text)
  | [] => none
  | '"' :: '"' :: '"' :: '"' :: '"' :: r => some (['"', '"'], r)
  | '"' :: '"' :: '"' :: '"' :: r => some (['"'], r)
  | '"' :: '"' :: '"' :: r => some ([], r)
  | '\\' :: r =>
    match h : escape? r, h' : afterEscapedLine? r with
    | some (c, r'), _ =>
      have := escape?_length h
      (scanLongBasic r').map fun (s, r) => (c :: s, r)
    | none, some r' =>
      have := afterEscapedLine?_length h'
      scanLongBasic r'
    | none, none => none
  | '\r' :: '\n' :: r => (scanLongBasic r).map fun (s, r) => ('\r' :: '\n' :: s, r)
  | c :: r =>
    if isControl c && c != '\n' then none else (scanLongBasic r).map fun (s, r) => (c :: s, r)
termination_by t => t.length

def scanLongLiteral : Text → Option (Text × Text)
  | [] => none
  | '\'' :: '\'' :: '\'' :: '\'' :: '\'' :: r => some (['\'', '\''], r)
  | '\'' :: '\'' :: '\'' :: '\'' :: r => some (['\''], r)
  | '\'' :: '\'' :: '\'' :: r => some ([], r)
  | '\r' :: '\n' :: r => (scanLongLiteral r).map fun (s, r) => ('\r' :: '\n' :: s, r)
  | c :: r =>
    if isControl c && c != '\n' then none else (scanLongLiteral r).map fun (s, r) => (c :: s, r)

def dropFirstLine : Text → Text
  | '\n' :: r | '\r' :: '\n' :: r => r
  | t => t

def scanString (q : Char) (t : Text) : Option (Lexeme × Text) :=
  let long (x : Text × Text) : Lexeme × Text := (.string x.1 true, x.2)
  let short (x : Text × Text) : Lexeme × Text := (.string x.1 false, x.2)
  if q = '"' then
    match t with
    | '"' :: '"' :: r => (scanLongBasic (dropFirstLine r)).map long
    | _ => (scanBasic t).map short
  else
    match t with
    | '\'' :: '\'' :: r => (scanLongLiteral (dropFirstLine r)).map long
    | _ => (scanLiteral t).map short

theorem scanBasic_length {t s r : Text} (h : scanBasic t = some (s, r)) :
    r.length ≤ t.length := by
  fun_induction scanBasic t generalizing s r with
  | case1 => simp at h
  | case2 => simp at h; simp [h.2]
  | case3 r' c r'' h' hlt ih =>
    obtain ⟨⟨s', r3⟩, h1, h2⟩ := Option.map_eq_some_iff.1 h
    cases h2
    have := ih h1
    simp only [List.length_cons]; omega
  | case4 => simp at h
  | case5 => simp at h
  | case6 c r' _ _ _ ih =>
    obtain ⟨⟨s', r3⟩, h1, h2⟩ := Option.map_eq_some_iff.1 h
    cases h2
    have := ih h1
    simp only [List.length_cons]; omega

theorem scanLiteral_length {t s r : Text} (h : scanLiteral t = some (s, r)) :
    r.length ≤ t.length := by
  fun_induction scanLiteral t generalizing s r with
  | case1 => simp at h
  | case2 => simp at h; simp [h.2]
  | case3 => simp at h
  | case4 c r' _ _ ih =>
    obtain ⟨⟨s', r3⟩, h1, h2⟩ := Option.map_eq_some_iff.1 h
    cases h2
    have := ih h1
    simp only [List.length_cons]; omega

theorem scanLongBasic_length {t s r : Text} (h : scanLongBasic t = some (s, r)) :
    r.length ≤ t.length := by
  fun_induction scanLongBasic t generalizing s r with
  | case1 => simp at h
  | case2 => simp at h; simp [h.2]; omega
  | case3 => simp at h; simp [h.2]; omega
  | case4 => simp at h; simp [h.2]; omega
  | case5 r' c r'' h'' hlt ih =>
    obtain ⟨⟨s', r3⟩, h1, h2⟩ := Option.map_eq_some_iff.1 h
    cases h2
    have := ih h1
    simp only [List.length_cons]; omega
  | case6 r' _ r'' h'' hlt ih =>
    have := ih h
    simp only [List.length_cons]; omega
  | case7 => simp at h
  | case8 r' ih =>
    obtain ⟨⟨s', r3⟩, h1, h2⟩ := Option.map_eq_some_iff.1 h
    cases h2
    have := ih h1
    simp only [List.length_cons]; omega
  | case9 => simp at h
  | case10 c r' _ _ _ _ _ _ ih =>
    obtain ⟨⟨s', r3⟩, h1, h2⟩ := Option.map_eq_some_iff.1 h
    cases h2
    have := ih h1
    simp only [List.length_cons]; omega

theorem scanLongLiteral_length {t s r : Text} (h : scanLongLiteral t = some (s, r)) :
    r.length ≤ t.length := by
  fun_induction scanLongLiteral t generalizing s r with
  | case1 => simp at h
  | case2 => simp at h; simp [h.2]; omega
  | case3 => simp at h; simp [h.2]; omega
  | case4 => simp at h; simp [h.2]; omega
  | case5 r' ih =>
    obtain ⟨⟨s', r3⟩, h1, h2⟩ := Option.map_eq_some_iff.1 h
    cases h2
    have := ih h1
    simp only [List.length_cons]; omega
  | case6 => simp at h
  | case7 c r' _ _ _ _ _ ih =>
    obtain ⟨⟨s', r3⟩, h1, h2⟩ := Option.map_eq_some_iff.1 h
    cases h2
    have := ih h1
    simp only [List.length_cons]; omega

theorem dropFirstLine_length (t : Text) : (dropFirstLine t).length ≤ t.length := by
  unfold dropFirstLine
  split
  · simp
  · simp only [List.length_cons]; omega
  · exact Nat.le_refl _

theorem scanString_length {q : Char} {t r : Text} {l : Lexeme}
    (h : scanString q t = some (l, r)) : r.length ≤ t.length := by
  unfold scanString at h
  split at h <;> split at h
  all_goals
    obtain ⟨⟨s', r3⟩, h1, h2⟩ := Option.map_eq_some_iff.1 h
    cases h2
  · rename_i r'
    have := scanLongBasic_length h1
    have := dropFirstLine_length r'
    simp only [List.length_cons]; omega
  · exact scanBasic_length h1
  · rename_i r'
    have := scanLongLiteral_length h1
    have := dropFirstLine_length r'
    simp only [List.length_cons]; omega
  · exact scanLiteral_length h1

def punctuation? (c : Char) : Option Lexeme :=
  if c = '\n' then some .newline
  else if c = '.' then some .dot
  else if c = '=' then some .equals
  else if c = ',' then some .comma
  else if c = '[' then some .openBracket
  else if c = ']' then some .closeBracket
  else if c = '{' then some .openBrace
  else if c = '}' then some .closeBrace
  else none

def isAtomChar (c : Char) : Bool :=
  (punctuation? c).isNone && !isBlank c && c != '#' && c != '"' && c != '\'' && !isControl c

def inComment (c : Char) : Bool := c != '\n'

def isComment (t : Text) (atEnd : Bool) : Bool :=
  if !atEnd && t.getLast? == some '\r' then t.dropLast.all (!isControl ·) else t.all (!isControl ·)

def tokensAfter (gap : Text) : Text → Option (List Token)
  | [] => some []
  | '\r' :: '\n' :: r => (tokensAfter [] r).map (⟨gap, .newline⟩ :: ·)
  | c :: r =>
    if isBlank c then tokensAfter (gap ++ [c]) r
    else if c = '#' then
      let rest := r.dropWhile inComment
      have := List.IsSuffix.length_le (List.dropWhile_suffix inComment (l := r))
      if isComment (r.takeWhile inComment) rest.isEmpty then tokensAfter gap rest else none
    else match punctuation? c with
      | some l => (tokensAfter [] r).map (⟨gap, l⟩ :: ·)
      | none =>
        if c = '"' ∨ c = '\'' then
          match h : scanString c r with
          | none => none
          | some (l, rest) =>
            have := scanString_length h
            (tokensAfter [] rest).map (⟨gap, l⟩ :: ·)
        else if isAtomChar c then
          let rest := r.dropWhile isAtomChar
          have := List.IsSuffix.length_le (List.dropWhile_suffix isAtomChar (l := r))
          (tokensAfter [] rest).map (⟨gap, .atom (c :: r.takeWhile isAtomChar)⟩ :: ·)
        else none
termination_by t => t.length

def tokens (t : Text) : Option (List Token) :=
  match t with
  | '\ufeff' :: r => tokensAfter [] r
  | _ => tokensAfter [] t

end ModalEdit.Toml
