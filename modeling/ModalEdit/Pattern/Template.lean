import ModalEdit.Pattern.Match

/-! Replacements: templates with references to groups, and the short form in which `&` stands for
the match and `\1` for a group. -/

namespace ModalEdit.Pattern

namespace Template

inductive Reference where
  | number (n : Nat)
  | name (s : Text)
  deriving DecidableEq, Repr

namespace Reference

def ofText (t : Text) : Reference :=
  if !t.isEmpty && t.all Char.isDigit then
    number (t.foldl (fun n c => 10 * n + (c.toNat - 48)) 0)
  else name t

def isLetter (c : Char) : Bool := c.isAlphanum || c == '_'

def read? (t : Text) : Option (Reference × Text) :=
  match t with
  | '\x7b' :: t =>
    let inner := t.takeWhile (· != '\x7d')
    match t.drop inner.length with
    | _ :: rest => some (ofText inner, rest)
    | [] => none
  | _ =>
    let letters := t.takeWhile isLetter
    if letters.isEmpty then none else some (ofText letters, t.drop letters.length)

theorem read?_length {t rest : Text} {r : Reference} (h : read? t = some (r, rest)) :
    rest.length < t.length := by
  unfold read? at h
  split at h
  · next t =>
    simp only at h
    split at h
    · next hd =>
      have hl := congrArg List.length hd
      simp only [List.length_drop, List.length_cons] at hl
      simp only [Option.some.injEq, Prod.mk.injEq] at h
      obtain ⟨-, rfl⟩ := h
      simp only [List.length_cons]
      omega
    · simp at h
  · simp only at h
    split at h
    · simp at h
    · next hne =>
      simp only [Option.some.injEq, Prod.mk.injEq] at h
      obtain ⟨-, rfl⟩ := h
      have hp := List.IsPrefix.length_le (List.takeWhile_prefix isLetter (l := t))
      have : 0 < (t.takeWhile isLetter).length := by
        rw [List.length_pos_iff]
        intro he
        simp [he] at hne
      simp only [List.length_drop]
      omega

end Reference

def expand (value : Reference → Text) : Text → Text
  | [] => []
  | '$' :: '$' :: t => '$' :: expand value t
  | '$' :: t =>
    match h : Reference.read? t with
    | some (r, rest) =>
      have := Reference.read?_length h
      value r ++ expand value rest
    | none => '$' :: expand value t
  | c :: t => c :: expand value t
termination_by t => t.length

def ofShort : Text → Text
  | [] => []
  | '\\' :: [] => ['\\']
  | '\\' :: c :: t =>
    (if c.isDigit then ['$', '\x7b', c, '\x7d'] else if c = '$' then ['$', '$'] else [c]) ++
      ofShort t
  | '&' :: t => ['$', '\x7b', '0', '\x7d'] ++ ofShort t
  | '$' :: t => ['$', '$'] ++ ofShort t
  | c :: t => c :: ofShort t

end Template

def value (p : Pattern) (t : Text) (m : Match) : Template.Reference → Text
  | .number n => m.text t n
  | .name s => ((p.names.lookup s).map (m.text t)).getD []

def splice (p : Pattern) (template t : Text) (n : Nat) : List Match → Text
  | [] => t.dropBytes n
  | m :: ms =>
    t.sliceBytes n m.start ++ Template.expand (p.value t m) template ++ p.splice template t m.stop ms

def replace (p : Pattern) (all : Bool) (template t : Text) : Text :=
  p.splice template t 0 (if all then p.findAll t else (p.find? t 0).toList)

end ModalEdit.Pattern
