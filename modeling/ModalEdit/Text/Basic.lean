namespace ModalEdit

abbrev Text := List Char

instance : LawfulBEq Text := inferInstance

namespace Text

def byteLength : Text → Nat
  | [] => 0
  | c :: t => c.utf8Size + byteLength t

def takeBytes : Nat → Text → Text
  | _, [] => []
  | n, c :: t => if c.utf8Size ≤ n then c :: takeBytes (n - c.utf8Size) t else []

/-- What `takeBytes` leaves: a cut inside a character is made before it. -/
def dropBytes : Nat → Text → Text
  | _, [] => []
  | n, c :: t => if c.utf8Size ≤ n then dropBytes (n - c.utf8Size) t else c :: t

@[simp] theorem takeBytes_append_dropBytes (n : Nat) (t : Text) :
    takeBytes n t ++ dropBytes n t = t := by
  induction t generalizing n with
  | nil => rfl
  | cons c t ih =>
    rw [takeBytes, dropBytes]
    split
    · simp [ih]
    · rfl

@[simp] theorem byteLength_append (s t : Text) :
    byteLength (s ++ t) = byteLength s + byteLength t := by
  induction s with
  | nil => simp [byteLength]
  | cons c s ih => simp only [List.cons_append, byteLength, ih]; omega

theorem length_of_dropWhile_eq_cons {p : Char → Bool} {t rest : Text} {d : Char}
    (h : t.dropWhile p = d :: rest) (c : Char) : rest.length < (c :: t).length := by
  have := List.IsSuffix.length_le (List.dropWhile_suffix p (l := t))
  rw [h] at this
  simp only [List.length_cons] at *
  omega

def sliceBytes (first last : Nat) (t : Text) : Text :=
  takeBytes (byteLength t - byteLength (dropBytes last t) - byteLength (takeBytes first t))
    (dropBytes first t)

def IsCharBoundary (t : Text) (n : Nat) : Prop :=
  byteLength (takeBytes n t) = n

instance (t : Text) (n : Nat) : Decidable (IsCharBoundary t n) :=
  inferInstanceAs (Decidable (_ = _))

/-- Whether bytes `first` to `last` are a slice of `t`. There is none from within a character. -/
def hasSlice (t : Text) (first last : Nat) : Bool :=
  first ≤ last && IsCharBoundary t first && IsCharBoundary t last

theorem hasSlice_iff {t : Text} {first last : Nat} :
    t.hasSlice first last = true ↔
      first ≤ last ∧ IsCharBoundary t first ∧ IsCharBoundary t last := by
  simp [hasSlice, and_assoc]

def startsWith : Text → Text → Bool
  | _, [] => true
  | [], _ :: _ => false
  | a :: s, b :: t => a == b && startsWith s t

end Text

structure Position where
  line : Nat
  byte : Nat
  deriving DecidableEq, Repr, Inhabited

namespace Position

def origin : Position := ⟨0, 0⟩

instance : LE Position where
  le p q := p.line < q.line ∨ p.line = q.line ∧ p.byte ≤ q.byte

instance : LT Position where
  lt p q := p.line < q.line ∨ p.line = q.line ∧ p.byte < q.byte

theorem le_def {p q : Position} :
    p ≤ q ↔ p.line < q.line ∨ p.line = q.line ∧ p.byte ≤ q.byte := Iff.rfl

theorem lt_def {p q : Position} :
    p < q ↔ p.line < q.line ∨ p.line = q.line ∧ p.byte < q.byte := Iff.rfl

instance (p q : Position) : Decidable (p ≤ q) := decidable_of_iff _ le_def.symm

instance (p q : Position) : Decidable (p < q) := decidable_of_iff _ lt_def.symm

def first (p q : Position) : Position := if p ≤ q then p else q

def last (p q : Position) : Position := if p ≤ q then q else p

end Position

end ModalEdit
