import ModalEdit.Text.Basic

namespace ModalEdit

namespace Text

def before : Text → Text → Bool
  | _, [] => false
  | [], _ :: _ => true
  | a :: s, b :: t => a.toNat < b.toNat || a == b && before s t

theorem before_trans {s t u : Text} (h : before s t) (h' : before t u) : before s u := by
  induction s generalizing t u with
  | nil => cases t <;> cases u <;> simp_all [before]
  | cons a s ih =>
    cases t with
    | nil => simp [before] at h
    | cons b t =>
      cases u with
      | nil => simp [before] at h'
      | cons c u =>
        simp only [before, Bool.or_eq_true, decide_eq_true_eq, Bool.and_eq_true,
          beq_iff_eq] at h h' ⊢
        rcases h with h | ⟨rfl, h⟩ <;> rcases h' with h' | ⟨rfl, h'⟩
        · exact .inl (Nat.lt_trans h h')
        · exact .inl h
        · exact .inl h'
        · exact .inr ⟨rfl, ih h h'⟩

theorem before_of_not {s t : Text} (h : ¬ before s t) (hne : s ≠ t) : before t s := by
  induction s generalizing t with
  | nil => cases t <;> simp_all [before]
  | cons a s ih =>
    cases t with
    | nil => rfl
    | cons b t =>
      simp only [before, Bool.or_eq_true, decide_eq_true_eq, Bool.and_eq_true, beq_iff_eq,
        not_or, not_and] at h ⊢
      by_cases hab : a = b
      · subst hab
        exact .inr ⟨rfl, ih (h.2 rfl) fun e => hne (e ▸ rfl)⟩
      · have hne : a.toNat ≠ b.toNat := fun e => hab (Char.ext (UInt32.toNat_inj.1 e))
        exact .inl (by omega)

end Text

def insertEntry (k : Text) (a : α) : List (Text × α) → List (Text × α)
  | [] => [(k, a)]
  | (k', a') :: es =>
    if k.before k' then (k, a) :: (k', a') :: es
    else if k = k' then (k, a) :: es
    else (k', a') :: insertEntry k a es

theorem mem_insertEntry {k : Text} {a : α} {es : List (Text × α)} {e : Text × α}
    (h : e ∈ insertEntry k a es) : e = (k, a) ∨ e ∈ es := by
  induction es with
  | nil => simpa [insertEntry] using h
  | cons e' es ih =>
    obtain ⟨k', a'⟩ := e'
    rw [insertEntry] at h
    split at h
    · simpa using h
    · split at h
      · rcases List.mem_cons.1 h with h | h <;> simp [h]
      · rcases List.mem_cons.1 h with h | h
        · simp [h]
        · rcases ih h with h | h <;> simp [h]

theorem insertEntry_sorted {k : Text} {a : α} {es : List (Text × α)}
    (h : es.Pairwise fun e e' => e.1.before e'.1) :
    (insertEntry k a es).Pairwise fun e e' => e.1.before e'.1 := by
  induction es with
  | nil => simp [insertEntry]
  | cons e es ih =>
    obtain ⟨k', a'⟩ := e
    have hs := List.pairwise_cons.1 h
    rw [insertEntry]
    split
    · next hlt =>
      refine List.pairwise_cons.2 ⟨fun e he => ?_, h⟩
      rcases List.mem_cons.1 he with rfl | he
      · exact hlt
      · exact Text.before_trans hlt (hs.1 e he)
    · split
      · next _ heq => subst heq; exact List.pairwise_cons.2 ⟨hs.1, hs.2⟩
      · next hlt hne =>
        refine List.pairwise_cons.2 ⟨fun e he => ?_, ih hs.2⟩
        rcases mem_insertEntry he with rfl | he
        · exact Text.before_of_not hlt hne
        · exact hs.1 e he

theorem sorted_nil : ([] : List (Text × α)).Pairwise fun e e' => e.1.before e'.1 := .nil

structure Table (α : Type) where
  entries : List (Text × α) := []
  sorted : entries.Pairwise (fun e e' => e.1.before e'.1) := by exact sorted_nil

namespace Table

def get? (t : Table α) (k : Text) : Option α := t.entries.lookup k

def contains (t : Table α) (k : Text) : Bool := (t.get? k).isSome

def keys (t : Table α) : List Text := t.entries.map (·.1)

def insert (t : Table α) (k : Text) (a : α) : Table α :=
  ⟨insertEntry k a t.entries, insertEntry_sorted t.sorted⟩

def erase (t : Table α) (k : Text) : Table α :=
  ⟨t.entries.filter (·.1 != k), t.sorted.filter _⟩

end Table

instance : Inhabited (Table α) := ⟨{}⟩

end ModalEdit
