import Mathlib.Tactic.Common
import ModalEdit.Text.Basic

namespace ModalEdit.Text

variable {t a b : Text} {n : Nat}

@[simp] lemma byteLength_nil : byteLength [] = 0 := rfl

@[simp] lemma byteLength_cons (c : Char) (t : Text) :
    byteLength (c :: t) = c.utf8Size + byteLength t := rfl

@[simp] lemma byteLength_eq_zero : byteLength t = 0 ↔ t = [] := by
  cases t with
  | nil => simp
  | cons c t => simp [Nat.ne_of_gt (Char.utf8Size_pos c)]

@[simp] lemma takeBytes_zero : takeBytes 0 t = [] := by
  cases t with
  | nil => rfl
  | cons c t => simp [takeBytes, Nat.ne_of_gt (Char.utf8Size_pos c)]

@[simp] lemma dropBytes_zero : dropBytes 0 t = t := by
  cases t with
  | nil => rfl
  | cons c t => simp [dropBytes, Nat.ne_of_gt (Char.utf8Size_pos c)]

lemma takeBytes_append (h : byteLength a ≤ n) :
    takeBytes n (a ++ b) = a ++ takeBytes (n - byteLength a) b := by
  induction a generalizing n with
  | nil => rfl
  | cons c a ih =>
    rw [byteLength_cons] at h
    rw [List.cons_append, takeBytes, if_pos (by omega), ih (by omega), byteLength_cons,
      Nat.sub_sub]
    rfl

lemma dropBytes_append (h : byteLength a ≤ n) :
    dropBytes n (a ++ b) = dropBytes (n - byteLength a) b := by
  induction a generalizing n with
  | nil => rfl
  | cons c a ih =>
    rw [byteLength_cons] at h
    rw [List.cons_append, dropBytes, if_pos (by omega), ih (by omega), byteLength_cons,
      Nat.sub_sub]

@[simp] lemma takeBytes_left (a b : Text) : takeBytes (byteLength a) (a ++ b) = a := by
  rw [takeBytes_append (Nat.le_refl _), Nat.sub_self, takeBytes_zero, List.append_nil]

@[simp] lemma dropBytes_left (a b : Text) : dropBytes (byteLength a) (a ++ b) = b := by
  rw [dropBytes_append (Nat.le_refl _), Nat.sub_self, dropBytes_zero]

lemma takeBytes_self (t : Text) : takeBytes (byteLength t) t = t := by
  simpa using takeBytes_left t []

lemma dropBytes_self (t : Text) : dropBytes (byteLength t) t = [] := by
  simpa using dropBytes_left t []

lemma byteLength_takeBytes_le (n : Nat) (t : Text) : byteLength (takeBytes n t) ≤ n := by
  induction t generalizing n with
  | nil => exact Nat.zero_le n
  | cons c t ih =>
    rw [takeBytes]
    split
    · have := ih (n - c.utf8Size)
      rw [byteLength_cons]
      omega
    · exact Nat.zero_le n

lemma byteLength_takeBytes_add (n : Nat) (t : Text) :
    byteLength (takeBytes n t) + byteLength (dropBytes n t) = byteLength t := by
  rw [← byteLength_append, takeBytes_append_dropBytes]

lemma exists_append_of_le {u v u' v' : Text} (h : u ++ v = u' ++ v')
    (hle : byteLength u ≤ byteLength u') : ∃ m, u' = u ++ m ∧ v = m ++ v' := by
  rcases List.append_eq_append_iff.mp h with ⟨m, rfl, rfl⟩ | ⟨m, rfl, rfl⟩
  · exact ⟨m, rfl, rfl⟩
  · rw [byteLength_append] at hle
    obtain rfl : m = [] := byteLength_eq_zero.mp (by omega)
    exact ⟨[], by simp, rfl⟩

lemma isCharBoundary_iff : IsCharBoundary t n ↔ ∃ a b, t = a ++ b ∧ byteLength a = n := by
  constructor
  · intro h
    exact ⟨takeBytes n t, dropBytes n t, (takeBytes_append_dropBytes n t).symm, h⟩
  · rintro ⟨a, b, rfl, rfl⟩
    rw [IsCharBoundary, takeBytes_left]

lemma isCharBoundary_between (a b : Text) : IsCharBoundary (a ++ b) (byteLength a) :=
  isCharBoundary_iff.mpr ⟨a, b, rfl, rfl⟩

lemma isCharBoundary_zero (t : Text) : IsCharBoundary t 0 := isCharBoundary_between [] t

lemma isCharBoundary_length (t : Text) : IsCharBoundary t (byteLength t) := by
  simpa using isCharBoundary_between t []

lemma isCharBoundary_suffix (a b : Text) :
    IsCharBoundary (a ++ b) (byteLength (a ++ b) - byteLength b) := by
  rw [byteLength_append, Nat.add_sub_cancel]
  exact isCharBoundary_between a b

lemma IsCharBoundary.le (h : IsCharBoundary t n) : n ≤ byteLength t := by
  obtain ⟨a, b, rfl, rfl⟩ := isCharBoundary_iff.mp h
  simp

lemma IsCharBoundary.append_left (h : IsCharBoundary b n) (a : Text) :
    IsCharBoundary (a ++ b) (byteLength a + n) := by
  obtain ⟨c, d, rfl, rfl⟩ := isCharBoundary_iff.mp h
  exact isCharBoundary_iff.mpr ⟨a ++ c, d, (List.append_assoc ..).symm, byteLength_append a c⟩

lemma byteLength_sliceBytes {m : Nat} (hm : IsCharBoundary t m) (hn : IsCharBoundary t n)
    (hle : m ≤ n) : byteLength (sliceBytes m n t) = n - m := by
  obtain ⟨a, b, rfl, rfl⟩ := isCharBoundary_iff.mp hm
  have hsum := byteLength_takeBytes_add n (a ++ b)
  have hn : byteLength (takeBytes n (a ++ b)) = n := hn
  have hcut : byteLength (a ++ b) - byteLength (dropBytes n (a ++ b)) - byteLength a =
      n - byteLength a := by omega
  rw [takeBytes_append hle, byteLength_append] at hn
  rw [sliceBytes, dropBytes_left, takeBytes_left, hcut]
  omega

@[simp] lemma isCharBoundary_nil : IsCharBoundary [] n ↔ n = 0 := by
  constructor
  · intro h
    exact Nat.le_zero.mp h.le
  · rintro rfl
    exact isCharBoundary_zero []

lemma isCharBoundary_cons {c : Char} :
    IsCharBoundary (c :: t) n ↔ n = 0 ∨ ∃ k, n = c.utf8Size + k ∧ IsCharBoundary t k := by
  constructor
  · intro h
    obtain ⟨- | ⟨d, a⟩, b, ht, rfl⟩ := isCharBoundary_iff.mp h
    · exact .inl rfl
    · obtain ⟨rfl, rfl⟩ := List.cons.inj ht
      exact .inr ⟨byteLength a, rfl, isCharBoundary_between a b⟩
  · rintro (rfl | ⟨k, rfl, h⟩)
    · exact isCharBoundary_zero _
    · simpa using h.append_left [c]

end ModalEdit.Text
