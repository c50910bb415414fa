import ModalEdit.Proofs.WordPlaces

/-! Display columns of a line and the clusters that cover them. The byte of a column is the start of
its cluster only if that begins in the column; within a wide cluster it is the start of the next. -/

namespace ModalEdit.Grapheme

open Text
open Unicode (clusters)

variable {l g : Text} {a c gs : List Text} {b n k col : Nat}

lemma mem_starts_iff :
    n ∈ starts l ↔ ∃ a g c, clusters l = a ++ g :: c ∧ byteLength a.flatten = n := by
  suffices h : ∀ k gs, n ∈ startsFrom k gs ↔
      ∃ a g c, gs = a ++ g :: c ∧ k + byteLength a.flatten = n by
    simpa [starts] using h 0 (clusters l)
  intro k gs
  constructor
  · intro hn
    induction gs generalizing k with
    | nil => cases hn
    | cons g gs ih =>
      rcases List.mem_cons.mp hn with rfl | hn
      · exact ⟨[], g, gs, rfl, rfl⟩
      · obtain ⟨a, g', c, rfl, rfl⟩ := ih _ hn
        exact ⟨g :: a, g', c, rfl, by simp [Nat.add_assoc]⟩
  · rintro ⟨a, g, c, rfl, rfl⟩
    rw [startsFrom_append]
    exact List.mem_append_right _ List.mem_cons_self

lemma isBoundary_iff : IsBoundary l n ↔ n ∈ starts l ∨ n = byteLength l := by
  rw [mem_starts_iff]
  constructor
  · rintro ⟨a, c, h, rfl⟩
    cases c with
    | nil =>
      rw [List.append_nil] at h
      exact .inr (byteLength_of_clusters h)
    | cons g c => exact .inl ⟨a, g, c, h, rfl⟩
  · rintro (⟨a, g, c, h, rfl⟩ | rfl)
    · exact ⟨a, g :: c, h, rfl⟩
    · exact isBoundary_length l

def columns : List Text → Nat
  | [] => 0
  | g :: gs => width g + columns gs

def lineWidth (l : Text) : Nat := columns (clusters l)

@[simp] lemma columns_nil : columns [] = 0 := rfl

@[simp] lemma columns_cons (g : Text) (gs : List Text) :
    columns (g :: gs) = width g + columns gs := rfl

@[simp] lemma columns_append (a c : List Text) : columns (a ++ c) = columns a + columns c := by
  induction a with
  | nil => simp
  | cons g a ih => rw [List.cons_append, columns_cons, columns_cons, ih, Nat.add_assoc]

lemma width_pos (g : Text) : 0 < width g := Nat.le_max_left ..

lemma columnOf_of_clusters (h : clusters l = a ++ c) :
    columnOf l (byteLength a.flatten) = columns a := by
  suffices hn : ∀ n, (∀ g ∈ a, g ≠ []) →
      columnsBefore (n + byteLength a.flatten) n (a ++ c) = columns a by
    simpa [columnOf, h] using hn 0 (ne_nil_of_clusters h)
  intro n ha
  clear h
  induction a generalizing n with
  | nil => cases c <;> simp [columnsBefore]
  | cons g a ih =>
    obtain ⟨hg, ha⟩ := List.forall_mem_cons.mp ha
    have hpos := Nat.pos_of_ne_zero (mt byteLength_eq_zero.mp hg)
    have hlt : n < n + byteLength (g :: a).flatten := by
      rw [List.flatten_cons, byteLength_append]
      omega
    rw [List.cons_append, columnsBefore, if_pos hlt, List.flatten_cons, byteLength_append,
      ← Nat.add_assoc, ih _ ha, columns_cons]

@[simp] lemma columnByte_zero (n : Nat) (gs : List Text) : columnByte n 0 gs = n := by
  cases gs <;> rfl

lemma columnByte_append (n k : Nat) (a c : List Text) :
    columnByte n (columns a + k) (a ++ c) = columnByte (n + byteLength a.flatten) k c := by
  induction a generalizing n with
  | nil => simp
  | cons g a ih =>
    have hpos := width_pos g
    rw [List.cons_append, columnByte, columns_cons, if_neg (by omega),
      show width g + columns a + k - width g = columns a + k by omega, ih, List.flatten_cons,
      byteLength_append, Nat.add_assoc]

lemma columnByte_within (hk : k < width g) (n : Nat) (c : List Text) :
    columnByte n k (g :: c) = if k = 0 then n else n + byteLength g := by
  rw [columnByte, show k - width g = 0 by omega, columnByte_zero]

lemma exists_columns_le (h : col < columns gs) :
    ∃ a g c, gs = a ++ g :: c ∧ columns a ≤ col ∧ col < columns a + width g := by
  induction gs generalizing col with
  | nil => exact absurd h (Nat.not_lt_zero col)
  | cons g gs ih =>
    by_cases hg : col < width g
    · exact ⟨[], g, gs, rfl, Nat.zero_le col, by simpa using hg⟩
    · rw [columns_cons] at h
      have hrest : col - width g < columns gs := by omega
      obtain ⟨a, g', c, rfl, hle, hlt⟩ := ih hrest
      exact ⟨g :: a, g', c, rfl, by rw [columns_cons]; omega, by rw [columns_cons]; omega⟩

def Covers (l : Text) (col b : Nat) : Prop :=
  b ∈ starts l ∧ columnOf l b ≤ col ∧ col < columnOf l (nextBoundary l b)

instance (l : Text) (col b : Nat) : Decidable (Covers l col b) :=
  inferInstanceAs (Decidable (_ ∧ _))

lemma covers_of_clusters (h : clusters l = a ++ g :: c) :
    Covers l col (byteLength a.flatten) ↔ columns a ≤ col ∧ col < columns a + width g := by
  have hnext : clusters l = (a ++ [g]) ++ c := by rw [h, List.append_cons]
  have hmem : byteLength a.flatten ∈ starts l := mem_starts_iff.mpr ⟨a, g, c, h, rfl⟩
  rw [Covers, nextBoundary_of_clusters h, List.take_succ_cons, List.take_zero,
    columnOf_of_clusters h, columnOf_of_clusters hnext, columns_append, columns_cons, columns_nil,
    Nat.add_zero]
  exact and_iff_right hmem

lemma exists_covers (h : col < lineWidth l) : ∃ b, Covers l col b := by
  obtain ⟨a, g, c, hl, hcol⟩ := exists_columns_le h
  exact ⟨_, (covers_of_clusters hl).mpr hcol⟩

lemma Covers.byteAtColumn_eq (h : Covers l col b) :
    byteAtColumn l col = if columnOf l b = col then b else nextBoundary l b := by
  obtain ⟨a, g, c, hl, rfl⟩ := mem_starts_iff.mp h.1
  obtain ⟨hle, hlt⟩ := (covers_of_clusters hl).mp h
  obtain ⟨k, rfl⟩ := Nat.exists_eq_add_of_le hle
  rw [byteAtColumn, hl, columnByte_append, columnByte_within (by omega), Nat.zero_add,
    columnOf_of_clusters hl, nextBoundary_of_clusters hl]
  simp

lemma byteAtColumn_of_le (h : lineWidth l ≤ col) : byteAtColumn l col = byteLength l := by
  obtain ⟨k, rfl⟩ := Nat.exists_eq_add_of_le h
  have hend := columnByte_append 0 k (clusters l) []
  rwa [List.append_nil, Nat.zero_add, Unicode.clusters_flatten] at hend

lemma byteAtColumn_isBoundary (l : Text) (col : Nat) : IsBoundary l (byteAtColumn l col) := by
  rcases Nat.lt_or_ge col (lineWidth l) with hlt | hge
  · obtain ⟨b, hb⟩ := exists_covers hlt
    obtain ⟨a, g, c, hl, rfl⟩ := mem_starts_iff.mp hb.1
    rw [hb.byteAtColumn_eq, nextBoundary_of_clusters hl]
    split
    · exact ⟨a, g :: c, hl, rfl⟩
    · exact ⟨a ++ [g], c, by rw [hl, List.append_cons], rfl⟩
  · exact byteAtColumn_of_le hge ▸ isBoundary_length l

/-- Every column of a line is covered by a cluster. Its byte is the start of that cluster if the
cluster begins in the column, else the start of the one behind; columns behind the line have the
line's length. The column of a boundary leads back to it. -/
theorem byteAtColumn_covers (l : Text) (col : Nat) :
    (col < lineWidth l → ∃ b, Covers l col b) ∧
      (∀ b, Covers l col b →
        byteAtColumn l col = if columnOf l b = col then b else nextBoundary l b) ∧
      (lineWidth l ≤ col → byteAtColumn l col = byteLength l) ∧
      ∀ b, IsBoundary l b → byteAtColumn l (columnOf l b) = b := by
  refine ⟨exists_covers, fun b hb => hb.byteAtColumn_eq, byteAtColumn_of_le, ?_⟩
  rintro b ⟨a, c, h, rfl⟩
  have hstart := columnByte_append 0 0 a c
  rwa [Nat.add_zero, columnByte_zero, Nat.zero_add, ← h, ← columnOf_of_clusters h] at hstart

theorem sample_byteAtColumn_covers :
    let l := ['a', '漢', 'b']
    lineWidth l = 4 ∧ Covers l 1 1 ∧ byteAtColumn l 1 = 1 ∧ Covers l 2 1 ∧ byteAtColumn l 2 = 4 ∧
      byteAtColumn l 4 = 5 ∧ IsBoundary l 4 ∧ byteAtColumn l (columnOf l 4) = 4 := by
  intro l
  have hl : clusters l = [['a']] ++ ['漢'] :: [['b']] := by decide +kernel
  have ha : columns [['a']] = 1 := by decide +kernel
  have hg : width ['漢'] = 2 := by decide +kernel
  have hwidth : lineWidth l = 4 := by
    have hb : columns [['b']] = 1 := by decide +kernel
    rw [lineWidth, hl, columns_append, ha, columns_cons, hg, hb]
  have hcovers (col : Nat) : Covers l col 1 ↔ 1 ≤ col ∧ col < 1 + 2 := by
    rw [← ha, ← hg]
    exact covers_of_clusters hl
  have hstart : columnOf l 1 = 1 := (columnOf_of_clusters hl).trans ha
  have hone := (byteAtColumn_covers l 1).2.1 1 ((hcovers 1).mpr (by decide))
  have htwo := (byteAtColumn_covers l 2).2.1 1 ((hcovers 2).mpr (by decide))
  have hnext : nextBoundary l 1 = 4 := nextBoundary_of_clusters hl
  have hb : IsBoundary l 4 := ⟨[['a'], ['漢']], [['b']], hl, rfl⟩
  rw [if_pos hstart] at hone
  rw [if_neg (hstart.trans_ne (by decide)), hnext] at htwo
  exact ⟨hwidth, (hcovers 1).mpr (by decide), hone, (hcovers 2).mpr (by decide), htwo,
    (byteAtColumn_covers l 4).2.2.1 (Nat.le_of_eq hwidth), hb,
    (byteAtColumn_covers l 4).2.2.2 4 hb⟩

end ModalEdit.Grapheme
