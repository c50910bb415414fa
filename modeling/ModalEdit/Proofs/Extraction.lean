import ModalEdit.Proofs.Removal

/-! What a deletion gives back is what the text loses: between two places of the text, and of every
row of a block the clusters in its columns. -/

namespace ModalEdit

open Text

namespace Grapheme

variable {gs : List Text} {l : Text} {n k col left right : Nat} {x : Nat × Text}

def columnsFrom : Nat → List Text → List (Nat × Text)
  | _, [] => []
  | n, g :: gs => (n, g) :: columnsFrom (n + width g) gs

def part (p : Nat → Prop) [DecidablePred p] (l : Text) : Text :=
  ((columnsFrom 0 (Unicode.clusters l)).filter (p ·.1)).flatMap (·.2)

def inColumns (left right : Nat) (l : Text) : Text := part (fun n => left ≤ n ∧ n ≤ right) l

def offColumns (left right : Nat) (l : Text) : Text := part (fun n => ¬(left ≤ n ∧ n ≤ right)) l

lemma le_of_mem_columnsFrom (hx : x ∈ columnsFrom n gs) : n ≤ x.1 := by
  induction gs generalizing n with
  | nil => cases hx
  | cons g gs ih =>
    rcases List.mem_cons.mp hx with rfl | hx
    · exact Nat.le_refl n
    · exact Nat.le_trans (Nat.le_add_right n _) (ih hx)

lemma flatMap_columnsFrom (n : Nat) (gs : List Text) :
    (columnsFrom n gs).flatMap (·.2) = gs.flatten := by
  induction gs generalizing n with
  | nil => rfl
  | cons g gs ih => rw [columnsFrom, List.flatMap_cons, ih, List.flatten_cons]

variable {p q r : Nat → Prop} [DecidablePred p] [DecidablePred q] [DecidablePred r]

lemma filter_columnsFrom_split (hq : ∀ n, q n ↔ p n ∧ n < col) (hr : ∀ n, r n ↔ p n ∧ col ≤ n)
    (n : Nat) (gs : List Text) :
    (columnsFrom n gs).filter (p ·.1) =
      (columnsFrom n gs).filter (q ·.1) ++ (columnsFrom n gs).filter (r ·.1) := by
  induction gs generalizing n with
  | nil => rfl
  | cons g gs ih =>
    by_cases hlt : n < col
    · have hn : (q n ↔ p n) ∧ ¬r n := by
        rw [hq, hr]
        exact ⟨and_iff_left hlt, fun h => Nat.not_le_of_lt hlt h.2⟩
      simp only [columnsFrom, List.filter_cons, hn, decide_false, ih]
      split <;> simp
    · -- from here on no cluster begins before the column
      have hnone : (columnsFrom n (g :: gs)).filter (q ·.1) = [] := by
        refine List.filter_eq_nil_iff.mpr fun x hx => ?_
        have hle := le_of_mem_columnsFrom hx
        simp only [hq, decide_eq_true_eq, not_and]
        omega
      rw [hnone, List.nil_append]
      refine List.filter_congr fun x hx => ?_
      have hle := le_of_mem_columnsFrom hx
      have hcol : col ≤ x.1 := by omega
      simp only [hr, hcol, and_true]

lemma part_split (col : Nat) (hq : ∀ n, q n ↔ p n ∧ n < col) (hr : ∀ n, r n ↔ p n ∧ col ≤ n)
    (l : Text) :
    part p l = part q l ++ part r l := by
  rw [part, filter_columnsFrom_split hq hr, List.flatMap_append]
  rfl

lemma part_all (hp : ∀ n, p n) (l : Text) : part p l = l := by
  have hall : (columnsFrom 0 (Unicode.clusters l)).filter (p ·.1) = _ :=
    List.filter_eq_self.mpr fun x _ => decide_eq_true (hp x.1)
  rw [part, hall, flatMap_columnsFrom, Unicode.clusters_flatten]

lemma filter_columnsFrom_before (hle : col ≤ n) (gs : List Text) :
    (columnsFrom n gs).filter (·.1 < col) = [] := by
  refine List.filter_eq_nil_iff.mpr fun x hx => ?_
  have hn := le_of_mem_columnsFrom hx
  simp only [decide_eq_true_eq]
  omega

lemma columnByte_eq (k col n : Nat) (gs : List Text) :
    columnByte k col gs =
      k + byteLength (((columnsFrom n gs).filter (·.1 < n + col)).flatMap (·.2)) := by
  induction gs generalizing k col n with
  | nil => rfl
  | cons g gs ih =>
    rw [columnByte]
    split
    · rename_i hz
      rw [hz, filter_columnsFrom_before (Nat.le_of_eq (Nat.add_zero n))]
      rfl
    · have hn : n < n + col := by omega
      simp only [columnsFrom, List.filter_cons, hn, decide_true, if_true, List.flatMap_cons,
        byteLength_append]
      rw [ih _ _ (n + width g), Nat.add_assoc]
      by_cases hle : width g ≤ col
      · rw [show n + width g + (col - width g) = n + col by omega]
      · rw [filter_columnsFrom_before (by omega), filter_columnsFrom_before (by omega)]

lemma byteAtColumn_eq (l : Text) (col : Nat) :
    byteAtColumn l col = byteLength (part (· < col) l) := by
  rw [byteAtColumn, columnByte_eq 0 col 0, Nat.zero_add, part]
  simp only [Nat.zero_add]

lemma exists_columns (hle : left ≤ right) (l : Text) :
    ∃ u v, l = u ++ (inColumns left right l ++ v) ∧ offColumns left right l = u ++ v ∧
      byteLength u = byteAtColumn l left ∧
      byteLength (u ++ inColumns left right l) = byteAtColumn l (right + 1) := by
  have hin : part (· < right + 1) l = part (· < left) l ++ inColumns left right l :=
    part_split left (by omega) (by omega) l
  have hoff : offColumns left right l = part (· < left) l ++ part (right < ·) l :=
    part_split left (by omega) (by omega) l
  have hall : part (fun _ => True) l = part (· < right + 1) l ++ part (right < ·) l :=
    part_split (right + 1) (by simp) (fun n => by rw [true_and, Nat.succ_le_iff]) l
  rw [part_all fun _ => trivial] at hall
  refine ⟨part (· < left) l, part (right < ·) l, ?_, hoff, (byteAtColumn_eq ..).symm, ?_⟩
  · rwa [hin, List.append_assoc] at hall
  · rw [← hin, byteAtColumn_eq]

end Grapheme

open Grapheme

namespace Span

variable {s : Surface} {t : Text} {left right i : Nat}

def rowSegment (t : Text) (left right i : Nat) : Segment :=
  ⟨i, byteAtColumn (t.lineAt i) left,
    max (byteAtColumn (t.lineAt i) left) (byteAtColumn (t.lineAt i) (right + 1))⟩

lemma segments_block (t : Text) (first last left right : Nat) :
    (block first last left right).segments t =
      (lineRange first last).map (rowSegment t left right) := rfl

lemma exists_row (hle : left ≤ right) (t : Text) (i : Nat) :
    ∃ u v, t.lineAt i = u ++ (inColumns left right (t.lineAt i) ++ v) ∧
      offColumns left right (t.lineAt i) = u ++ v ∧
      byteLength u = (rowSegment t left right i).start ∧
      byteLength (u ++ inColumns left right (t.lineAt i)) = (rowSegment t left right i).stop := by
  obtain ⟨u, v, hl, hoff, hu, hm⟩ := exists_columns hle (t.lineAt i)
  refine ⟨u, v, hl, hoff, hu, ?_⟩
  rw [rowSegment, ← hu, ← hm, byteLength_append, Nat.max_eq_right (Nat.le_add_right ..)]

lemma rowSegment_text (hle : left ≤ right) (t : Text) (i : Nat) :
    (rowSegment t left right i).text t = inColumns left right (t.lineAt i) := by
  obtain ⟨u, v, hl, -, hu, hm⟩ := exists_row hle t i
  rw [Segment.text, ← hu, ← hm]
  change sliceBytes _ _ (t.lineAt i) = _
  generalize inColumns left right (t.lineAt i) = m at hl ⊢
  rw [hl, sliceBytes_between]

lemma offColumns_unbroken {l : Text} (hle : left ≤ right) (hl : Unbroken l) :
    Unbroken (offColumns left right l) := by
  obtain ⟨u, v, hl', hoff, -⟩ := exists_columns hle l
  rw [hl', unbroken_append, unbroken_append] at hl
  rw [hoff, unbroken_append]
  exact ⟨hl.1, hl.2.2⟩

lemma cut_row (hs : ∀ l ∈ s.text.lines, Unbroken l) (hle : left ≤ right) (hi : i < s.lineCount)
    (ht : s.text.lineAt i = t.lineAt i) :
    (cut (rowSegment t left right i) s).text.lines =
      s.text.lines.set i (offColumns left right (t.lineAt i)) := by
  obtain ⟨u, v, hl, hoff, hu, hm⟩ := exists_row hle t i
  obtain ⟨a, b, hab, h⟩ := exists_around hs hi
  have hx := lineAt_unbroken hs i
  have hy := offColumns_unbroken hle (ht ▸ hx)
  have hset := h.lines_set hx hy
  rw [← hab] at hset
  rw [← hset, hoff, List.append_assoc]
  rw [ht] at hx hab
  generalize inColumns left right (t.lineAt i) = m at hl hm
  rw [hl] at hx hab
  rw [cut_text (g := rowSegment t left right i) h hx hu hm (by simpa using hab)]

lemma foldr_cut_rows (hs : ∀ l ∈ s.text.lines, Unbroken l) (hle : left ≤ right) (is : List Nat)
    (hn : is.Nodup) (his : ∀ i ∈ is, i < s.lineCount) :
    ((is.map (rowSegment s.text left right)).foldr cut s).text.lines =
      s.text.lines.mapIdx fun i l => if i ∈ is then offColumns left right l else l := by
  induction is with
  | nil => exact List.ext_getElem? fun k => by simp
  | cons i is ih =>
    obtain ⟨hni, hn⟩ := List.nodup_cons.mp hn
    obtain ⟨hi, his⟩ := List.forall_mem_cons.mp his
    have hrest := ih hn his
    rw [List.map_cons, List.foldr_cons]
    generalize (is.map (rowSegment s.text left right)).foldr cut s = s' at hrest ⊢
    have hs' : ∀ l ∈ s'.text.lines, Unbroken l := by
      rw [hrest]
      exact unbroken_mapIdx hs (fun _ => offColumns_unbroken hle) (· ∈ is)
    have hcount : s'.lineCount = s.lineCount := by
      rw [Surface.lineCount, Surface.lineCount, lineCount_eq_length, hrest, List.length_mapIdx,
        lineCount_eq_length]
    have hline : s'.text.lineAt i = s.text.lineAt i := by
      simp [lineAt, line?, hrest, hni]
    rw [cut_row hs' hle (hcount ▸ hi) hline, hrest]
    refine List.ext_getElem? fun k => ?_
    simp only [List.getElem?_set, List.getElem?_mapIdx, List.length_mapIdx, List.mem_cons]
    by_cases hk : k = i
    · subst hk
      have hlt : k < s.text.lines.length := by rwa [← lineCount_eq_length]
      simp [hlt, lineAt, line?]
    · simp [hk, Ne.symm hk]

lemma erase_block_lines {first last : Nat} (hs : ∀ l ∈ s.text.lines, Unbroken l)
    (hl : last < s.lineCount) (hle : left ≤ right) :
    ((block first last left right).erase s).text.lines =
      s.text.lines.mapIdx fun i l =>
        if first ≤ i ∧ i ≤ last then offColumns left right l else l := by
  have h := foldr_cut_rows hs hle (lineRange first last) (List.nodup_range' ..) fun i hi =>
    Nat.lt_of_le_of_lt (mem_lineRange.mp hi).2 hl
  simp only [mem_lineRange] at h
  exact h

def OnBoundary (t : Text) (p : Position) : Prop := Lands t p ∨ t.lineLength p.line < p.byte

instance (t : Text) (p : Position) : Decidable (OnBoundary t p) :=
  inferInstanceAs (Decidable (_ ∨ _))

lemma OnBoundary.min {p : Position} (h : OnBoundary t p) :
    IsCharBoundary (t.lineAt p.line) (min p.byte (t.lineLength p.line)) := by
  rcases h with h | h
  · have hle : p.byte ≤ t.lineLength p.line := h.le
    rwa [Nat.min_eq_left hle]
  · exact min_boundary (Nat.le_of_lt h)

lemma chars_min {start stop : Position} (hl : start.line < s.lineCount) :
    (chars ⟨start.line, min start.byte (s.text.lineLength start.line)⟩ stop).delete s =
      (chars start stop).delete s := by
  have ho := offsetOf_min (t := s.text) (k := start.byte) hl
  refine Prod.ext ?_ ?_
  · change Surface.erase s _ stop = Surface.erase s start stop
    simp only [Surface.erase, Surface.delete, ho]
  · change (chars _ stop).textOf s.text = (chars start stop).textOf s.text
    simp only [textOf, segments]
    congr 3
    refine List.map_congr_left fun i _ => ?_
    by_cases hi : i = start.line
    · simp [hi]
    · simp only [if_neg hi]

/-- The text of a region of characters goes from between two places of the text, and that of a
block from its rows, which lose the clusters in its columns. -/
theorem delete_returns_removed (hs : FeedsOnly s.text) :
    (∀ start stop : Position, start ≤ stop → stop.line < s.lineCount → OnBoundary s.text start →
      OnBoundary s.text stop →
      ∃ x y, s.text = x ++ (((chars start stop).delete s).2 ++ y) ∧
        ((chars start stop).delete s).1.text = x ++ y ∧
        byteLength x = s.text.offsetOf start) ∧
    (∀ first last left right : Nat, first ≤ last → last < s.lineCount → left ≤ right →
      ((block first last left right).delete s).2 =
          joinLines ((lineRange first last).map fun i => inColumns left right (s.lineAt i)) ∧
        ((block first last left right).delete s).1.text.lines =
          s.text.lines.mapIdx fun i l =>
            if first ≤ i ∧ i ≤ last then offColumns left right l else l) := by
  refine ⟨fun start stop hle hl hstart hstop => ?_, fun first last left right _ hl hle => ?_⟩
  · have hline : start.line < s.lineCount := by
      rw [Position.le_def] at hle
      omega
    have hv : Valid s.text ⟨start.line, min start.byte (s.text.lineLength start.line)⟩ :=
      ⟨hline, hstart.min⟩
    have hle' : (⟨start.line, min start.byte (s.text.lineLength start.line)⟩ : Position) ≤ stop := by
      rw [Position.le_def] at hle ⊢
      dsimp only
      omega
    obtain ⟨x, y, ht, ht', hx⟩ :=
      erase_chars_between _ stop hs.unbroken hv hle' hl hstop.min
    rw [offsetOf_min hline] at hx
    rw [← chars_min hline]
    exact ⟨x, y, ht, ht', hx.symm⟩
  · refine ⟨?_, erase_block_lines hs.unbroken hl hle⟩
    change joinLines (((block first last left right).segments s.text).map _) = _
    rw [segments_block, List.map_map]
    congr 2
    funext i
    exact rowSegment_text hle s.text i

theorem sample_delete_returns_removed :
    let s : Surface := { name := [], text := "abc\nd\nx漢z".toList }
    (∃ x y, s.text = x ++ ("c\nd\n".toList ++ y) ∧
      ((chars ⟨0, 2⟩ ⟨1, 4⟩).delete s).1.text = x ++ y ∧ byteLength x = 2) ∧
    ((block 0 2 1 2).delete s).2 = "bc\n\n漢".toList ∧
      ((block 0 2 1 2).delete s).1.text.lines = ["a".toList, "d".toList, "xz".toList] := by
  intro s
  obtain ⟨hchars, hblock⟩ := delete_returns_removed (s := s) (by decide)
  obtain ⟨hpieces, hrows⟩ := hblock 0 2 1 2 (by decide) (by decide) (by decide)
  refine ⟨hchars ⟨0, 2⟩ ⟨1, 4⟩ ?_ ?_ ?_ ?_, hpieces.trans ?_, hrows.trans ?_⟩ <;> decide +kernel

end Span

end ModalEdit
