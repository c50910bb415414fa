import ModalEdit.Proofs.LineParts
import ModalEdit.Text.Trim

/-! Joining lines: the next line comes behind a line without its blanks and its break. Where lines end
with line feeds, the lines around them stay as they are, and the joint is not the end of the line if
there is something on the last of them. -/

namespace ModalEdit

open Text

namespace Text

variable {x y : Text}

def Blank (l : Text) : Prop := ∀ c ∈ l, Unicode.isWhitespace c = true

instance (l : Text) : Decidable l.Blank := List.decidableBAll (Unicode.isWhitespace · = true) l

lemma trimStart_eq_nil {l : Text} : trimStart l = [] ↔ l.Blank := by
  simp [Blank, trimStart]

def joined (x y : Text) : Text :=
  let rest := trimStart y
  if x ≠ [] ∧ rest ≠ [] ∧ rest.head? ≠ some ')' then x ++ ' ' :: rest else x ++ rest

lemma exists_joined (x y : Text) :
    ∃ u, joined x y = x ++ (u ++ trimStart y) ∧ Unbroken u ∧ (trimStart y = [] → u = []) := by
  unfold joined
  dsimp only
  split
  · rename_i h
    exact ⟨[' '], rfl, by decide, fun hy => absurd hy h.2.1⟩
  · exact ⟨[], rfl, unbroken_nil, fun _ => rfl⟩

lemma joined_unbroken (hx : Unbroken x) (hy : Unbroken y) : Unbroken (joined x y) := by
  have hrest : Unbroken (trimStart y) := hy.mono (List.dropWhile_subset _)
  obtain ⟨u, hj, hu, -⟩ := exists_joined x y
  rw [hj]
  exact unbroken_append.mpr ⟨hx, unbroken_append.mpr ⟨hu, hrest⟩⟩

end Text

namespace Surface

variable {s : Surface} {i n : Nat} {pre post : List Text} {r y e : Text}

lemma joinNext_text (h : rawLines s.text = pre ++ r :: (y ++ e) :: post)
    (hy : trimNewline (y ++ e) = y) :
    (s.joinNext pre.length).1.text =
      pre.flatten ++ (joined (trimNewline r) y ++ (e ++ post.flatten)) := by
  obtain ⟨hls, -⟩ := rawLines_behind h (List.cons_ne_nil _ _)
  obtain ⟨f, hf⟩ := trimNewline_beginning r
  have h' : rawLines s.text = (pre ++ [r]) ++ (y ++ e) :: post := by simpa using h
  have hline : s.lineAt pre.length = trimNewline r := lineAt_of_rawLines h
  have hnext : s.lineAt (pre.length + 1) = y := by
    have hl := lineAt_of_rawLines h'
    rw [hy, List.length_append] at hl
    exact hl
  have hwithin : WithinLine (trimNewline r) := hline ▸ WithinLine.of_lineAt s.text pre.length
  have hlen : s.lineLength pre.length = byteLength (trimNewline r) := congrArg byteLength hline
  generalize hblanks : y.takeWhile Unicode.isWhitespace = blanks
  have hrest : y.dropWhile Unicode.isWhitespace = trimStart y := rfl
  have hsplit : blanks ++ trimStart y = y := hblanks ▸ List.takeWhile_append_dropWhile
  -- the deletion takes the end of the line and the blanks behind it
  have herase : (s.erase ⟨pre.length, byteLength (trimNewline r)⟩
      ⟨pre.length + 1, byteLength blanks⟩).text =
        pre.flatten ++ (trimNewline r ++ (trimStart y ++ (e ++ post.flatten))) := by
    rw [← List.append_assoc]
    refine (delete_between (m := f ++ blanks) ?_ ?_ ?_).1
    · calc s.text = pre.flatten ++ (r ++ (y ++ e ++ post.flatten)) := eq_of_rawLines h
        _ = pre.flatten ++ (trimNewline r ++ f ++ (blanks ++ trimStart y ++ e ++ post.flatten)) := by
          rw [hf, hsplit]
        _ = _ := by simp
    · rw [offsetOf_of_rawLines h (Nat.le_refl _), byteLength_append]
    · have hle : byteLength blanks ≤ byteLength (trimNewline (y ++ e)) := by
        rw [hy, ← hsplit, byteLength_append]
        exact Nat.le_add_right ..
      have hstop := stopOffset_of_rawLines h' rfl hle
      rw [List.length_append, List.flatten_append, List.flatten_singleton] at hstop
      rw [← List.append_assoc, List.append_assoc _ _ f, hf, byteLength_append]
      exact hstop
  simp only [joinNext, joined, hnext, hlen, hblanks, hrest]
  have hpos : 0 < byteLength (trimNewline r) ↔ trimNewline r ≠ [] := by
    rw [Nat.pos_iff_ne_zero, ne_eq, byteLength_eq_zero]
  simp only [hpos]
  split
  · have hjoint := offsetOf_behind h (List.cons_ne_nil _ _) hwithin
      (w := trimStart y ++ (e ++ post.flatten)) (fun hw => head_of_trimNewline hls hw)
    rw [← herase] at hjoint
    rw [insert_between (by rw [herase, List.append_assoc]) hjoint]
    simp
  · rw [herase]
    simp

lemma joinNext_rawLines (h : rawLines s.text = pre ++ r :: (y ++ e) :: post)
    (hy : trimNewline (y ++ e) = y) :
    rawLines (s.joinNext pre.length).1.text =
      pre ++ rawLines (joined (trimNewline r) y ++ (e ++ post.flatten)) := by
  obtain ⟨hls, hbehind⟩ := rawLines_behind h (List.cons_ne_nil _ _)
  obtain ⟨u, hu, -⟩ := exists_joined (trimNewline r) y
  rw [joinNext_text h hy]
  refine hbehind _ fun hw => ?_
  rw [hu, List.append_assoc] at hw
  exact head_of_trimNewline hls hw

section unbroken

variable {x y : Text} {mid : List Text} {first last : Nat} (hs : ∀ l ∈ s.text.lines, Unbroken l)
include hs

lemma joinNext_lines (h : s.text.lines = pre ++ x :: y :: post) :
    (s.joinNext pre.length).1.text.lines = pre ++ joined x y :: post := by
  have hx : Unbroken x := hs x (by simp [h])
  have hy : Unbroken y := hs y (by simp [h])
  obtain ⟨pre', ls, hr, rfl, hls⟩ := List.map_eq_append_iff.mp h
  obtain ⟨r, ls', rfl, rfl, hls'⟩ := List.map_eq_cons_iff.mp hls
  obtain ⟨y', post', rfl, rfl, rfl⟩ := List.map_eq_cons_iff.mp hls'
  obtain ⟨e, he⟩ := trimNewline_beginning y'
  generalize hy' : trimNewline y' = y at he hy ⊢
  subst he
  have hend : trimNewline e = [] := by
    rwa [trimNewline_unbroken hy, List.append_right_eq_self] at hy'
  have hbelow : rawLines (y ++ (e ++ post'.flatten)) = (y ++ e) :: post' := by
    rw [← List.append_assoc]
    exact rawLines_below hr (List.cons_ne_nil _ _)
  have hz := joined_unbroken hx hy
  rw [Text.lines, List.length_map, joinNext_rawLines hr hy',
    rawLines_unbroken hz (rawLines_of_unbroken hy hbelow), List.map_append, List.map_cons,
    trimNewline_unbroken hz, hend, List.append_nil]

lemma joinTimes_lines (h : s.text.lines = pre ++ x :: (mid ++ post)) (p : Position) :
    (∀ l ∈ (joinTimes pre.length mid.length s p).1.text.lines, Unbroken l) ∧
      (joinTimes pre.length mid.length s p).1.text.lines = pre ++ mid.foldl joined x :: post ∧
      (mid ≠ [] → (joinTimes pre.length mid.length s p).2 =
        ⟨pre.length, byteLength (mid.dropLast.foldl joined x)⟩) := by
  induction mid generalizing s x p with
  | nil => exact ⟨hs, h, fun hne => absurd rfl hne⟩
  | cons y mid ih =>
    have hjoin : (s.joinNext pre.length).1.text.lines = pre ++ joined x y :: (mid ++ post) :=
      joinNext_lines hs h
    have hjoint : (s.joinNext pre.length).2 = ⟨pre.length, byteLength x⟩ := by
      have hline : s.lineAt pre.length = x := lineAt_of_lines h
      rw [← hline]
      rfl
    have hs' : ∀ l ∈ (s.joinNext pre.length).1.text.lines, Unbroken l := by
      rw [hjoin]
      rw [h] at hs
      simp only [List.mem_append, List.mem_cons] at hs ⊢
      rintro l (hl | rfl | hl)
      · exact hs l (.inl hl)
      · exact joined_unbroken (hs x (.inr (.inl rfl))) (hs y (.inr (.inr (.inl (.inl rfl)))))
      · exact hs l (.inr (.inr (hl.imp_left .inr)))
    obtain ⟨hu, hlines, hplace⟩ := ih hs' hjoin (s.joinNext pre.length).2
    refine ⟨hu, hlines, fun _ => ?_⟩
    cases mid with
    | nil => exact hjoint
    | cons y' mid => exact hplace (List.cons_ne_nil _ _)

end unbroken

section range

variable {first last : Nat}

def below (s : Surface) (i stop : Nat) : List Text := (s.text.lines.drop (i + 1)).take (stop - i)

lemma lines_around (hlt : first < last) (hl : last < s.lineCount) :
    s.text.lines = s.text.lines.take first ++ s.lineAt first ::
        (s.below first last ++ s.text.lines.drop (last + 1)) ∧
      (s.text.lines.take first).length = first ∧ (s.below first last).length = last - first := by
  have hlen : s.text.lines.length = s.lineCount := (lineCount_eq_length _).symm
  have hbound : first < s.text.lines.length := by omega
  refine ⟨?_, List.length_take_of_le (by omega), List.length_take_of_le ?_⟩
  · have hfirst : s.text.lines[first] = s.lineAt first :=
      (List.getElem?_eq_some_iff.mp (getElem?_lines (by simp only [lineCount] at *; omega))).2
    have hdrop : s.text.lines.drop (last + 1) =
        (s.text.lines.drop (first + 1)).drop (last - first) := by
      rw [List.drop_drop, show first + 1 + (last - first) = last + 1 by omega]
    rw [below, hdrop, List.take_append_drop, ← hfirst, ← List.drop_eq_getElem_cons,
      List.take_append_drop]
  · rw [List.length_drop]
    omega

lemma below_succ {n : Nat} (hl : first + n + 1 < s.lineCount) :
    s.below first (first + n + 1) =
      (s.text.lines.drop (first + 1)).take n ++ [s.lineAt (first + n + 1)] := by
  have hline : (s.text.lines.drop (first + 1))[n]? = some (s.lineAt (first + n + 1)) := by
    rw [List.getElem?_drop, show first + 1 + n = first + n + 1 by omega]
    exact getElem?_lines hl
  rw [below, show first + n + 1 - first = n + 1 by omega, List.take_add_one, hline]
  rfl

def JoinsOn (s : Surface) (first last : Nat) : Prop :=
  first < min last s.lastLine ∧ (∀ l ∈ s.text.lines, Unbroken l) ∧
    ¬(s.lineAt (min last s.lastLine)).Blank

instance (s : Surface) (first last : Nat) : Decidable (s.JoinsOn first last) :=
  inferInstanceAs (Decidable (_ ∧ _))

lemma JoinsOn.within (h : s.JoinsOn first last) :
    (s.join first last).2.byte < (s.join first last).1.lineLength (s.join first last).2.line := by
  obtain ⟨hlt, hs, hlast⟩ := h
  have hstop : min last s.lastLine < s.lineCount := by
    have hpos := lineCount_pos s.text
    simp only [lastLine, lineCount]
    omega
  rw [join]
  generalize min last s.lastLine = stop at hlt hlast hstop ⊢
  obtain ⟨n, rfl⟩ : ∃ n, stop = first + n + 1 := ⟨stop - first - 1, by omega⟩
  obtain ⟨hl, hpre, hmid⟩ := lines_around hlt hstop
  obtain ⟨-, hlines, hplace⟩ := joinTimes_lines hs hl ⟨first, s.lineLength first⟩
  rw [hpre, hmid, below_succ hstop] at hlines hplace
  rw [List.foldl_append, List.foldl_cons, List.foldl_nil] at hlines
  rw [List.dropLast_concat] at hplace
  generalize ((s.text.lines.drop (first + 1)).take n).foldl joined (s.lineAt first) = x
    at hlines hplace
  generalize joinTimes first _ s _ = j at hlines hplace ⊢
  have hline : j.1.text.lineAt first = joined x (s.lineAt (first + n + 1)) := by
    simpa only [hpre] using lineAt_of_lines hlines
  obtain ⟨u, hu, -⟩ := exists_joined x (s.lineAt (first + n + 1))
  have hpos : 0 < byteLength (trimStart (s.lineAt (first + n + 1))) :=
    Nat.pos_of_ne_zero (mt byteLength_eq_zero.mp (mt trimStart_eq_nil.mp hlast))
  rw [hplace (List.concat_ne_nil _ _)]
  change byteLength x < byteLength (j.1.text.lineAt first)
  rw [hline, hu, byteLength_append, byteLength_append]
  omega

end range

end Surface

end ModalEdit
