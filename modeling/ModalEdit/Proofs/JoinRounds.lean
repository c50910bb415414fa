import ModalEdit.Proofs.Joining

/-! Joining lines whatever breaks them. How many rounds there are is set beforehand, but one round can
take two lines away: a blank line goes with its break if that is no line feed. A round without a next
line then empties the last line, so that what was joined is lost. -/

namespace ModalEdit

open Text

namespace Text

variable {l r x y e : Text} {pre post : List Text}

def visible (t : Text) : Text := t.filter fun c => !Unicode.isWhitespace c

@[simp] lemma visible_append (a b : Text) : visible (a ++ b) = visible a ++ visible b :=
  List.filter_append ..

lemma visible_eq_nil : visible l = [] ↔ l.Blank := by
  simp [visible, Blank]

@[simp] lemma visible_trimStart (l : Text) : visible (trimStart l) = visible l := by
  have hl : visible (l.takeWhile Unicode.isWhitespace) = [] :=
    visible_eq_nil.mpr fun c hc => List.mem_takeWhile_imp hc
  calc visible (trimStart l)
      = visible (l.takeWhile Unicode.isWhitespace) ++ visible (trimStart l) := by rw [hl]; rfl
    _ = visible l := by rw [← visible_append, trimStart, List.takeWhile_append_dropWhile]

@[simp] lemma visible_trimNewline (l : Text) : visible (trimNewline l) = visible l :=
  filter_trimNewline (by decide) l

@[simp] lemma visible_joined (x y : Text) : visible (joined x y) = visible x ++ visible y := by
  have hspace : visible [' '] = [] := by decide
  unfold joined
  dsimp only
  split
  · rw [← List.singleton_append, visible_append, visible_append, hspace, visible_trimStart]
    rfl
  · rw [visible_append, visible_trimStart]

/-- A line of blanks that goes with its break when it is joined. -/
def Vanishes (l : Text) : Prop := l.Blank ∧ l.getLast? ≠ some '\n'

instance (l : Text) : Decidable l.Vanishes := inferInstanceAs (Decidable (_ ∧ _))

def Lasts (n : Nat) (ls : List Text) : Prop :=
  n ≤ ls.length ∧ ∀ l ∈ ls.take (n - 1), ¬l.Vanishes

namespace Lasts

variable {n : Nat} {ls : List Text}

lemma exists_cons (h : Lasts (n + 1) ls) : ∃ l post, ls = l :: post :=
  List.exists_cons_of_length_pos (Nat.lt_of_lt_of_le (Nat.succ_pos n) h.1)

lemma head (h : Lasts (n + 2) (l :: ls)) : ¬l.Vanishes := h.2 l List.mem_cons_self

lemma tail (h : Lasts (n + 2) (l :: ls)) : Lasts (n + 1) ls :=
  ⟨Nat.le_of_succ_le_succ h.1, fun l' hl' => h.2 l' (List.mem_cons_of_mem l hl')⟩

lemma cons (h : Lasts (n + 1) ls) (hl : ¬l.Vanishes) : Lasts (n + 1) (l :: ls) := by
  refine ⟨Nat.le_succ_of_le h.1, fun l' hl' => ?_⟩
  cases n with
  | zero => cases hl'
  | succ n =>
    rcases List.mem_cons.mp hl' with rfl | hl'
    · exact hl
    · exact h.2 l' (List.take_subset_take_left _ (Nat.le_succ n) hl')

end Lasts

lemma not_vanishes_rest {u : Text} (hy : trimNewline (y ++ e) = y) (hl : ¬(y ++ e).Vanishes)
    (hu : trimStart y = [] → u = []) :
    trimStart y ++ e ≠ [] ∧ ¬(u ++ (trimStart y ++ e)).Vanishes := by
  have hend : e = [] ∨ e = ['\n'] := by
    rcases trimNewline_cases (y ++ e) with ⟨-, h⟩ | ⟨-, h⟩ <;> rw [hy] at h
    · exact .inr (List.append_cancel_left h)
    · exact .inl (List.append_right_eq_self.mp h)
  by_cases hrest : trimStart y = []
  · have hblank : y.Blank := trimStart_eq_nil.mp hrest
    rw [hrest, hu hrest]
    rcases hend with rfl | rfl
    · rw [List.append_nil] at hl hy
      refine absurd ⟨hblank, fun hlast => ?_⟩ hl
      rcases trimNewline_cases y with ⟨-, h⟩ | ⟨h, -⟩
      · rw [hy] at h
        exact List.cons_ne_nil _ _ (List.append_right_eq_self.mp h.symm)
      · exact h hlast
    · exact ⟨List.cons_ne_nil _ _, fun hv => hv.2 rfl⟩
  · refine ⟨fun h => hrest (List.append_eq_nil_iff.mp h).1, fun hv => hrest ?_⟩
    have hb : (trimStart y).Blank := fun c hc => hv.1 c (by simp [hc])
    rwa [← visible_eq_nil, visible_trimStart, visible_eq_nil, ← trimStart_eq_nil] at hb

lemma rawLines_joined (hx : WithinLine x) (h : rawLines (y ++ e ++ post.flatten) = (y ++ e) :: post)
    (hy : trimNewline (y ++ e) = y) (hl : ¬(y ++ e).Vanishes) :
    ∃ r ls, rawLines (joined x y ++ (e ++ post.flatten)) = r :: ls ∧
      (ls = post ∨ ∃ l, ls = l :: post ∧ ¬l.Vanishes) := by
  obtain ⟨u, hj, hunbroken, hu⟩ := exists_joined x y
  obtain ⟨hne, hv⟩ := not_vanishes_rest hy hl hu
  have hsplit : y.takeWhile Unicode.isWhitespace ++ trimStart y = y := List.takeWhile_append_dropWhile
  have hrest : rawLines (trimStart y ++ e ++ post.flatten) = (trimStart y ++ e) :: post := by
    refine rawLines_rest (a := y.takeWhile Unicode.isWhitespace) ?_ hne
    rwa [← List.append_assoc, ← List.append_assoc, hsplit]
  have hw := hx.rawLines_append (rawLines_unbroken hunbroken hrest)
  have htext : joined x y ++ (e ++ post.flatten) =
      x ++ (u ++ (trimStart y ++ e ++ post.flatten)) := by
    rw [hj]
    simp
  rw [htext]
  rcases hw with hw | hw
  · exact ⟨_, _, hw, .inl rfl⟩
  · exact ⟨_, _, hw, .inr ⟨_, rfl, hv⟩⟩

end Text

namespace Surface

variable {s : Surface} {i n : Nat} {pre ls : List Text} {r : Text}

def RunsOut (i : Nat) : Nat → Surface → Prop
  | 0, _ => False
  | n + 1, s => s.lineCount ≤ i + 1 ∨ RunsOut i n (s.joinNext i).1

instance decidableRunsOut (i : Nat) : (n : Nat) → (s : Surface) → Decidable (RunsOut i n s)
  | 0, _ => inferInstanceAs (Decidable False)
  | n + 1, s =>
    have := decidableRunsOut i n (s.joinNext i).1
    inferInstanceAs (Decidable (_ ∨ _))

lemma rawLines_around (hi : i + 1 < s.lineCount) :
    ∃ pre r y e post, rawLines s.text = pre ++ r :: (y ++ e) :: post ∧ pre.length = i ∧
      trimNewline (y ++ e) = y := by
  have hlen : i + 1 < (rawLines s.text).length := hi
  obtain ⟨e, he⟩ := trimNewline_beginning (rawLines s.text)[i + 1]
  refine ⟨(rawLines s.text).take i, (rawLines s.text)[i], _, e, (rawLines s.text).drop (i + 2), ?_,
    List.length_take_of_le (by omega), congrArg trimNewline he⟩
  rw [he, ← List.drop_eq_getElem_cons, ← List.drop_eq_getElem_cons, List.take_append_drop]

lemma joinNext_visible (hi : i + 1 < s.lineCount) :
    visible (s.joinNext i).1.text = visible s.text ∧
      (rawLines (s.joinNext i).1.text).take i = (rawLines s.text).take i := by
  obtain ⟨pre, r, y, e, post, h, rfl, hy⟩ := rawLines_around hi
  refine ⟨?_, ?_⟩
  · rw [joinNext_text h hy, eq_of_rawLines h]
    simp
  · rw [joinNext_rawLines h hy, h, List.take_left, List.take_left]

lemma joinNext_last (hi : i + 1 = s.lineCount) :
    (s.joinNext i).1.text = ((rawLines s.text).take i).flatten ∧
      rawLines (s.joinNext i).1.text = (rawLines s.text).take i ++ [[]] := by
  have hlen : i < (rawLines s.text).length := by
    simp only [lineCount, Text.lineCount] at hi
    omega
  have h : rawLines s.text = (rawLines s.text).take i ++ (rawLines s.text).drop i :=
    (List.take_append_drop ..).symm
  have htext : (s.joinNext i).1.text = ((rawLines s.text).take i).flatten := by
    have hstart : offsetOf s.text ⟨i, 0⟩ = lineStart s.text i := by
      rw [offsetOf_of_lt hlen, Nat.zero_min, Nat.add_zero]
    rw [joinNext_last_line hi.ge, erase_lastLine_text hi, hstart, takeBytes_lineStart]
  refine ⟨htext, ?_⟩
  have hbehind := (rawLines_behind h (by simp [hlen])).2 [] (by simp)
  rw [htext, ← List.append_nil (List.flatten _), hbehind]
  rfl

lemma joinTimes_last (hi : i + 1 = s.lineCount) (n : Nat) (p : Position) :
    (joinTimes i (n + 1) s p).1.text = ((rawLines s.text).take i).flatten := by
  induction n generalizing s p with
  | zero => exact (joinNext_last hi).1
  | succ n ih =>
    have hlines := (joinNext_last hi).2
    have hlen : ((rawLines s.text).take i).length = i := List.length_take_of_le (by
      simp only [lineCount, Text.lineCount] at hi
      omega)
    have hi' : i + 1 = (s.joinNext i).1.lineCount := by
      rw [lineCount, Text.lineCount, hlines, List.length_append, hlen, List.length_singleton]
    rw [joinTimes, ih hi', hlines, List.take_append_of_le_length hlen.ge, List.take_take,
      Nat.min_self]

lemma joinTimes_visible (hi : i < s.lineCount) (n : Nat) (p : Position) :
    (¬RunsOut i n s → visible (joinTimes i n s p).1.text = visible s.text) ∧
      (RunsOut i n s → (joinTimes i n s p).1.text = ((rawLines s.text).take i).flatten) := by
  induction n generalizing s p with
  | zero => exact ⟨fun _ => rfl, fun h => h.elim⟩
  | succ n ih =>
    by_cases hnext : i + 1 < s.lineCount
    · obtain ⟨hv, htake⟩ := joinNext_visible hnext
      obtain ⟨hkept, hlost⟩ := ih (joinNext_valid hi).1 (s.joinNext i).2
      rw [hv] at hkept
      rw [htake] at hlost
      exact ⟨fun h => hkept fun h' => h (.inr h'),
        fun h => hlost (h.resolve_left (Nat.not_le_of_lt hnext))⟩
    · have hlast : i + 1 = s.lineCount := by omega
      exact ⟨fun h => absurd (.inl hlast.ge) h, fun _ => joinTimes_last hlast n p⟩

lemma not_runsOut (h : rawLines s.text = pre ++ r :: ls) (hls : Lasts n ls) :
    ¬RunsOut pre.length n s := by
  induction n generalizing s r ls with
  | zero => exact not_false
  | succ n ih =>
    obtain ⟨l, post, rfl⟩ := hls.exists_cons
    obtain ⟨e, he⟩ := trimNewline_beginning l
    generalize hy : trimNewline l = y at he
    subst he
    have hcount : pre.length + 1 < s.lineCount := by
      rw [lineCount, Text.lineCount, h]
      simp
    refine not_or.mpr ⟨Nat.not_le_of_lt hcount, ?_⟩
    cases n with
    | zero => exact not_false
    | succ n =>
      have hrest : rawLines (y ++ e ++ post.flatten) = (y ++ e) :: post :=
        rawLines_below h (List.cons_ne_nil _ _)
      have hx : WithinLine (trimNewline r) := .of_raw (t := s.text) (by simp [h])
      obtain ⟨r', ls', hr', hls'⟩ := rawLines_joined hx hrest hy hls.head
      have hlines : rawLines (s.joinNext pre.length).1.text = pre ++ r' :: ls' := by
        rw [joinNext_rawLines h hy, hr']
      refine ih hlines ?_
      rcases hls' with rfl | ⟨l, rfl, hl⟩
      · exact hls.tail
      · exact hls.tail.cons hl

/-- Joining keeps what is visible unless its rounds run out of next lines. Then all is lost from line
`first` on. -/
theorem join_visible (s : Surface) (first last : Nat) :
    let n := min last s.lastLine - first
    (visible (s.join first last).1.text = visible s.text ↔
        (RunsOut first n s → Blank ((rawLines s.text).drop first).flatten)) ∧
      (RunsOut first n s →
        (s.join first last).1.text = ((rawLines s.text).take first).flatten) ∧
      ((∀ l ∈ ((rawLines s.text).drop (first + 1)).take (n - 1), ¬l.Vanishes) →
        visible (s.join first last).1.text = visible s.text) := by
  intro n
  have hsplit : visible s.text = visible ((rawLines s.text).take first).flatten ++
      visible ((rawLines s.text).drop first).flatten := by
    rw [← visible_append, rawLines_parted]
  by_cases hfirst : first < s.lineCount
  · obtain ⟨hkept, hlost⟩ := joinTimes_visible hfirst n ⟨first, s.lineLength first⟩
    rw [show joinTimes first n s _ = s.join first last from rfl] at hkept hlost
    refine ⟨⟨fun hv hout => ?_, fun hblank => ?_⟩, hlost, fun hls => hkept ?_⟩
    · rw [hlost hout, hsplit, List.self_eq_append_right] at hv
      exact visible_eq_nil.mp hv
    · by_cases hout : RunsOut first n s
      · rw [hlost hout, hsplit, visible_eq_nil.mpr (hblank hout), List.append_nil]
      · exact hkept hout
    · have hlen : first < (rawLines s.text).length := hfirst
      have h : rawLines s.text = (rawLines s.text).take first ++
          (rawLines s.text)[first] :: (rawLines s.text).drop (first + 1) := by
        rw [← List.drop_eq_getElem_cons, List.take_append_drop]
      have hn : n ≤ ((rawLines s.text).drop (first + 1)).length := by
        simp only [n, List.length_drop, lastLine, Text.lineCount]
        omega
      have hout := not_runsOut h ⟨hn, hls⟩
      rwa [List.length_take_of_le hlen.le] at hout
  · -- past the end of the text nothing is joined
    have hn : n = 0 := by
      simp only [n, lastLine, lineCount] at hfirst ⊢
      omega
    have hjoin : (s.join first last).1 = s := by
      rw [join, show min last s.lastLine - first = 0 from hn]
      rfl
    rw [hjoin, hn]
    exact ⟨⟨fun _ h => h.elim, fun _ => rfl⟩, fun h => h.elim, fun _ => rfl⟩

theorem sample_join_visible :
    let s : Surface :=
      { name := [], text := "a\n b\r\n \n\u2028c\rd\u0085e".toList }
    let s' : Surface := { name := [], text := "b\n\n\x0ba".toList }
    visible (s.join 0 3).1.text = ['a', 'b', 'c', 'd', 'e'] ∧
      (s'.join 1 3).1.text = ['b', '\n'] ∧ visible (s'.join 1 3).1.text ≠ visible s'.text := by
  intro s s'
  have hkept := (join_visible s 0 3).2.2 (by decide)
  have hout : RunsOut 1 (min 3 s'.lastLine - 1) s' := by decide
  refine ⟨hkept.trans (by decide), (join_visible s' 1 3).2.1 hout, fun hv => ?_⟩
  exact absurd ((join_visible s' 1 3).1.mp hv hout) (by decide)

end Surface

end ModalEdit
