import ModalEdit.Proofs.KeptPositions

/-! Deletion of whole lines, whatever breaks them: the characters of the other lines stay, but for
one that can follow a break other than a line feed. -/

namespace ModalEdit

open Text

namespace Text

variable {t l : Text} {i : Nat}

def content (t : Text) : Text := t.filter fun c => !isLineBreak c

@[simp] lemma content_append (a b : Text) : content (a ++ b) = content a ++ content b :=
  List.filter_append ..

lemma filter_trimNewline {p : Char → Bool} (hp : p '\n' = false) (l : Text) :
    (trimNewline l).filter p = l.filter p := by
  rcases trimNewline_cases l with ⟨-, hl⟩ | ⟨-, hl⟩
  · conv => rhs; rw [hl]
    simp [hp]
  · rw [← hl]

lemma content_trimNewline (l : Text) : content (trimNewline l) = content l :=
  filter_trimNewline (by decide) l

lemma content_lines (ls : List Text) :
    content (ls.map trimNewline).flatten = content ls.flatten := by
  induction ls with
  | nil => rfl
  | cons l ls ih => simp [content_trimNewline, ih]

lemma rawLines_parted (t : Text) (i : Nat) :
    ((rawLines t).take i).flatten ++ ((rawLines t).drop i).flatten = t := by
  rw [← List.flatten_append, List.take_append_drop, rawLines_flatten]

lemma takeBytes_lineStart (t : Text) (i : Nat) :
    takeBytes (lineStart t i) t = ((rawLines t).take i).flatten := by
  have h := takeBytes_left ((rawLines t).take i).flatten ((rawLines t).drop i).flatten
  rwa [rawLines_parted] at h

lemma dropBytes_lineStart (t : Text) (i k : Nat) :
    dropBytes (lineStart t i + k) t = dropBytes k ((rawLines t).drop i).flatten := by
  have h := dropBytes_append (a := ((rawLines t).take i).flatten)
    (b := ((rawLines t).drop i).flatten) (n := lineStart t i + k) (Nat.le_add_right ..)
  rw [rawLines_parted] at h
  rw [h]
  congr 1
  exact Nat.add_sub_cancel_left ..

lemma takeBytes_lineEnd (hl : (rawLines t)[i]? = some l) :
    takeBytes (lineStart t i + byteLength (trimNewline l)) t =
      ((rawLines t).take i).flatten ++ trimNewline l := by
  obtain ⟨w, hw⟩ := trimNewline_beginning l
  obtain ⟨hlt, hget⟩ := List.getElem?_eq_some_iff.mp hl
  have ht := rawLines_parted t i
  rw [List.drop_eq_getElem_cons hlt, hget, List.flatten_cons, ← hw, List.append_assoc,
    ← List.append_assoc] at ht
  have h := takeBytes_left (((rawLines t).take i).flatten ++ trimNewline l)
    (w ++ ((rawLines t).drop (i + 1)).flatten)
  rwa [ht, byteLength_append] at h

def StartsPlain : Text → Prop
  | [] => False
  | c :: _ => c.utf8Size = 1 ∧ isLineBreak c = false

instance : (t : Text) → Decidable (StartsPlain t)
  | [] => .isFalse id
  | c :: _ => inferInstanceAs (Decidable (c.utf8Size = 1 ∧ isLineBreak c = false))

/-- The break at the end of line `i` is no line feed, and a plain character of one byte follows. -/
def Overruns (t : Text) (i : Nat) : Prop :=
  ((rawLines t)[i]?.getD []).getLast? ≠ some '\n' ∧
    StartsPlain ((rawLines t).drop (i + 1)).flatten

instance (t : Text) (i : Nat) : Decidable (Overruns t i) := inferInstanceAs (Decidable (_ ∧ _))

lemma content_dropBytes_one (t : Text) :
    (¬StartsPlain t → content (dropBytes 1 t) = content t) ∧
      (StartsPlain t → ∃ c, content t = c :: content (dropBytes 1 t)) := by
  cases t with
  | nil => exact ⟨fun _ => rfl, False.elim⟩
  | cons c t =>
    refine ⟨fun hn => ?_, ?_⟩
    · rw [dropBytes]
      split
      · have hone : c.utf8Size = 1 := by
          have := Char.utf8Size_pos c
          omega
        have hb : isLineBreak c = true := by
          by_contra hb
          exact hn ⟨hone, (Bool.not_eq_true _).mp hb⟩
        simp [hone, content, hb]
      · rfl
    · rintro ⟨hone, hb⟩
      exact ⟨c, by simp [content, dropBytes, hone, hb]⟩

lemma offsetOf_of_lt (hi : i < t.lineCount) (k : Nat) :
    offsetOf t ⟨i, k⟩ = lineStart t i + min k (lineLength t i) := by
  have hm : min i (t.lineCount - 1) = i := by omega
  simp [offsetOf, clamp, hm]

end Text

namespace Surface

variable {s : Surface} {start stop : Position}

lemma delete_text (h : s.text.offsetOf start ≤ s.stopOffset stop) :
    (s.delete start stop).1.text =
      takeBytes (s.text.offsetOf start) s.text ++ dropBytes (s.stopOffset stop) s.text := by
  simp only [delete, Nat.min_eq_left h, Nat.max_eq_right h, remove]
  split
  · rfl
  · rw [show s.text.offsetOf start = s.stopOffset stop by omega, takeBytes_append_dropBytes]

end Surface

namespace Span

variable {s : Surface} {first last : Nat} {l : Text}

lemma erase_lines_before (hle : first ≤ last) (hl : last + 1 < s.lineCount)
    (hr : (rawLines s.text)[last]? = some l) :
    ((lines first last).erase s).text = ((rawLines s.text).take first).flatten ++
      dropBytes (if l.getLast? = some '\n' then 0 else 1)
        ((rawLines s.text).drop (last + 1)).flatten := by
  have hcount : last + 1 < s.text.lineCount := hl
  have hline : s.text.lineLength last = byteLength (trimNewline l) := by
    rw [Text.lineLength, lineAt_of_raw hr]
  have hstart : s.text.offsetOf ⟨first, 0⟩ = s.text.lineStart first := by
    rw [offsetOf_of_lt (by omega), Nat.zero_min, Nat.add_zero]
  have hstop : s.stopOffset ⟨last, s.text.lineLength last + 1⟩ =
      s.text.lineStart (last + 1) + if l.getLast? = some '\n' then 0 else 1 := by
    have hlt : last < s.lineCount ∧ s.lineLength last < s.text.lineLength last + 1 :=
      ⟨Nat.lt_of_succ_lt hl, Nat.lt_succ_self _⟩
    rw [Surface.stopOffset, if_pos hlt, offsetOf_of_lt hlt.1, Nat.min_eq_right (Nat.le_succ _),
      hline, lineStart_succ hr]
    -- the byte past the line's end is its line feed, if that is what the line ends with
    rcases trimNewline_cases l with ⟨hf, hl⟩ | ⟨hf, hl⟩
    · have hb := congrArg byteLength hl
      rw [byteLength_append, byteLength_cons, byteLength_nil] at hb
      rw [if_pos hf, hb]
      rfl
    · rw [if_neg hf, ← hl]
  have he : ((lines first last).erase s).text =
      (s.delete ⟨first, 0⟩ ⟨last, s.text.lineLength last + 1⟩).1.text := by
    simp only [Span.erase, lineBounds, if_pos (show last < s.text.lineCount - 1 by omega)]
    rfl
  have hmono : s.text.lineStart first ≤ s.text.lineStart (last + 1) := lineStart_mono (by omega)
  rw [he, Surface.delete_text (by rw [hstart, hstop]; exact Nat.le_add_right_of_le hmono), hstart,
    hstop, takeBytes_lineStart, dropBytes_lineStart]

lemma erase_lines_end (hle : first ≤ last) (hl : last + 1 = s.lineCount) :
    content ((lines first last).erase s).text =
      content ((rawLines s.text).take first).flatten := by
  have hcount : last + 1 = s.text.lineCount := hl
  have hstop : s.stopOffset ⟨last, s.text.lineLength last⟩ = byteLength s.text := by
    rw [Surface.stopOffset, if_neg fun h => Nat.lt_irrefl _ h.2, offsetOf_end hcount]
    rfl
  have hlast : ¬last < s.text.lineCount - 1 := by omega
  cases first with
  | zero =>
    have he : ((lines 0 last).erase s).text =
        (s.delete ⟨0, 0⟩ ⟨last, s.text.lineLength last⟩).1.text := by
      simp only [Span.erase, lineBounds, if_neg hlast]
      rfl
    have hstart : s.text.offsetOf ⟨0, 0⟩ = 0 := by
      simp [offsetOf, clamp]
    rw [he, Surface.delete_text (by rw [hstart]; exact Nat.zero_le _), hstart, hstop,
      dropBytes_self, takeBytes_zero]
    rfl
  | succ first =>
    have he : ((lines (first + 1) last).erase s).text =
        (s.delete ⟨first, s.text.lineLength first⟩ ⟨last, s.text.lineLength last⟩).1.text := by
      simp only [Span.erase, lineBounds, if_neg hlast, if_pos (Nat.succ_pos first)]
      rfl
    obtain ⟨l, hr⟩ := exists_raw (t := s.text) (i := first) (by omega)
    have hstart : s.text.offsetOf ⟨first, s.text.lineLength first⟩ =
        s.text.lineStart first + byteLength (trimNewline l) := by
      rw [offsetOf_of_lt (by omega), Nat.min_self, Text.lineLength, lineAt_of_raw hr]
    have hv : Valid s.text ⟨first, s.text.lineLength first⟩ :=
      ⟨by dsimp only; omega, isCharBoundary_length _⟩
    rw [he, Surface.delete_text (by rw [hstop]; exact hv.offset_le), hstart, hstop, dropBytes_self,
      List.append_nil, takeBytes_lineEnd hr, List.take_add_one, hr, List.flatten_append,
      content_append, content_append, content_trimNewline]
    simp

/-- Deleted lines take nothing of their neighbours along, unless the last one overruns: then the
next one loses its first character. -/
theorem delete_lines_content (hle : first ≤ last) (hl : last < s.lineCount) :
    (¬Overruns s.text last → content ((lines first last).delete s).1.text =
        content (s.text.lines.take first).flatten ++
          content (s.text.lines.drop (last + 1)).flatten) ∧
      (Overruns s.text last → ∃ c rest,
        content (s.text.lines.drop (last + 1)).flatten = c :: rest ∧
          content ((lines first last).delete s).1.text =
            content (s.text.lines.take first).flatten ++ rest) := by
  rw [Text.lines, ← List.map_take, ← List.map_drop, content_lines, content_lines]
  change (_ → content ((lines first last).erase s).text = _) ∧
    (_ → ∃ c rest, _ ∧ content ((lines first last).erase s).text = _)
  by_cases hnext : last + 1 < s.lineCount
  · obtain ⟨l, hr⟩ := exists_raw (t := s.text) (i := last) hl
    obtain ⟨hkeep, hlose⟩ := content_dropBytes_one ((rawLines s.text).drop (last + 1)).flatten
    rw [erase_lines_before hle hnext hr, Overruns, hr, Option.getD_some, content_append]
    by_cases hf : l.getLast? = some '\n'
    · rw [if_pos hf, dropBytes_zero]
      exact ⟨fun _ => rfl, fun h => absurd hf h.1⟩
    · rw [if_neg hf]
      refine ⟨fun h => ?_, fun h => ?_⟩
      · rw [hkeep fun hs => h ⟨hf, hs⟩]
      · obtain ⟨c, hc⟩ := hlose h.2
        exact ⟨c, _, hc, rfl⟩
  · have hend : last + 1 = s.lineCount := by omega
    have hrest : (rawLines s.text).drop (last + 1) = [] :=
      List.drop_eq_nil_of_le (Nat.le_of_eq hend.symm)
    rw [erase_lines_end hle hend, Overruns, hrest]
    exact ⟨fun _ => (List.append_nil _).symm, fun h => h.2.elim⟩

theorem sample_delete_lines_content :
    let s : Surface := { name := [], text := ['a', '\r', 'b', 'c', '\n', 'd'] }
    content ((lines 0 0).delete s).1.text = ['c', 'd'] ∧
      content ((lines 1 1).delete s).1.text = ['a', 'd'] := by
  intro s
  obtain ⟨c, rest, hc, hlost⟩ :=
    (delete_lines_content (s := s) (Nat.le_refl 0) (by decide)).2 (by decide)
  have hkept := (delete_lines_content (s := s) (Nat.le_refl 1) (by decide)).1 (by decide)
  have hbehind : content (s.text.lines.drop 1).flatten = ['b', 'c', 'd'] := by decide
  obtain ⟨-, rfl⟩ := List.cons.inj (hbehind.symm.trans hc)
  exact ⟨hlost, hkept⟩

end Span

end ModalEdit
