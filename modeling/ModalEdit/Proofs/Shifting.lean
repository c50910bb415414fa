import ModalEdit.Engine.Visual
import ModalEdit.Proofs.LineParts

namespace ModalEdit

open Text

namespace Text

variable {l : Text} {k : Nat}

def padded (k : Nat) (l : Text) : Text :=
  if trimNewline l = [] then l else copies k Surface.indent ++ l

lemma padded_zero : padded 0 = id := by
  funext l
  unfold padded
  split <;> rfl

lemma padded_of_empty (hl : trimNewline l = []) (k : Nat) : padded k l = l := if_pos hl

lemma padded_succ (hl : trimNewline l ≠ []) (k : Nat) :
    padded (k + 1) l = Surface.indent ++ padded k l := by
  rw [padded, padded, if_neg hl, if_neg hl, ← List.append_assoc]
  rfl

lemma unbroken_indent : Unbroken Surface.indent := by decide

lemma trimNewline_padded (hl : trimNewline l ≠ []) (k : Nat) : trimNewline (padded k l) ≠ [] := by
  induction k with
  | zero => rwa [padded_zero, id]
  | succ k ih =>
    rw [padded_succ hl, trimNewline_unbroken unbroken_indent]
    simp [ih]

lemma head_append_ne (hl : trimNewline l ≠ []) (hn : '\n' ∉ trimNewline l) (w : Text) :
    (l ++ w).head? ≠ some '\n' := by
  obtain ⟨c, m, hm⟩ := List.exists_cons_of_ne_nil hl
  obtain ⟨v, hv⟩ := trimNewline_beginning l
  rw [hm] at hn hv
  rw [← hv]
  exact fun h => hn (Option.some.inj h ▸ List.mem_cons_self)

end Text

namespace Surface

variable {s : Surface} {pre post mid : List Text} {l : Text} {k : Nat}

lemma shiftLine_right (h : rawLines s.text = pre ++ padded k l :: post) :
    rawLines (shiftLine .right s pre.length).text = pre ++ padded (k + 1) l :: post := by
  have hline : s.lineAt pre.length = trimNewline (padded k l) := lineAt_of_rawLines h
  by_cases hl : trimNewline l = []
  · rw [padded_of_empty hl] at h hline ⊢
    simpa [shiftLine, hline, hl] using h
  · obtain ⟨hrest, hbehind⟩ := rawLines_behind h (List.cons_ne_nil _ _)
    have htext : (s.insert ⟨pre.length, 0⟩ indent).1.text =
        pre.flatten ++ (indent ++ (padded k l :: post).flatten) :=
      insert_between (eq_of_rawLines h) (offsetOf_of_rawLines h (Nat.zero_le _)) indent
    have hne : s.lineAt pre.length ≠ [] := hline ▸ trimNewline_padded hl k
    have hstep : shiftLine .right s pre.length = (s.insert ⟨pre.length, 0⟩ indent).1 :=
      if_neg (by simpa using hne)
    rw [hstep, htext, hbehind _ (fun hf => by cases hf), padded_succ hl]
    exact congrArg _ (rawLines_unbroken unbroken_indent hrest)

lemma shiftLine_left (h : rawLines s.text = pre ++ padded (k + 1) l :: post) :
    rawLines (shiftLine .left s pre.length).text = pre ++ padded k l :: post := by
  have hline : s.lineAt pre.length = trimNewline (padded (k + 1) l) := lineAt_of_rawLines h
  by_cases hl : trimNewline l = []
  · rw [padded_of_empty hl] at h hline ⊢
    have hstep : shiftLine .left s pre.length = s := if_pos (by rw [hline, hl]; rfl)
    rwa [hstep]
  · rw [padded_succ hl] at h hline
    rw [trimNewline_unbroken unbroken_indent] at hline
    obtain ⟨hrest, hbehind⟩ := rawLines_behind h (List.cons_ne_nil _ _)
    have hwidth : outdent (s.lineAt pre.length) = byteLength indent := by
      rw [hline]
      rfl
    have hlen : byteLength indent ≤ byteLength (trimNewline (indent ++ padded k l)) := by
      rw [trimNewline_unbroken unbroken_indent, byteLength_append]
      exact Nat.le_add_right ..
    have htext : (s.erase ⟨pre.length, 0⟩ ⟨pre.length, byteLength indent⟩).text =
        pre.flatten ++ (padded k l ++ post.flatten) := by
      refine (delete_between (m := indent) ?_ (offsetOf_of_rawLines h (Nat.zero_le _)) ?_).1
      · simpa using eq_of_rawLines h
      · rw [stopOffset_of_rawLines h rfl hlen, byteLength_append]
    have hstep : shiftLine .left s pre.length =
        s.erase ⟨pre.length, 0⟩ ⟨pre.length, byteLength indent⟩ := by
      rw [shiftLine, hwidth]
      rfl
    have hfeed : '\n' ∉ trimNewline (padded k l) := by
      have hin := WithinLine.of_lineAt s.text pre.length
      rw [show s.text.lineAt pre.length = _ from hline] at hin
      exact fun hm => hin.not_mem (List.mem_append_right _ hm)
    have hhead := head_append_ne (trimNewline_padded hl k) hfeed post.flatten
    rw [hstep, htext, hbehind _ fun hf => absurd hf hhead,
      rawLines_of_unbroken unbroken_indent (by simpa using hrest)]

lemma foldl_lines {step : Surface → Nat → Surface} {f g : Text → Text}
    (hstep : ∀ s pre l post, rawLines s.text = pre ++ f l :: post →
      rawLines (step s pre.length).text = pre ++ g l :: post)
    (h : rawLines s.text = pre ++ (mid.map f ++ post)) :
    rawLines ((List.range' pre.length mid.length).foldl step s).text =
      pre ++ (mid.map g ++ post) := by
  induction mid generalizing pre s with
  | nil => exact h
  | cons l mid ih =>
    have hl : rawLines (step s pre.length).text = (pre ++ [g l]) ++ (mid.map f ++ post) := by
      simpa using hstep s pre l _ h
    have hrest := ih hl
    rw [List.length_append] at hrest
    simpa [List.range'_succ] using hrest

structure Indented (first last : Nat) (pre mid post : List Text) (k : Nat) (s : Surface) : Prop where
  lines : rawLines s.text = pre ++ (mid.map (padded k) ++ post)
  range : lineRange first (min last s.lastLine) = List.range' pre.length mid.length

lemma exists_indented (s : Surface) (first last : Nat) :
    ∃ pre mid post, Indented first last pre mid post 0 s := by
  by_cases hf : first ≤ min last s.lastLine
  · have hlt : min last s.lastLine < (rawLines s.text).length := by
      have hpos := lineCount_pos s.text
      have hle : min last s.lastLine ≤ s.text.lineCount - 1 := Nat.min_le_right ..
      rw [Text.lineCount] at hpos hle
      omega
    obtain ⟨n, hn⟩ : ∃ n, n = min last s.lastLine + 1 - first := ⟨_, rfl⟩
    refine ⟨(rawLines s.text).take first, ((rawLines s.text).drop first).take n,
      ((rawLines s.text).drop first).drop n, ⟨?_, ?_⟩⟩
    · rw [padded_zero, List.map_id, List.take_append_drop, List.take_append_drop]
    · rw [lineRange, ← hn, List.length_take_of_le (by omega),
        List.length_take_of_le (by rw [List.length_drop]; omega)]
  · refine ⟨rawLines s.text, [], [], ⟨by simp, ?_⟩⟩
    have hn : min last s.lastLine + 1 - first = 0 := by omega
    rw [lineRange, hn]
    rfl

namespace Indented

variable {first last j n : Nat} {s' : Surface}

lemma of_lines (h : Indented first last pre mid post k s)
    (hl : rawLines s'.text = pre ++ (mid.map (padded j) ++ post)) :
    Indented first last pre mid post j s' := by
  have hcount : s'.lastLine = s.lastLine := by
    rw [lastLine, lastLine, Text.lineCount, Text.lineCount, hl, h.lines]
    simp
  exact ⟨hl, hcount ▸ h.range⟩

lemma right (h : Indented first last pre mid post k s) :
    Indented first last pre mid post (k + 1) (s.shift first last .right) := by
  refine h.of_lines ?_
  rw [shift, h.range]
  exact foldl_lines (fun _ _ _ _ => shiftLine_right) h.lines

lemma left (h : Indented first last pre mid post (k + 1) s) :
    Indented first last pre mid post k (s.shift first last .left) := by
  refine h.of_lines ?_
  rw [shift, h.range]
  exact foldl_lines (fun _ _ _ _ => shiftLine_left) h.lines

lemma right_times (h : Indented first last pre mid post k s) (n : Nat) :
    Indented first last pre mid post (k + n) (VisualAction.shiftTimes s first last .right n) := by
  induction n with
  | zero => exact h
  | succ n ih => exact ih.right

lemma left_times (h : Indented first last pre mid post (k + n) s) :
    Indented first last pre mid post k (VisualAction.shiftTimes s first last .left n) := by
  induction n generalizing k with
  | zero => exact h
  | succ n ih => exact (ih (k := k + 1) (by rwa [Nat.add_assoc, Nat.add_comm 1])).left

lemma mem_range (h : Indented first last pre mid post k s) {i : Nat} (hi : i < s.lineCount) :
    first ≤ i ∧ i ≤ last ↔ pre.length ≤ i ∧ i < pre.length + mid.length := by
  have hmem : i ∈ lineRange first (min last s.lastLine) ↔
      i ∈ List.range' pre.length mid.length := by rw [h.range]
  rw [lineRange, List.mem_range'_1, List.mem_range'_1] at hmem
  simp only [lastLine, lineCount] at hmem hi
  omega

lemma rawLines_eq (h : Indented first last pre mid post 0 s)
    (h' : Indented first last pre mid post k s') :
    rawLines s'.text =
      (rawLines s.text).mapIdx fun i l => if first ≤ i ∧ i ≤ last then padded k l else l := by
  have hs : rawLines s.text = pre ++ (mid ++ post) := by simpa [padded_zero] using h.lines
  have hcount : s.lineCount = pre.length + (mid.length + post.length) := by
    rw [lineCount, Text.lineCount, hs, List.length_append, List.length_append]
  rw [h'.lines, hs]
  refine List.ext_getElem? fun i => ?_
  rw [List.getElem?_mapIdx]
  by_cases hi : i < s.lineCount
  · simp only [h.mem_range hi, List.getElem?_append, List.length_map, List.getElem?_map]
    by_cases hpre : i < pre.length
    · simp [hpre, Nat.not_le_of_lt hpre]
    · by_cases hmid : i < pre.length + mid.length
      · simp [hpre, hmid, Nat.le_of_not_lt hpre, show i - pre.length < mid.length by omega]
      · simp [hpre, hmid, show ¬i - pre.length < mid.length by omega]
  · rw [List.getElem?_eq_none, List.getElem?_eq_none, Option.map_none] <;>
      simp only [List.length_append, List.length_map] <;> omega

lemma text_eq (h : Indented first last pre mid post k s) (h' : Indented first last pre mid post k s') :
    s'.text = s.text := by
  rw [eq_of_rawLines h.lines, eq_of_rawLines h'.lines]

end Indented

/-- Each shift to the right indents the lines of the range that are not empty, and shifting left as
often restores the text. -/
theorem shift_back (s : Surface) (first last : Nat) :
    ((s.shift first last .right).shift first last .left).text = s.text ∧
      ∀ k, rawLines (VisualAction.shiftTimes s first last .right k).text =
          (rawLines s.text).mapIdx (fun i l => if first ≤ i ∧ i ≤ last then padded k l else l) ∧
        (VisualAction.shiftTimes (VisualAction.shiftTimes s first last .right k) first last
          .left k).text = s.text := by
  obtain ⟨pre, mid, post, h⟩ := exists_indented s first last
  refine ⟨h.text_eq h.right.left, fun k => ?_⟩
  have hright := h.right_times k
  refine ⟨?_, h.text_eq hright.left_times⟩
  rw [Nat.zero_add] at hright
  exact h.rawLines_eq hright

end Surface

end ModalEdit
