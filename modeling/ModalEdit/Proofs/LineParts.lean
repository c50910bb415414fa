import ModalEdit.Proofs.LineDeletion
import ModalEdit.Proofs.Unbroken

namespace ModalEdit.Text

variable {t a b u w x l : Text} {pre post ls : List Text} {k : Nat}

section place

lemma eq_of_rawLines (h : rawLines t = pre ++ ls) : t = pre.flatten ++ ls.flatten := by
  rw [← List.flatten_append, ← h, rawLines_flatten]

lemma lineAt_of_lines (h : t.lines = pre ++ l :: post) : t.lineAt pre.length = l := by
  simp [lineAt, line?, h]

variable (h : rawLines t = pre ++ l :: post)
include h

lemma lt_lineCount_of_rawLines : pre.length < t.lineCount := by
  rw [lineCount, h, List.length_append, List.length_cons]
  omega

lemma lineAt_of_rawLines : t.lineAt pre.length = trimNewline l := lineAt_of_raw (by simp [h])

lemma offsetOf_of_rawLines (hk : k ≤ byteLength (trimNewline l)) :
    offsetOf t ⟨pre.length, k⟩ = byteLength pre.flatten + k := by
  rw [offsetOf_of_lt (lt_lineCount_of_rawLines h), lineLength, lineAt_of_rawLines h,
    Nat.min_eq_left hk, lineStart, h, List.take_left]

lemma stopOffset_of_rawLines {s : Surface} (ht : s.text = t)
    (hk : k ≤ byteLength (trimNewline l)) :
    s.stopOffset ⟨pre.length, k⟩ = byteLength pre.flatten + k := by
  have hle : k ≤ s.lineLength pre.length := by
    rwa [Surface.lineLength, ht, lineLength, lineAt_of_rawLines h]
  rw [Surface.stopOffset, if_neg fun hlt => Nat.not_lt_of_le hle hlt.2, ht,
    offsetOf_of_rawLines h hk, Nat.add_zero]

end place

lemma rawLines_first (h : rawLines t = l :: ls) (hne : ls ≠ []) :
    rawLines ls.flatten = ls ∧ ∀ w : Text,
      (w.head? = some '\n' → ls.flatten.head? = some '\n') → rawLines (l ++ w) = l :: rawLines w := by
  induction t using breakInduction generalizing l with
  | nil => exact absurd (List.cons.inj h).2.symm hne
  | pair t ih =>
    obtain ⟨rfl, rfl⟩ := List.cons.inj h
    exact ⟨by rw [rawLines_flatten], fun w _ => rfl⟩
  | alone c t hc hn ih =>
    rw [rawLines_alone hc hn] at h
    obtain ⟨rfl, rfl⟩ := List.cons.inj h
    rw [rawLines_flatten]
    exact ⟨rfl, fun w hw => rawLines_alone hc fun hp => hn ⟨hp.1, hw hp.2⟩⟩
  | plain c t hc ih =>
    obtain ⟨m, ms, hm, hm'⟩ := rawLines_plain hc t
    rw [hm'] at h
    obtain ⟨rfl, rfl⟩ := List.cons.inj h
    obtain ⟨hrest, hfirst⟩ := ih hm
    refine ⟨hrest, fun w hw => ?_⟩
    obtain ⟨m', ms', hr, hr'⟩ := rawLines_plain hc (m ++ w)
    obtain ⟨rfl, rfl⟩ := List.cons.inj (hr.symm.trans (hfirst w hw))
    exact hr'

lemma rawLines_behind (h : rawLines t = pre ++ ls) (hne : ls ≠ []) :
    rawLines ls.flatten = ls ∧ ∀ w : Text,
      (w.head? = some '\n' → ls.flatten.head? = some '\n') →
        rawLines (pre.flatten ++ w) = pre ++ rawLines w := by
  induction pre generalizing t with
  | nil => exact ⟨by rw [← List.nil_append ls, ← h, rawLines_flatten], fun w _ => rfl⟩
  | cons l pre ih =>
    obtain ⟨hrest, hfirst⟩ := rawLines_first h (by simp [hne])
    obtain ⟨hls, hbehind⟩ := ih hrest
    refine ⟨hls, fun w hw => ?_⟩
    rw [List.flatten_cons, List.append_assoc, hfirst, hbehind w hw]
    · rfl
    · -- a line feed in front comes from `pre`, or from `w` if that is empty
      intro hf
      cases pre with
      | nil => exact hw hf
      | cons l' pre =>
        have hl' : l' ≠ [] := by
          obtain ⟨m, ms, hm⟩ := List.exists_cons_of_ne_nil (l := pre ++ ls) (by simp [hne])
          exact rawLines_head_ne_nil (hrest.trans (congrArg (l' :: ·) hm))
        obtain ⟨d, l', rfl⟩ := List.exists_cons_of_ne_nil hl'
        exact hf

lemma rawLines_below (h : rawLines t = pre ++ l :: ls) (hne : ls ≠ []) :
    rawLines ls.flatten = ls := by
  have h' : rawLines t = (pre ++ [l]) ++ ls := by simpa using h
  exact (rawLines_behind h' hne).1

lemma head_of_trimNewline {l' : Text} (h : rawLines t = l :: l' :: ls)
    (hw : (trimNewline l ++ w).head? = some '\n') : (l :: l' :: ls).flatten.head? = some '\n' := by
  by_cases hx : trimNewline l = []
  · rcases trimNewline_cases l with ⟨-, hl⟩ | ⟨-, hl⟩
    · rw [hl, hx]
      rfl
    · exact absurd (hl.trans hx) (rawLines_head_ne_nil h)
  · obtain ⟨c, x, hc⟩ := List.exists_cons_of_ne_nil hx
    obtain ⟨v, hv⟩ := trimNewline_beginning l
    rw [hc] at hv hw
    rw [← hv]
    exact hw

lemma offsetOf_behind (h : rawLines t = pre ++ ls) (hne : ls ≠ []) (hx : WithinLine x)
    (hw : (x ++ w).head? = some '\n' → ls.flatten.head? = some '\n') :
    offsetOf (pre.flatten ++ (x ++ w)) ⟨pre.length, byteLength x⟩ =
      byteLength (pre.flatten ++ x) := by
  have hlines := (rawLines_behind h hne).2 _ hw
  obtain ⟨l, hl, hk, -⟩ := (hx.ends w).spec
  obtain ⟨m, ms, hm⟩ := exists_rawLines (x ++ w)
  obtain rfl : m = l := by simpa [hm] using hl
  rw [hm] at hlines
  rw [offsetOf_of_rawLines hlines hk.le, byteLength_append]

lemma rawLines_unbroken (hu : Unbroken u) (hw : rawLines w = l :: ls) :
    rawLines (u ++ w) = (u ++ l) :: ls := by
  induction u with
  | nil => exact hw
  | cons c u ih =>
    obtain ⟨hc, hu⟩ := unbroken_cons.mp hu
    obtain ⟨m, ms, hm, hm'⟩ := rawLines_plain hc (u ++ w)
    obtain ⟨rfl, rfl⟩ := List.cons.inj (hm.symm.trans (ih hu))
    exact hm'

lemma rawLines_of_unbroken (hu : Unbroken u) (h : rawLines (u ++ w) = (u ++ l) :: ls) :
    rawLines w = l :: ls := by
  obtain ⟨m, ms, hm⟩ := exists_rawLines w
  obtain ⟨hl, rfl⟩ := List.cons.inj (h.symm.trans (rawLines_unbroken hu hm))
  rw [hm, List.append_cancel_left hl]

lemma trimNewline_unbroken (hu : Unbroken u) (l : Text) :
    trimNewline (u ++ l) = u ++ trimNewline l := by
  induction u with
  | nil => rfl
  | cons c u ih =>
    obtain ⟨hc, hu⟩ := unbroken_cons.mp hu
    rw [List.cons_append, trimNewline_cons (not_isLineBreak_ne hc), ih hu]
    rfl

lemma rawLines_rest (h : rawLines (a ++ (b ++ w)) = (a ++ b) :: ls) (hb : b ≠ []) :
    rawLines (b ++ w) = b :: ls := by
  induction a with
  | nil => exact h
  | cons c a ih =>
    rw [List.cons_append, List.cons_append] at h
    cases hc : isLineBreak c with
    | false =>
      obtain ⟨m, ms, hm, hm'⟩ := rawLines_plain hc (a ++ (b ++ w))
      rw [hm'] at h
      obtain ⟨hl, rfl⟩ := List.cons.inj h
      exact ih ((List.cons.inj hl).2 ▸ hm)
    | true =>
      by_cases hp : c = '\r' ∧ (a ++ (b ++ w)).head? = some '\n'
      · -- only the line feed of a pair is left of its line
        obtain ⟨rfl, hf⟩ := hp
        obtain ⟨t, ht⟩ := List.head?_eq_some_iff.mp hf
        rw [ht, rawLines_pair] at h
        obtain ⟨hl, rfl⟩ := List.cons.inj h
        obtain ⟨rfl, rfl⟩ : a = [] ∧ b = ['\n'] := by
          have hab := (List.cons.inj hl).2.symm
          rcases List.append_eq_singleton_iff.mp hab with ⟨ha, hb'⟩ | ⟨-, hb'⟩
          · exact ⟨ha, hb'⟩
          · exact absurd hb' hb
        obtain rfl : w = t := (List.cons.inj ht).2
        exact rawLines_alone (by decide) (by simp)
      · rw [rawLines_alone hc hp] at h
        exact absurd (List.append_eq_nil_iff.mp (List.cons.inj (List.cons.inj h).1).2.symm).2 hb

lemma WithinLine.rawLines_append (hx : WithinLine x) (hw : rawLines w = l :: ls) :
    rawLines (x ++ w) = (x ++ l) :: ls ∨ rawLines (x ++ w) = x :: l :: ls := by
  induction hx with
  | nil => exact .inl hw
  | @last c hn =>
    cases hc : isLineBreak c with
    | false => exact .inl (rawLines_unbroken (u := [c]) (by simpa using hc) hw)
    | true =>
      by_cases hp : c = '\r' ∧ w.head? = some '\n'
      · obtain ⟨rfl, hf⟩ := hp
        obtain ⟨w, rfl⟩ := List.head?_eq_some_iff.mp hf
        rw [rawLines_alone (by decide) (by simp)] at hw
        obtain ⟨rfl, rfl⟩ := List.cons.inj hw
        exact .inl (rawLines_pair w)
      · exact .inr ((rawLines_alone hc hp).trans (congrArg _ hw))
  | plain hc _ ih =>
    exact ih.imp (rawLines_unbroken (u := [_]) (by simpa using hc))
      (rawLines_unbroken (u := [_]) (by simpa using hc))

end ModalEdit.Text
