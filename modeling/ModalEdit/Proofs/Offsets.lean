import ModalEdit.Proofs.LineParts

/-! Positions and offsets of a text whose line breaks are line feeds: every offset within the text
is that of one position, and they come in the same order. -/

namespace ModalEdit.Text

variable {t l : Text} {ls : List Text} {p : Position} {i k n : Nat}

lemma locate_line (hl : ls[i]? = some l) (hk : k < byteLength l ∨ i + 1 = ls.length) :
    locate ls (byteLength (ls.take i).flatten + k) = ⟨i, k⟩ := by
  induction ls generalizing i with
  | nil => cases hl
  | cons m ls ih =>
    cases i with
    | zero =>
      obtain rfl : m = l := by simpa using hl
      cases ls with
      | nil => simp [locate]
      | cons m' ls =>
        have hk : k < byteLength m := by simpa using hk
        simp [locate, hk]
    | succ i =>
      have hne : ls ≠ [] := by
        rintro rfl
        cases hl
      have hi := ih (i := i) (by simpa using hl) (by simpa using hk)
      rw [List.take_succ_cons, List.flatten_cons, byteLength_append, Nat.add_assoc,
        locate_pass hne, hi]

lemma locate_spec (hne : ls ≠ []) (hn : n ≤ byteLength ls.flatten) :
    ∃ l, ls[(locate ls n).line]? = some l ∧
      byteLength (ls.take (locate ls n).line).flatten + (locate ls n).byte = n ∧
      ((locate ls n).byte < byteLength l ∨
        (locate ls n).line + 1 = ls.length ∧ (locate ls n).byte ≤ byteLength l) := by
  induction ls generalizing n with
  | nil => exact absurd rfl hne
  | cons m ls ih =>
    rw [List.flatten_cons, byteLength_append] at hn
    cases ls with
    | nil => exact ⟨m, rfl, Nat.zero_add n, .inr ⟨rfl, by simpa [locate] using hn⟩⟩
    | cons m' ls =>
      by_cases hlt : n < byteLength m
      · exact ⟨m, by simp [locate, hlt], by simp [locate, hlt], .inl (by simp [locate, hlt])⟩
      · obtain ⟨n, rfl⟩ := Nat.exists_eq_add_of_le (Nat.le_of_not_lt hlt)
        obtain ⟨l, hl, hsum, hbyte⟩ := ih (n := n) (List.cons_ne_nil m' ls) (by omega)
        rw [locate_pass (List.cons_ne_nil m' ls)]
        refine ⟨l, by simpa using hl, ?_, by simpa using hbyte⟩
        rw [List.take_succ_cons, List.flatten_cons, byteLength_append, Nat.add_assoc, hsum]

lemma FeedsOnly.raw_eq (ht : FeedsOnly t) (hl : (rawLines t)[i]? = some l)
    (hi : i + 1 < t.lineCount) : l = t.lineAt i ++ ['\n'] := by
  induction t using breakInduction generalizing i l with
  | nil => simp [lineCount, rawLines] at hi
  | pair t =>
    have hr := ht '\r' (by simp) (by decide)
    cases hr
  | alone c t hc hn ih =>
    obtain rfl := ht c List.mem_cons_self hc
    rw [lineCount_alone hc hn] at hi
    rw [rawLines_alone hc hn] at hl
    cases i with
    | zero =>
      obtain rfl : ['\n'] = l := by simpa using hl
      simp [lineAt_eq, rawLines_alone hc hn, trimNewline]
    | succ i =>
      rw [lineAt_alone_succ hc hn]
      exact ih (List.forall_mem_cons.mp ht).2 (by simpa using hl) (by omega)
  | plain c t hc ih =>
    obtain ⟨m, ms, hm, hm'⟩ := rawLines_plain hc t
    have ht := (List.forall_mem_cons.mp ht).2
    rw [lineCount_plain hc] at hi
    rw [hm'] at hl
    cases i with
    | zero =>
      obtain rfl : c :: m = l := by simpa using hl
      rw [lineAt_plain_zero hc]
      exact congrArg (c :: ·) (ih (i := 0) ht (by simp [hm]) hi)
    | succ i =>
      rw [lineAt_plain_succ hc]
      exact ih ht (by simpa [hm] using hl) hi

lemma FeedsOnly.le_lineLength_iff (ht : FeedsOnly t) (hl : (rawLines t)[i]? = some l) :
    k ≤ lineLength t i ↔ k < byteLength l ∨ i + 1 = t.lineCount ∧ k ≤ byteLength l := by
  have hi : i < t.lineCount := (List.getElem?_eq_some_iff.mp hl).1
  rcases Nat.lt_or_ge (i + 1) t.lineCount with hlt | hge
  · have hb := congrArg byteLength (ht.raw_eq hl hlt)
    rw [byteLength_append, byteLength_cons, byteLength_nil, ← lineLength] at hb
    have hfeed : Char.utf8Size '\n' = 1 := by decide
    omega
  · have hlast : (rawLines t).getLast? = some l := by
      rw [List.getLast?_eq_getElem?, ← hl]
      congr 1
      rw [lineCount] at hi hge
      omega
    rw [lineLength, lineAt_of_raw hl, trimNewline_last hlast]
    omega

lemma clamp_eq_self_iff : clamp t p = p ↔ p.line < t.lineCount ∧ p.byte ≤ lineLength t p.line := by
  constructor
  · intro h
    have hline := clamp_line t p
    have hbyte : (clamp t p).byte ≤ lineLength t (clamp t p).line := Nat.min_le_right ..
    rw [h] at hline hbyte
    exact ⟨hline, hbyte⟩
  · rintro ⟨hline, hbyte⟩
    have hm : min p.line (t.lineCount - 1) = p.line := by omega
    simp only [clamp, hm, Nat.min_eq_left hbyte]

lemma FeedsOnly.positionOf_offsetOf (ht : FeedsOnly t) (p : Position) :
    positionOf t (offsetOf t p) = clamp t p := by
  obtain ⟨hline, hbyte⟩ := clamp_eq_self_iff.mp (clamp_clamp t p)
  obtain ⟨l, hl⟩ := exists_raw hline
  have hk := (ht.le_lineLength_iff hl).mp hbyte
  have hle : offsetOf t p ≤ byteLength t := by
    have hend := lineStart_le t ((clamp t p).line + 1)
    rw [lineStart_succ hl] at hend
    simp only [offsetOf]
    omega
  rw [positionOf, Nat.min_eq_left hle]
  exact locate_line hl (hk.imp_right And.left)

lemma FeedsOnly.offsetOf_positionOf (ht : FeedsOnly t) (n : Nat) :
    offsetOf t (positionOf t n) = min n (byteLength t) := by
  have hle : min n (byteLength t) ≤ byteLength (rawLines t).flatten := by
    rw [rawLines_flatten]
    exact Nat.min_le_right ..
  obtain ⟨l, hl, hsum, hbyte⟩ := locate_spec (rawLines_ne_nil t) hle
  rw [← positionOf] at hl hsum hbyte
  have hline : (positionOf t n).line < t.lineCount := (List.getElem?_eq_some_iff.mp hl).1
  have hself := clamp_eq_self_iff.mpr ⟨hline, (ht.le_lineLength_iff hl).mpr hbyte⟩
  rw [offsetOf, hself]
  exact hsum

/-- Where lines end with line feeds only, positions and offsets stand for each other: the way there
and back moves either into the text, and within the text their orders agree. -/
theorem positions_iso_offsets (ht : FeedsOnly t) :
    (∀ p, positionOf t (offsetOf t p) = clamp t p) ∧
      (∀ n, offsetOf t (positionOf t n) = min n (byteLength t)) ∧
      ∀ p q, clamp t p = p → clamp t q = q → (p ≤ q ↔ offsetOf t p ≤ offsetOf t q) := by
  refine ⟨ht.positionOf_offsetOf, ht.offsetOf_positionOf, fun p q hp hq => ⟨fun hpq => ?_, ?_⟩⟩
  · exact offsetOf_mono (clamp_eq_self_iff.mp hq).1 hpq
  · intro hle
    by_contra hn
    have hqp : q ≤ p := by
      rw [Position.le_def] at hn ⊢
      omega
    have hge := offsetOf_mono (clamp_eq_self_iff.mp hp).1 hqp
    have heq : p = q := by
      rw [← hp, ← hq, ← ht.positionOf_offsetOf, ← ht.positionOf_offsetOf q,
        Nat.le_antisymm hle hge]
    exact hn (heq ▸ .inr ⟨rfl, Nat.le_refl _⟩)

theorem sample_positions_iso_offsets :
    let t := ['a', 'b', '\n', '\n', 'é', 'c', '\n']
    FeedsOnly t ∧ positionOf t (offsetOf t ⟨0, 9⟩) = ⟨0, 2⟩ ∧
      positionOf t (offsetOf t ⟨7, 1⟩) = ⟨3, 0⟩ ∧ offsetOf t (positionOf t 3) = 3 ∧
      offsetOf t (positionOf t 20) = 8 ∧ offsetOf t ⟨1, 0⟩ ≤ offsetOf t ⟨2, 2⟩ := by
  intro t
  have ht : FeedsOnly t := by decide
  obtain ⟨hp, hn, hle⟩ := positions_iso_offsets ht
  exact ⟨ht, hp _, hp _, hn _, hn _, (hle ⟨1, 0⟩ ⟨2, 2⟩ rfl rfl).mp (by decide)⟩

end ModalEdit.Text
