import ModalEdit.Proofs.Bytes
import ModalEdit.Text.Lines

namespace ModalEdit.Text

variable {t a b l : Text} {c : Char} {i k : Nat}

lemma not_isLineBreak_ne (hc : isLineBreak c = false) : c ≠ '\n' := by
  rintro rfl
  cases hc

@[elab_as_elim]
theorem breakInduction {P : Text → Prop} (nil : P []) (pair : ∀ t, P t → P ('\r' :: '\n' :: t))
    (alone : ∀ c t, isLineBreak c = true → ¬(c = '\r' ∧ t.head? = some '\n') → P t → P (c :: t))
    (plain : ∀ c t, isLineBreak c = false → P t → P (c :: t)) (t : Text) : P t := by
  induction t using rawLines.induct with
  | case1 => exact nil
  | case2 t ih => exact pair t ih
  | case3 c t hn hc ih =>
    refine alone c t hc ?_ ih
    rintro ⟨rfl, ht⟩
    obtain ⟨t', rfl⟩ := List.head?_eq_some_iff.mp ht
    exact hn t' rfl rfl
  | case4 c t hn hc ih => exact plain c t ((Bool.not_eq_true _).mp hc) ih

@[simp] lemma rawLines_pair (t : Text) :
    rawLines ('\r' :: '\n' :: t) = ['\r', '\n'] :: rawLines t := rfl

lemma rawLines_alone (hc : isLineBreak c = true) (hn : ¬(c = '\r' ∧ t.head? = some '\n')) :
    rawLines (c :: t) = [c] :: rawLines t := by
  rw [rawLines, if_pos hc]
  rintro t' rfl rfl
  exact hn ⟨rfl, rfl⟩

lemma exists_rawLines (t : Text) : ∃ l ls, rawLines t = l :: ls := by
  induction t using breakInduction with
  | nil => exact ⟨_, _, rfl⟩
  | pair t ih => exact ⟨_, _, rfl⟩
  | alone c t hc hn ih => exact ⟨_, _, rawLines_alone hc hn⟩
  | plain c t hc ih =>
    obtain ⟨l, ls, hl⟩ := ih
    refine ⟨c :: l, ls, ?_⟩
    rw [rawLines, hc, hl]
    · rfl
    · rintro t' rfl rfl
      cases hc

lemma rawLines_plain (hc : isLineBreak c = false) (t : Text) :
    ∃ l ls, rawLines t = l :: ls ∧ rawLines (c :: t) = (c :: l) :: ls := by
  obtain ⟨l, ls, hl⟩ := exists_rawLines t
  refine ⟨l, ls, hl, ?_⟩
  rw [rawLines, hc, hl]
  · rfl
  · rintro t' rfl rfl
    cases hc

lemma rawLines_ne_nil (t : Text) : rawLines t ≠ [] := by
  obtain ⟨l, ls, hl⟩ := exists_rawLines t
  simp [hl]

lemma rawLines_head_ne_nil {l' : Text} {ls : List Text} (h : rawLines t = l :: l' :: ls) :
    l ≠ [] := by
  rintro rfl
  cases t using breakInduction with
  | nil => simp [rawLines] at h
  | pair t => simp at h
  | alone c t hc hn => simp [rawLines_alone hc hn] at h
  | plain c t hc =>
    obtain ⟨m, ms, -, hr⟩ := rawLines_plain hc t
    simp [hr] at h

@[simp] lemma rawLines_flatten (t : Text) : (rawLines t).flatten = t := by
  induction t using breakInduction with
  | nil => rfl
  | pair t ih => simp [ih]
  | alone c t hc hn ih => simp [rawLines_alone hc hn, ih]
  | plain c t hc ih =>
    obtain ⟨l, ls, hr, hr'⟩ := rawLines_plain hc t
    rw [hr] at ih
    rw [hr', ← ih]
    rfl

section trim

lemma trimNewline_cons (hc : c ≠ '\n') (l : Text) : trimNewline (c :: l) = c :: trimNewline l := by
  cases l with
  | nil => simp [trimNewline, hc]
  | cons d l =>
    simp only [trimNewline, List.getLast?_cons_cons, List.dropLast_cons_of_ne_nil, ne_eq,
      reduceCtorEq, not_false_eq_true]
    split <;> rfl

lemma trimNewline_beginning (l : Text) : trimNewline l <+: l := by
  unfold trimNewline
  split
  · exact List.dropLast_prefix l
  · exact List.prefix_rfl

lemma trimNewline_cases (l : Text) :
    l.getLast? = some '\n' ∧ l = trimNewline l ++ ['\n'] ∨
      l.getLast? ≠ some '\n' ∧ l = trimNewline l := by
  unfold trimNewline
  split
  · rename_i h
    obtain ⟨l, rfl⟩ := List.getLast?_eq_some_iff.mp h
    exact .inl ⟨h, by rw [List.dropLast_concat]⟩
  · rename_i h
    exact .inr ⟨h, rfl⟩

lemma byteLength_trimNewline_le (l : Text) : byteLength (trimNewline l) ≤ byteLength l := by
  obtain ⟨w, hw⟩ := trimNewline_beginning l
  have hl := congrArg byteLength hw
  rw [byteLength_append] at hl
  omega

lemma trimNewline_last (hl : (rawLines t).getLast? = some l) : trimNewline l = l := by
  induction t using breakInduction generalizing l with
  | nil =>
    obtain rfl : [] = l := by simpa [rawLines] using hl
    rfl
  | pair t ih =>
    rw [rawLines_pair, List.getLast?_cons_of_ne_nil (rawLines_ne_nil t)] at hl
    exact ih hl
  | alone c t hc hn ih =>
    rw [rawLines_alone hc hn, List.getLast?_cons_of_ne_nil (rawLines_ne_nil t)] at hl
    exact ih hl
  | plain c t hc ih =>
    obtain ⟨l', ls, hr, hr'⟩ := rawLines_plain hc t
    rw [hr'] at hl
    rw [hr] at ih
    cases ls with
    | nil =>
      obtain rfl : c :: l' = l := by simpa using hl
      rw [trimNewline_cons (not_isLineBreak_ne hc), ih (l := l') rfl]
    | cons l'' ls => exact ih hl

end trim

section counts

lemma lineCount_pos (t : Text) : 0 < t.lineCount :=
  List.length_pos_iff.mpr (rawLines_ne_nil t)

lemma lineCount_eq_length (t : Text) : t.lineCount = t.lines.length := by
  rw [lines, List.length_map]
  rfl

lemma getElem?_lines (hi : i < t.lineCount) : t.lines[i]? = some (t.lineAt i) := by
  have hlt : i < t.lines.length := by rwa [← lineCount_eq_length]
  simp [lineAt, line?, hlt]

lemma set_lineAt (hi : i < t.lineCount) : t.lines.set i (t.lineAt i) = t.lines := by
  rw [← (List.getElem?_eq_some_iff.mp (getElem?_lines hi)).2]
  exact List.set_getElem_self _

lemma lineCount_pair (t : Text) : lineCount ('\r' :: '\n' :: t) = lineCount t + 1 := rfl

lemma lineCount_alone (hc : isLineBreak c = true) (hn : ¬(c = '\r' ∧ t.head? = some '\n')) :
    lineCount (c :: t) = lineCount t + 1 := by
  rw [lineCount, rawLines_alone hc hn]
  rfl

lemma lineCount_plain (hc : isLineBreak c = false) (t : Text) :
    lineCount (c :: t) = lineCount t := by
  obtain ⟨l, ls, hr, hr'⟩ := rawLines_plain hc t
  rw [lineCount, lineCount, hr, hr']
  rfl

lemma lineCount_cons (c : Char) (t : Text) :
    lineCount t ≤ lineCount (c :: t) ∧ lineCount (c :: t) ≤ lineCount t + 1 := by
  cases hc : isLineBreak c with
  | false =>
    rw [lineCount_plain hc]
    exact ⟨Nat.le_refl _, Nat.le_succ _⟩
  | true =>
    by_cases hp : c = '\r' ∧ t.head? = some '\n'
    · obtain ⟨rfl, ht⟩ := hp
      obtain ⟨t, rfl⟩ := List.head?_eq_some_iff.mp ht
      have hn : lineCount ('\n' :: t) = lineCount t + 1 := lineCount_alone (by decide) (by simp)
      rw [lineCount_pair, hn]
      omega
    · rw [lineCount_alone hc hp]
      omega

lemma lineCount_le_append (a b : Text) : lineCount b ≤ lineCount (a ++ b) := by
  induction a with
  | nil => exact Nat.le_refl _
  | cons c a ih => exact Nat.le_trans ih (lineCount_cons c _).1

lemma lineCount_le_insert (a u b : Text) : lineCount (a ++ b) ≤ lineCount (a ++ (u ++ b)) := by
  induction a using breakInduction with
  | nil => exact lineCount_le_append u b
  | pair a ih => simpa [lineCount_pair] using ih
  | plain c a hc ih => simpa [lineCount_plain hc] using ih
  | alone c a hc hn ih =>
    have hle := (lineCount_cons c (a ++ b)).2
    by_cases hp : c = '\r' ∧ (a ++ (u ++ b)).head? = some '\n'
    · obtain ⟨rfl, hh⟩ := hp
      cases a with
      | cons d a => exact absurd ⟨rfl, hh⟩ hn
      | nil =>
        cases u with
        | nil => exact Nat.le_refl _
        | cons d u =>
          obtain rfl : d = '\n' := Option.some.inj hh
          have hu := lineCount_le_append u b
          simp only [List.nil_append, List.cons_append, lineCount_pair] at hle ⊢
          omega
    · rw [List.cons_append, List.cons_append, lineCount_alone hc hp]
      omega

end counts

section starts

@[simp] lemma lineStart_zero (t : Text) : lineStart t 0 = 0 := by
  simp [lineStart]

lemma lineStart_succ (hl : (rawLines t)[i]? = some l) :
    lineStart t (i + 1) = lineStart t i + byteLength l := by
  rw [lineStart, lineStart, List.take_add_one, hl]
  simp

lemma lineStart_le (t : Text) (i : Nat) : lineStart t i ≤ byteLength t := by
  have h := congrArg (fun ls => byteLength ls.flatten) (List.take_append_drop i (rawLines t))
  simp only [List.flatten_append, byteLength_append, rawLines_flatten] at h
  rw [lineStart]
  omega

lemma exists_raw (hi : i < t.lineCount) : ∃ l, (rawLines t)[i]? = some l :=
  ⟨_, List.getElem?_eq_getElem hi⟩

lemma lineStart_mono (hij : i ≤ k) : lineStart t i ≤ lineStart t k := by
  induction hij with
  | refl => exact Nat.le_refl _
  | @step k _ ih =>
    refine Nat.le_trans ih ?_
    rcases Nat.lt_or_ge k t.lineCount with hk | hk
    · obtain ⟨l, hl⟩ := exists_raw hk
      rw [lineStart_succ hl]
      omega
    · have hk' : (rawLines t).length ≤ k + 1 := Nat.le_succ_of_le hk
      refine Nat.le_of_eq ?_
      rw [lineStart, lineStart, List.take_of_length_le hk, List.take_of_length_le hk']

end starts

section lineAt

lemma lineAt_eq (t : Text) (i : Nat) : t.lineAt i = trimNewline ((rawLines t)[i]?.getD []) := by
  cases h : (rawLines t)[i]? <;> simp [lineAt, line?, lines, h, trimNewline]

lemma lineAt_of_raw (hl : (rawLines t)[i]? = some l) : t.lineAt i = trimNewline l := by
  simp [lineAt_eq, hl]

lemma lineAt_of_le (hi : t.lineCount ≤ i) : t.lineAt i = [] := by
  have hn : (rawLines t)[i]? = none := List.getElem?_eq_none hi
  simp [lineAt_eq, hn, trimNewline]

lemma exists_line (hi : i < t.lineCount) :
    ∃ a b, t = a ++ (t.lineAt i ++ b) ∧ byteLength a = lineStart t i := by
  obtain ⟨l, hl⟩ := exists_raw hi
  obtain ⟨w, hw⟩ := trimNewline_beginning l
  obtain ⟨hlt, hget⟩ := List.getElem?_eq_some_iff.mp hl
  have hr := List.take_append_drop i (rawLines t)
  rw [List.drop_eq_getElem_cons hlt, hget, ← hw] at hr
  refine ⟨((rawLines t).take i).flatten, w ++ ((rawLines t).drop (i + 1)).flatten, ?_, rfl⟩
  have ht := congrArg List.flatten hr
  rw [rawLines_flatten] at ht
  simpa [lineAt_of_raw hl] using ht.symm

lemma lineAt_plain_zero (hc : isLineBreak c = false) (t : Text) :
    lineAt (c :: t) 0 = c :: lineAt t 0 := by
  obtain ⟨l, ls, hr, hr'⟩ := rawLines_plain hc t
  simp [lineAt_eq, hr, hr', trimNewline_cons (not_isLineBreak_ne hc)]

lemma lineAt_plain_succ (hc : isLineBreak c = false) (t : Text) (i : Nat) :
    lineAt (c :: t) (i + 1) = lineAt t (i + 1) := by
  obtain ⟨l, ls, hr, hr'⟩ := rawLines_plain hc t
  simp [lineAt_eq, hr, hr']

lemma lineAt_alone_zero (hc : isLineBreak c = true) (hn : c ≠ '\n') (t : Text) :
    lineAt (c :: t) 0 = [c] := by
  by_cases hp : c = '\r' ∧ t.head? = some '\n'
  · obtain ⟨rfl, ht⟩ := hp
    obtain ⟨t, rfl⟩ := List.head?_eq_some_iff.mp ht
    simp [lineAt_eq, trimNewline]
  · simpa [lineAt_eq, rawLines_alone hc hp, trimNewline] using hn

lemma lineAt_alone_succ (hc : isLineBreak c = true) (hn : ¬(c = '\r' ∧ t.head? = some '\n'))
    (i : Nat) : lineAt (c :: t) (i + 1) = lineAt t i := by
  simp [lineAt_eq, rawLines_alone hc hn]

lemma lineAt_pair_succ (t : Text) (i : Nat) :
    lineAt ('\r' :: '\n' :: t) (i + 1) = lineAt t i := by
  simp [lineAt_eq]

lemma of_lines_drop {ls : List Text} (h : t.lines.drop i = l :: ls) :
    i < t.lineCount ∧ t.lineAt i = l ∧ t.lines.drop (i + 1) = ls := by
  have hl : t.lines[i]? = some l := by
    rw [← List.head?_drop, h]
    rfl
  obtain ⟨hi, -⟩ := List.getElem?_eq_some_iff.mp hl
  rw [lines, List.length_map] at hi
  refine ⟨hi, ?_, ?_⟩
  · rw [lineAt, line?, hl]
    rfl
  · rw [← List.drop_drop, h]
    rfl

end lineAt

inductive WithinLine : Text → Prop
  | nil : WithinLine []
  | last {c : Char} (hn : c ≠ '\n') : WithinLine [c]
  | plain {c : Char} {t : Text} (hc : isLineBreak c = false) (h : WithinLine t) :
      WithinLine (c :: t)

namespace WithinLine

variable {m : Text}

lemma takeBytes (h : WithinLine m) (n : Nat) : WithinLine (takeBytes n m) := by
  induction h generalizing n with
  | nil => exact .nil
  | last hn =>
    unfold Text.takeBytes
    split
    · exact .last hn
    · exact .nil
  | plain hc _ ih =>
    unfold Text.takeBytes
    split
    · exact .plain hc (ih _)
    · exact .nil

lemma dropBytes (h : WithinLine m) (n : Nat) : WithinLine (dropBytes n m) := by
  induction h generalizing n with
  | nil => exact .nil
  | last hn =>
    unfold Text.dropBytes
    split
    · exact .nil
    · exact .last hn
  | plain hc h ih =>
    unfold Text.dropBytes
    split
    · exact ih _
    · exact .plain hc h

lemma head_append (h : WithinLine m) (hf : (a ++ m ++ b).head? = some '\n') :
    (a ++ b).head? = some '\n' := by
  cases a with
  | cons c a => exact hf
  | nil =>
    cases h with
    | nil => exact hf
    | last hn => exact absurd (Option.some.inj hf) hn
    | plain hc h => exact absurd (Option.some.inj hf) (not_isLineBreak_ne hc)

lemma not_mem (h : WithinLine m) : '\n' ∉ m := by
  induction h with
  | nil => exact List.not_mem_nil
  | last hn => exact fun hm => hn (List.mem_singleton.mp hm).symm
  | plain hc _ ih =>
    intro hm
    rcases List.mem_cons.mp hm with rfl | hm
    · cases hc
    · exact ih hm

lemma of_raw (hl : l ∈ rawLines t) : WithinLine (trimNewline l) := by
  induction t using breakInduction generalizing l with
  | nil =>
    obtain rfl := List.mem_singleton.mp hl
    exact .nil
  | pair t ih =>
    rcases List.mem_cons.mp hl with rfl | hl
    · exact .last (c := '\r') (by decide)
    · exact ih hl
  | alone c t hc hn ih =>
    rw [rawLines_alone hc hn] at hl
    rcases List.mem_cons.mp hl with rfl | hl
    · by_cases hc' : c = '\n'
      · exact hc' ▸ .nil
      · rw [trimNewline_cons hc']
        exact .last hc'
    · exact ih hl
  | plain c t hc ih =>
    obtain ⟨l', ls, hr, hr'⟩ := rawLines_plain hc t
    rw [hr'] at hl
    rw [hr] at ih
    rcases List.mem_cons.mp hl with rfl | hl
    · rw [trimNewline_cons (not_isLineBreak_ne hc)]
      exact .plain hc (ih List.mem_cons_self)
    · exact ih (List.mem_cons_of_mem _ hl)

lemma of_lineAt (t : Text) (i : Nat) : WithinLine (t.lineAt i) := by
  rcases Nat.lt_or_ge i t.lineCount with hi | hi
  · obtain ⟨l, hl⟩ := exists_raw hi
    exact lineAt_of_raw hl ▸ of_raw (List.mem_of_getElem? hl)
  · exact lineAt_of_le hi ▸ .nil

end WithinLine

end ModalEdit.Text
