import ModalEdit.Proofs.Unbroken

namespace ModalEdit

open Text
open Surface (delete_between erase_rest stopOffset_of_ends)

namespace Text

inductive Loses : Text → Text → List Text → Prop
  | nil (t : Text) : Loses t t []
  | cons (a p : Text) {t t' : Text} {ps : List Text} (h : Loses t t' ps) :
      Loses (a ++ (p ++ t)) (a ++ t') (p :: ps)

lemma Loses.one {t t' a m b : Text} (ht : t = a ++ (m ++ b)) (ht' : t' = a ++ b) :
    Loses t t' [m] := by
  subst ht ht'
  exact .cons a m (.nil b)

lemma Loses.append {t t' : Text} {ps : List Text} (h : Loses t t' ps) (a : Text) :
    Loses (a ++ t) (a ++ t') ps := by
  cases h with
  | nil t => exact .nil _
  | cons b p h => simpa using Loses.cons (a ++ b) p h

variable {t a b l : Text} {i n : Nat}

lemma sliceBytes_between (a m b : Text) :
    sliceBytes (byteLength a) (byteLength (a ++ m)) (a ++ (m ++ b)) = m := by
  have hd : dropBytes (byteLength (a ++ m)) (a ++ (m ++ b)) = b := by
    rw [← List.append_assoc, dropBytes_left]
  have hn : byteLength a + (byteLength m + byteLength b) - byteLength b - byteLength a =
      byteLength m := by omega
  rw [sliceBytes, hd, takeBytes_left, dropBytes_left, byteLength_append, byteLength_append, hn,
    takeBytes_left]

def wholeLines (t : Text) (i n : Nat) : Text :=
  (List.range' i n).flatMap fun k => t.lineAt k ++ ['\n']

@[simp] lemma wholeLines_zero (t : Text) (i : Nat) : t.wholeLines i 0 = [] := rfl

lemma wholeLines_succ (t : Text) (i n : Nat) :
    t.wholeLines i (n + 1) = t.wholeLines i n ++ (t.lineAt (i + n) ++ ['\n']) := by
  simp [wholeLines, List.range'_1_concat]

lemma wholeLines_cons (t : Text) (i n : Nat) :
    t.wholeLines i (n + 1) = t.lineAt i ++ '\n' :: t.wholeLines (i + 1) n := by
  simp [wholeLines, List.range'_succ]

lemma exists_around_later (ht : ∀ l ∈ t.lines, Unbroken l) (hab : t = a ++ (t.lineAt i ++ b))
    (h : Around a b i) (hn : i + n < t.lineCount) :
    ∃ b', t = a ++ t.wholeLines i n ++ (t.lineAt (i + n) ++ b') ∧
      Around (a ++ t.wholeLines i n) b' (i + n) := by
  induction n with
  | zero => exact ⟨b, by simpa using hab, by simpa using h⟩
  | succ n ih =>
    obtain ⟨b₁, hb, h₁⟩ := ih (Nat.lt_of_succ_lt hn)
    obtain ⟨b', rfl, h'⟩ := exists_next ht hb h₁ hn
    rw [wholeLines_succ, ← List.append_assoc]
    exact ⟨b', by simpa [Nat.add_assoc] using hb, h'⟩

lemma Valid.exists_between {p q : Position} (hp : Valid t p) (hq : Valid t q)
    (hl : q.line = p.line) (hle : p.byte ≤ q.byte) :
    ∃ a u m v b, t = a ++ u ++ (m ++ b) ∧ offsetOf t p = byteLength (a ++ u) ∧
      offsetOf t q = byteLength (a ++ u ++ m) ∧ t.lineAt p.line = u ++ (m ++ v) ∧
      byteLength u = p.byte ∧ byteLength (u ++ m) = q.byte := by
  obtain ⟨u, w, hx, hu⟩ := isCharBoundary_iff.mp hp.2
  obtain ⟨w', v, hx', hw'⟩ := isCharBoundary_iff.mp hq.2
  rw [hl] at hx'
  obtain ⟨m, rfl, rfl⟩ := exists_append_of_le (hx.symm.trans hx') (by omega)
  obtain ⟨a, b, ht, ha⟩ := exists_line hp.1
  rw [hx] at ht
  refine ⟨a, u, m, v, v ++ b, by simpa using ht, ?_, ?_, hx, hu, hw'⟩
  · rw [offsetOf, clamp_of_valid hp, byteLength_append, ha, hu]
  · rw [offsetOf, clamp_of_valid hq, hl, List.append_assoc, byteLength_append, ha, hw']

end Text

lemma mem_lineRange {first last i : Nat} : i ∈ lineRange first last ↔ first ≤ i ∧ i ≤ last := by
  rw [lineRange, List.mem_range'_1]
  omega

namespace Span

lemma joinLines_concat (ls : List Text) (l : Text) :
    joinLines (ls ++ [l]) = ls.flatMap (· ++ ['\n']) ++ l := by
  induction ls with
  | nil => simp [joinLines]
  | cons x ls ih =>
    rw [joinLines] at ih ⊢
    rw [List.cons_append, List.intercalate_cons_of_ne_nil (by simp), ih]
    simp

section chars

variable {t : Text} (start stop : Position) {u v u' v' : Text}

lemma joinLines_within (hl : stop.line = start.line) {m : Text}
    (hx : t.lineAt start.line = u ++ (m ++ v)) (hu : byteLength u = start.byte)
    (hm : byteLength (u ++ m) = min stop.byte (t.lineLength stop.line)) :
    joinLines (((chars start stop).segments t).map (Segment.text t)) = m := by
  have hn : lineRange start.line start.line = [start.line] := by simp [lineRange]
  have hlen : byteLength u ≤ t.lineLength start.line := by
    rw [Text.lineLength, hx, byteLength_append]
    exact Nat.le_add_right ..
  have hle : byteLength u ≤ byteLength (u ++ m) := by
    rw [byteLength_append]
    exact Nat.le_add_right ..
  rw [segments, hl, hn]
  rw [hl] at hm
  simp only [List.map_cons, List.map_nil, if_true, Segment.text, ← hu, ← hm,
    Nat.min_eq_left hlen, Nat.max_eq_right hle, hx, sliceBytes_between]
  simp [joinLines]

lemma joinLines_over {n : Nat} (hl : stop.line = start.line + (n + 1))
    (hx : t.lineAt start.line = u ++ v) (hy : t.lineAt stop.line = u' ++ v')
    (hu : byteLength u = start.byte)
    (hu' : byteLength u' = min stop.byte (t.lineLength stop.line)) :
    joinLines (((chars start stop).segments t).map (Segment.text t)) =
      v ++ '\n' :: (t.wholeLines (start.line + 1) n ++ u') := by
  have hr : lineRange start.line stop.line =
      start.line :: (List.range' (start.line + 1) n ++ [stop.line]) := by
    rw [lineRange, hl, show start.line + (n + 1) + 1 - start.line = n + 1 + 1 by omega,
      List.range'_succ, List.range'_1_concat]
    simp [Nat.add_assoc, Nat.add_comm 1]
  have hne : stop.line ≠ start.line := by omega
  rw [segments, List.map_map, hr]
  generalize hg : Segment.text t ∘ _ = g
  have hfirst : g start.line = v := by
    have hlen : t.lineLength start.line = byteLength u + byteLength v := by
      rw [Text.lineLength, hx, byteLength_append]
    have hs := sliceBytes_between u v []
    rw [List.append_nil, byteLength_append] at hs
    simp [← hg, Segment.text, hne.symm, hlen, ← hu, hx, hs]
  have hlast : g stop.line = u' := by
    have hs := sliceBytes_between [] u' v'
    rw [List.nil_append, ← hy, hu'] at hs
    simpa [← hg, Segment.text, hne] using hs
  have hmid : (List.range' (start.line + 1) n).map g =
      (List.range' (start.line + 1) n).map t.lineAt := by
    refine List.map_congr_left fun k hk => ?_
    obtain ⟨hk, hk'⟩ := List.mem_range'_1.mp hk
    have hs := sliceBytes_between [] (t.lineAt k) []
    rw [List.nil_append, List.append_nil] at hs
    have h₁ : k ≠ start.line := by omega
    have h₂ : k ≠ stop.line := by omega
    simpa [← hg, Segment.text, h₁, h₂, Text.lineLength] using hs
  rw [List.map_cons, List.map_append, hmid, hfirst, List.map_singleton, hlast, ← List.cons_append,
    joinLines_concat]
  simp [wholeLines, List.flatMap_map]

lemma start_le (first n k : Nat) : (⟨first, 0⟩ : Position) ≤ ⟨first + n, k⟩ := by
  rw [Position.le_def]
  dsimp only
  omega

lemma append_joinLines (hle : start ≤ stop) {n : Nat} (hn : stop.line = start.line + n)
    (hx : t.lineAt start.line = u ++ v) (hy : t.lineAt stop.line = u' ++ v')
    (hu : byteLength u = start.byte)
    (hu' : byteLength u' = min stop.byte (t.lineLength stop.line)) :
    u ++ joinLines (((chars start stop).segments t).map (Segment.text t)) =
      t.wholeLines start.line n ++ u' := by
  cases n with
  | zero =>
    have hlen : byteLength u ≤ t.lineLength stop.line := by
      rw [hn, Nat.add_zero, Text.lineLength, hx, byteLength_append]
      exact Nat.le_add_right ..
    rw [Position.le_def] at hle
    rw [hn] at hy
    obtain ⟨m, rfl, rfl⟩ := exists_append_of_le (hx.symm.trans hy) (by omega)
    rw [joinLines_within start stop hn hx hu hu']
    rfl
  | succ n =>
    rw [joinLines_over start stop hn hx hy hu hu', wholeLines_cons, hx]
    simp

lemma exists_region (ht : ∀ l ∈ t.lines, Unbroken l) (hstart : Valid t start) (hle : start ≤ stop)
    (hl : stop.line < t.lineCount)
    (hstop : IsCharBoundary (t.lineAt stop.line) (min stop.byte (t.lineLength stop.line))) :
    ∃ a m b, t = a ++ (m ++ b) ∧ offsetOf t start = byteLength a ∧
      Ends (a ++ m) b stop.line (min stop.byte (t.lineLength stop.line)) ∧
      joinLines (((chars start stop).segments t).map (Segment.text t)) = m ∧
      (t.lineLength stop.line ≤ stop.byte → (stop.line + 1 < t.lineCount → ∃ w, b = '\n' :: w) ∧
        (t.lineCount ≤ stop.line + 1 → b = [])) := by
  obtain ⟨u, v, hx, hu⟩ := isCharBoundary_iff.mp hstart.2
  obtain ⟨u', v', hy, hu'⟩ := isCharBoundary_iff.mp hstop
  obtain ⟨a, b, hab, h⟩ := exists_around ht hstart.1
  obtain ⟨n, hn⟩ : ∃ n, stop.line = start.line + n := by
    rw [Position.le_def] at hle
    exact ⟨stop.line - start.line, by omega⟩
  obtain ⟨b', hab', h'⟩ := exists_around_later ht hab h (hn ▸ hl)
  rw [← hn] at hab' h'
  have hpieces := append_joinLines start stop hle hn hx hy hu hu'
  have hux := (unbroken_append.mp (hx ▸ lineAt_unbroken ht start.line)).1
  have huy := (unbroken_append.mp (hy ▸ lineAt_unbroken ht stop.line)).1
  refine ⟨a ++ u, _, v' ++ b', ?_, ?_, ?_, rfl, fun hlen => ?_⟩
  · rw [List.append_assoc, ← List.append_assoc u, hpieces]
    simpa [hy] using hab'
  · have ho := h.offset hux (v ++ b)
    rw [hu] at ho
    rwa [hab, hx, List.append_assoc, ← List.append_assoc a]
  · rw [List.append_assoc, hpieces, ← List.append_assoc, ← hu']
    exact h'.ends huy _
  · obtain rfl : v' = [] := by
      have hlast := congrArg byteLength hy
      rw [byteLength_append, hu', Nat.min_eq_right hlen, Text.lineLength] at hlast
      exact byteLength_eq_zero.mp (by omega)
    refine ⟨fun hnext => ?_, fun hlast => ?_⟩
    · obtain ⟨b'', rfl, -⟩ := exists_next ht hab' h' hnext
      exact ⟨_, rfl⟩
    · exact h'.last (lineAt_unbroken ht stop.line) (by rwa [← hab'])

lemma joinLines_from {first n k : Nat} (hk : t.lineLength (first + n) ≤ k) :
    joinLines (((chars ⟨first, 0⟩ ⟨first + n, k⟩).segments t).map (Segment.text t)) =
      t.wholeLines first n ++ t.lineAt (first + n) :=
  append_joinLines ⟨first, 0⟩ ⟨first + n, k⟩ (start_le ..) (u := []) rfl rfl
    (List.append_nil _).symm rfl (Nat.min_eq_right hk).symm

lemma textOf_from (t : Text) (first n : Nat) :
    (chars ⟨first, 0⟩ ⟨first + n, t.lineLength (first + n)⟩).textOf t =
      t.wholeLines first n ++ t.lineAt (first + n) := by
  rw [textOf, joinLines_from (Nat.le_refl _), if_neg fun h => Nat.lt_irrefl _ h.1, List.append_nil]

lemma textOf_lines (t : Text) (first n : Nat) : (lines first (first + n)).textOf t =
    t.wholeLines first n ++ t.lineAt (first + n) ++ ['\n'] := by
  have hr : lineRange first (first + n) = List.range' first (n + 1) := by
    rw [lineRange, show first + n + 1 - first = n + 1 by omega]
  rw [textOf, hr]
  simpa [wholeLines] using wholeLines_succ t first n

end chars

section erase

variable {s : Surface}

lemma erase_chars_between (start stop : Position) (hs : ∀ l ∈ s.text.lines, Unbroken l)
    (hstart : Valid s.text start) (hle : start ≤ stop) (hl : stop.line < s.lineCount)
    (hstop : IsCharBoundary (s.text.lineAt stop.line)
      (min stop.byte (s.text.lineLength stop.line))) :
    ∃ a b, s.text = a ++ ((chars start stop).textOf s.text ++ b) ∧
      ((chars start stop).erase s).text = a ++ b ∧ offsetOf s.text start = byteLength a := by
  obtain ⟨a, m, b, ht, ha, hends, hm, hend⟩ := exists_region start stop hs hstart hle hl hstop
  rw [textOf, hm]
  by_cases hp : s.text.lineLength stop.line < stop.byte
  · have hpast : s.stopOffset stop = byteLength (a ++ m) + 1 := by
      have ho := hends.offset
      rw [List.append_assoc, ← ht, offsetOf_min hl] at ho
      rw [Surface.stopOffset, if_pos ⟨hl, hp⟩, ho]
    by_cases hlast : stop.line + 1 < s.text.lineCount
    · obtain ⟨w, rfl⟩ := (hend (Nat.le_of_lt hp)).1 hlast
      rw [if_pos ⟨hp, hlast⟩]
      have ht : s.text = a ++ (m ++ ['\n'] ++ w) := by simpa using ht
      refine ⟨a, w, ht, (delete_between ht ha ?_).1, ha⟩
      rw [hpast, ← List.append_assoc, byteLength_append _ ['\n']]
      rfl
    · obtain rfl := (hend (Nat.le_of_lt hp)).2 (Nat.le_of_not_lt hlast)
      rw [if_neg fun h => hlast h.2, List.append_nil]
      refine ⟨a, [], ht, ?_, ha⟩
      rw [List.append_nil] at ht ⊢
      exact erase_rest ht ha (by omega)
  · rw [Nat.min_eq_left (Nat.le_of_not_lt hp)] at hends
    rw [if_neg fun h => hp h.1, List.append_nil]
    exact ⟨a, b, ht,
      (delete_between ht ha (stopOffset_of_ends hends (by simpa using ht))).1, ha⟩

lemma erase_chars_loses (start stop : Position) (hs : ∀ l ∈ s.text.lines, Unbroken l)
    (hstart : Valid s.text start) (hle : start ≤ stop) (hl : stop.line < s.lineCount)
    (hstop : IsCharBoundary (s.text.lineAt stop.line)
      (min stop.byte (s.text.lineLength stop.line))) :
    Loses s.text ((chars start stop).erase s).text [(chars start stop).textOf s.text] := by
  obtain ⟨a, b, ht, ht', -⟩ := erase_chars_between start stop hs hstart hle hl hstop
  exact .one ht ht'

lemma delete_within {p q : Position} (hp : Valid s.text p) (hq : Valid s.text q)
    (hl : q.line = p.line) (hle : p.byte ≤ q.byte) :
    (s.delete p q).2 = (chars p q).textOf s.text ∧
      Loses s.text (s.delete p q).1.text [(chars p q).textOf s.text] := by
  obtain ⟨a, u, m, v, b, ht, hstart, hend, hx, hu, hm⟩ := hp.exists_between hq hl hle
  have hlen : q.byte ≤ s.text.lineLength q.line := hq.2.le
  have hstop : s.stopOffset q = byteLength (a ++ u ++ m) :=
    (Surface.stopOffset_of_valid hq).trans hend
  have htext : (chars p q).textOf s.text = m := by
    rw [textOf, joinLines_within p q hl hx hu (by rw [Nat.min_eq_left hlen, hm]),
      if_neg fun h => Nat.not_lt_of_le hlen h.1, List.append_nil]
  obtain ⟨hrest, hpiece⟩ := delete_between ht hstart hstop
  rw [htext]
  exact ⟨hpiece, .one ht hrest⟩

lemma min_boundary {t : Text} {i k : Nat} (hk : t.lineLength i ≤ k) :
    IsCharBoundary (t.lineAt i) (min k (t.lineLength i)) := by
  rw [Nat.min_eq_right hk]
  exact isCharBoundary_length _

lemma erase_lines_inner {first n : Nat} (hs : ∀ l ∈ s.text.lines, Unbroken l)
    (hn : first + n + 1 < s.lineCount) :
    ∃ a b b', Around a b' first ∧ s.text = a ++ (s.text.wholeLines first (n + 1) ++ b) ∧
      ((lines first (first + n)).erase s).text = a ++ b := by
  have hnext : first + n + 1 < s.text.lineCount := hn
  obtain ⟨a, b', hab, h⟩ := exists_around hs (i := first) (by omega)
  obtain ⟨b, hb, h'⟩ := exists_around_later hs hab h (Nat.lt_of_succ_lt hnext)
  obtain ⟨w, rfl, -⟩ := exists_next hs hb h' hnext
  have ht := hb
  rw [List.append_assoc, ← List.singleton_append, ← List.append_assoc (lineAt _ _),
    ← List.append_assoc (wholeLines _ _ _), ← wholeLines_succ] at ht
  have he : (lines first (first + n)).erase s =
      s.erase ⟨first, 0⟩ ⟨first + n, s.text.lineLength (first + n) + 1⟩ := by
    simp only [Span.erase, lineBounds,
      if_pos (show first + n < s.text.lineCount - 1 by omega)]
  have hstart := h.offset unbroken_nil (s.text.wholeLines first (n + 1) ++
    (s.text.lineAt (first + n + 1) ++ w))
  rw [List.append_nil, ← ht] at hstart
  have hstop : s.stopOffset ⟨first + n, s.text.lineLength (first + n) + 1⟩ =
      byteLength (a ++ s.text.wholeLines first (n + 1)) := by
    have ho := h'.offset (lineAt_unbroken hs (first + n))
      ('\n' :: (s.text.lineAt (first + n + 1) ++ w))
    have hm := offsetOf_min (t := s.text) (i := first + n) (k := s.text.lineLength (first + n) + 1)
      (by omega)
    rw [Nat.min_eq_right (Nat.le_succ _), Text.lineLength] at hm
    rw [List.append_assoc, ← hb, hm] at ho
    rw [Surface.stopOffset, if_pos ⟨Nat.lt_of_succ_lt hn, Nat.lt_succ_self _⟩, Text.lineLength, ho,
      wholeLines_succ, ← List.append_assoc, ← List.append_assoc, byteLength_append _ ['\n']]
    rfl
  rw [he]
  exact ⟨a, _, b', h, ht, (delete_between ht hstart hstop).1⟩

lemma erase_lines_tail {first n : Nat} (hs : ∀ l ∈ s.text.lines, Unbroken l)
    (hl : first + 1 + n + 1 = s.lineCount) :
    ∃ a b', Around a b' first ∧
      s.text = a ++ s.text.lineAt first ++
        '\n' :: (s.text.wholeLines (first + 1) n ++ s.text.lineAt (first + 1 + n)) ∧
      ((lines (first + 1) (first + 1 + n)).erase s).text = a ++ s.text.lineAt first := by
  have hlast : first + 1 + n + 1 = s.text.lineCount := hl
  obtain ⟨a, b', hab, h⟩ := exists_around hs (i := first) (by omega)
  obtain ⟨b₁, rfl, h₁⟩ := exists_next hs hab h (by omega)
  have hab₁ : s.text = a ++ (s.text.lineAt first ++ ['\n']) ++ (s.text.lineAt (first + 1) ++ b₁) := by
    simpa using hab
  obtain ⟨b₂, hb, h₂⟩ := exists_around_later hs hab₁ h₁ (n := n) (by omega)
  obtain rfl : b₂ = [] := h₂.last (lineAt_unbroken hs _) (by rw [← hb]; exact Nat.le_of_eq hlast.symm)
  have ht : s.text = a ++ s.text.lineAt first ++
      '\n' :: (s.text.wholeLines (first + 1) n ++ s.text.lineAt (first + 1 + n)) := by
    simpa using hb
  have he : (lines (first + 1) (first + 1 + n)).erase s =
      s.erase ⟨first, s.text.lineLength first⟩
        ⟨first + 1 + n, s.text.lineLength (first + 1 + n)⟩ := by
    simp only [Span.erase, lineBounds, if_neg (show ¬first + 1 + n < s.text.lineCount - 1 by omega),
      if_pos (Nat.succ_pos first)]
    rfl
  have hstart : s.text.offsetOf ⟨first, s.text.lineLength first⟩ =
      byteLength (a ++ s.text.lineAt first) := by
    have ho := h.offset (lineAt_unbroken hs first)
      ('\n' :: (s.text.wholeLines (first + 1) n ++ s.text.lineAt (first + 1 + n)))
    rwa [← ht] at ho
  have hstop : s.stopOffset ⟨first + 1 + n, s.text.lineLength (first + 1 + n)⟩ =
      byteLength s.text := by
    rw [Surface.stopOffset, if_neg fun h => Nat.lt_irrefl _ h.2, offsetOf_end hlast, Nat.add_zero]
  rw [he]
  exact ⟨a, _, h, ht, erase_rest ht hstart (by rw [hstop, ← ht])⟩

lemma erase_lines_loses {first last : Nat} (hs : ∀ l ∈ s.text.lines, Unbroken l)
    (hle : first ≤ last) (hl : last < s.lineCount) :
    ∃ m p, (lines first last).textOf s.text = m ++ ['\n'] ∧
      (p = m ++ ['\n'] ∨ p = m ∨ p = '\n' :: m) ∧
      Loses s.text ((lines first last).erase s).text [p] := by
  obtain ⟨n, rfl⟩ : ∃ n, last = first + n := ⟨last - first, by omega⟩
  refine ⟨s.text.wholeLines first n ++ s.text.lineAt (first + n), ?_⟩
  by_cases hnext : first + n + 1 < s.lineCount
  · obtain ⟨a, b, -, -, ht, ht'⟩ := erase_lines_inner hs hnext
    rw [wholeLines_succ, ← List.append_assoc (wholeLines _ _ _)] at ht
    exact ⟨_, textOf_lines .., .inl rfl, .one ht ht'⟩
  · have hend : first + n + 1 = s.lineCount := by omega
    cases first with
    | zero =>
      have hlast : ¬0 + n < s.text.lineCount - 1 := by
        have hend : 0 + n + 1 = s.text.lineCount := hend
        omega
      have he : (lines 0 (0 + n)).erase s =
          (chars ⟨0, 0⟩ ⟨0 + n, s.text.lineLength (0 + n)⟩).erase s := by
        simp only [Span.erase, lineBounds, if_neg hlast]
        rfl
      have hz : Valid s.text ⟨0, 0⟩ := ⟨lineCount_pos _, isCharBoundary_zero _⟩
      have hp := erase_chars_loses _ ⟨0 + n, s.text.lineLength (0 + n)⟩ hs hz
        (start_le ..) hl (min_boundary (Nat.le_refl _))
      rw [textOf_from, ← he] at hp
      exact ⟨_, textOf_lines .., .inr (.inl rfl), hp⟩
    | succ first =>
      obtain ⟨a, -, -, ht, ht'⟩ := erase_lines_tail hs hend
      rw [← List.append_nil (_ :: _)] at ht
      rw [← List.append_nil (a ++ _)] at ht'
      exact ⟨_, textOf_lines .., .inr (.inr rfl), .one ht ht'⟩

lemma emptyLines_between {first n : Nat} (hs : ∀ l ∈ s.text.lines, Unbroken l)
    (hn : first + n < s.lineCount) :
    ∃ a b, s.text = a ++ (s.text.wholeLines first n ++ s.text.lineAt (first + n) ++ b) ∧
      (s.emptyLines first (first + n)).1.text = a ++ b ∧ (a ++ b).lineAt first = [] := by
  obtain ⟨a, b', hab, h⟩ := exists_around hs (Nat.lt_of_le_of_lt (Nat.le_add_right ..) hn)
  obtain ⟨b, hb, h'⟩ := exists_around_later hs hab h hn
  obtain ⟨_, hrest⟩ := h'.lines_rest
  have ht : s.text = a ++ (s.text.wholeLines first n ++ s.text.lineAt (first + n) ++ b) := by
    simpa using hb
  have hstart := h.offset unbroken_nil
    (s.text.wholeLines first n ++ s.text.lineAt (first + n) ++ b)
  rw [List.append_nil, ← ht] at hstart
  have hends := h'.ends (lineAt_unbroken hs (first + n)) b
  rw [List.append_assoc a] at hends
  exact ⟨a, b, ht, (delete_between ht hstart (stopOffset_of_ends hends (by simpa using ht))).1,
    h.lineAt hrest⟩

lemma emptyLines_loses {first last : Nat} (hs : ∀ l ∈ s.text.lines, Unbroken l)
    (hle : first ≤ last) (hl : last < s.lineCount) :
    ∃ m, (lines first last).textOf s.text = m ++ ['\n'] ∧
      Loses s.text (s.emptyLines first last).1.text [m] := by
  obtain ⟨n, rfl⟩ : ∃ n, last = first + n := ⟨last - first, by omega⟩
  obtain ⟨a, b, ht, ht', -⟩ := emptyLines_between hs hl
  exact ⟨_, textOf_lines .., .one ht ht'⟩

def cut (g : Segment) (s : Surface) : Surface :=
  if g.start < g.stop then s.erase ⟨g.line, g.start⟩ ⟨g.line, g.stop⟩ else s

lemma exists_pieces {t : Text} {g : Segment} {i : Nat} (hg : g.line = i ∧ g.start ≤ g.stop ∧
      IsCharBoundary (t.lineAt i) g.start ∧ IsCharBoundary (t.lineAt i) g.stop) :
    ∃ u m v, t.lineAt i = u ++ (m ++ v) ∧ byteLength u = g.start ∧ byteLength (u ++ m) = g.stop ∧
      g.text t = m := by
  obtain ⟨rfl, hle, hstart, hstop⟩ := hg
  obtain ⟨u, w, hx, hu⟩ := isCharBoundary_iff.mp hstart
  obtain ⟨w', v, hx', hw'⟩ := isCharBoundary_iff.mp hstop
  obtain ⟨m, rfl, rfl⟩ := exists_append_of_le (hx.symm.trans hx') (by omega)
  refine ⟨u, m, v, hx, hu, hw', ?_⟩
  rw [Segment.text, hx, ← hu, ← hw', sliceBytes_between]

lemma cut_text {g : Segment} {a b c u m v : Text} (h : Around a b g.line)
    (hx : Unbroken (u ++ (m ++ v))) (hu : byteLength u = g.start)
    (hm : byteLength (u ++ m) = g.stop) (ht : s.text = a ++ (u ++ (m ++ v) ++ c)) :
    (cut g s).text = a ++ (u ++ (v ++ c)) := by
  unfold cut
  split
  · have hum : Unbroken (u ++ m) := by
      rw [← List.append_assoc] at hx
      exact (unbroken_append.mp hx).1
    have ht : s.text = a ++ u ++ (m ++ (v ++ c)) := by simpa using ht
    have hstart := h.offset (unbroken_append.mp hx).1 (m ++ (v ++ c))
    rw [← ht, hu] at hstart
    have hends := h.ends hum (v ++ c)
    rw [hm, ← List.append_assoc] at hends
    rw [Surface.erase, (delete_between ht hstart (stopOffset_of_ends hends (by simpa using ht))).1]
    simp
  · rename_i hlt
    rw [byteLength_append] at hm
    obtain rfl : m = [] := byteLength_eq_zero.mp (by omega)
    simpa using ht

lemma foldr_cut_loses {g : Nat → Segment} {a b : Text} {i n : Nat}
    (hs : ∀ l ∈ s.text.lines, Unbroken l)
    (hg : ∀ k, (g k).line = k ∧ (g k).start ≤ (g k).stop ∧
      IsCharBoundary (s.text.lineAt k) (g k).start ∧
      IsCharBoundary (s.text.lineAt k) (g k).stop)
    (hn : i + n < s.lineCount) (h : Around a b i) (ht : s.text = a ++ (s.text.lineAt i ++ b)) :
    ∃ t', (((List.range' i (n + 1)).map g).foldr cut s).text = a ++ t' ∧
      Loses (s.text.lineAt i ++ b) t'
        (((List.range' i (n + 1)).map g).map (Segment.text s.text)) := by
  induction n generalizing i a b with
  | zero =>
    obtain ⟨u, m, v, hx, hu, hm, hpiece⟩ := exists_pieces (hg i)
    have hl := hx ▸ lineAt_unbroken hs i
    have hline := (hg i).1
    rw [hx] at ht ⊢
    refine ⟨_, cut_text (hline ▸ h) hl hu hm ht, ?_⟩
    simpa [hpiece] using Loses.cons u m (.nil (v ++ b))
  | succ n ih =>
    obtain ⟨u, m, v, hx, hu, hm, hpiece⟩ := exists_pieces (hg i)
    have hl := hx ▸ lineAt_unbroken hs i
    have hline := (hg i).1
    obtain ⟨b', rfl, h'⟩ := exists_next hs ht h (by change _ < s.lineCount; omega)
    obtain ⟨t', ht', hloses⟩ := ih (by omega) h' (by simpa using ht)
    rw [hx] at ht ht' ⊢
    rw [List.range'_succ, List.map_cons, List.foldr_cons, List.map_cons, hpiece]
    refine ⟨_, cut_text (c := '\n' :: t') (hline ▸ h) hl hu hm (by simpa using ht'), ?_⟩
    simpa using Loses.cons u m (hloses.append (v ++ ['\n']))

lemma erase_block_loses {first last left right : Nat} (hs : ∀ l ∈ s.text.lines, Unbroken l)
    (hle : first ≤ last) (hl : last < s.lineCount) :
    Loses s.text ((block first last left right).erase s).text
      (((block first last left right).segments s.text).map (Segment.text s.text)) := by
  obtain ⟨n, rfl⟩ : ∃ n, last = first + n := ⟨last - first, by omega⟩
  obtain ⟨a, b, hab, h⟩ := exists_around hs (Nat.lt_of_le_of_lt hle hl)
  have hr : lineRange first (first + n) = List.range' first (n + 1) := by
    rw [lineRange, show first + n + 1 - first = n + 1 by omega]
  have hright : ∀ k, IsCharBoundary (s.text.lineAt k)
      (max (Grapheme.byteAtColumn (s.text.lineAt k) left)
        (Grapheme.byteAtColumn (s.text.lineAt k) (right + 1))) := by
    intro k
    rw [Nat.max_def]
    split <;> exact Grapheme.byteAtColumn_boundary ..
  obtain ⟨t', ht', hloses⟩ := foldr_cut_loses
    (g := fun i => ⟨i, Grapheme.byteAtColumn (s.text.lineAt i) left, _⟩) hs
    (fun k => ⟨rfl, Nat.le_max_left .., Grapheme.byteAtColumn_boundary .., hright k⟩) hl h hab
  have ht : ((block first (first + n) left right).erase s).text = a ++ t' := by
    rwa [← hr] at ht'
  have hloses := hloses.append a
  rw [← hab, ← ht, ← hr] at hloses
  exact hloses

end erase

def Covers (t : Text) : Span → Prop
  | .chars start stop => (chars start stop).Begins t ∧
      IsCharBoundary (t.lineAt stop.line) (min stop.byte (t.lineLength stop.line))
  | .lines first last | .block first last _ _ => first ≤ last ∧ last < t.lineCount

def InLine (t : Text) : Span → Prop
  | .chars start stop => stop.line = start.line ∧ stop.byte ≤ t.lineLength stop.line
  | _ => False

instance (t : Text) : (span : Span) → Decidable (span.InLine t)
  | .chars .. => inferInstanceAs (Decidable (_ ∧ _))
  | .lines .. | .block .. => inferInstanceAs (Decidable False)

/-- What a register keeps of the pieces that a region loses: the piece, the lines with a line feed
at the end, or the rows of the block with a line feed between them. -/
def KeptAs (ps : List Text) (r : Text) : Span → Prop
  | .chars .. => ps = [r]
  | .lines .. => ∃ m, r = m ++ ['\n'] ∧ (ps = [m ++ ['\n']] ∨ ps = [m] ∨ ps = ['\n' :: m])
  | .block .. => r = joinLines ps

variable {s : Surface} {span : Span}

lemma InLine.chars_loses {start stop : Position} (hc : (chars start stop).Covers s.text)
    (h : (chars start stop).InLine s.text) :
    (s.delete start stop).2 = (chars start stop).textOf s.text ∧
      Loses s.text (s.delete start stop).1.text [(chars start stop).textOf s.text] := by
  obtain ⟨⟨hstart, hle, hl⟩, hstop⟩ := hc
  obtain ⟨he, hlen⟩ := h
  rw [Nat.min_eq_left hlen] at hstop
  refine delete_within hstart ⟨hl, hstop⟩ he ?_
  rw [Position.le_def] at hle
  omega

lemma Covers.erase_loses (h : span.Covers s.text)
    (hf : (∀ l ∈ s.text.lines, Unbroken l) ∨ span.InLine s.text) :
    ∃ ps, Loses s.text (span.erase s).text ps ∧ span.KeptAs ps (span.textOf s.text) := by
  rcases hf with hf | hf
  · cases span with
    | chars start stop =>
      obtain ⟨⟨hstart, hle, hl⟩, hstop⟩ := h
      exact ⟨_, erase_chars_loses start stop hf hstart hle hl hstop, rfl⟩
    | lines first last =>
      obtain ⟨m, p, hm, hp, hloses⟩ := erase_lines_loses hf h.1 h.2
      refine ⟨_, hloses, m, hm, ?_⟩
      rcases hp with rfl | rfl | rfl
      · exact .inl rfl
      · exact .inr (.inl rfl)
      · exact .inr (.inr rfl)
    | block first last left right => exact ⟨_, erase_block_loses hf h.1 h.2, rfl⟩
  · cases span with
    | chars start stop => exact ⟨_, (hf.chars_loses h).2, rfl⟩
    | lines first last => exact hf.elim
    | block first last left right => exact hf.elim

lemma Covers.clear_loses (h : span.Covers s.text)
    (hf : (∀ l ∈ s.text.lines, Unbroken l) ∨ span.InLine s.text) :
    ∃ ps, Loses s.text (VisualAction.clearRegion s span).1.text ps ∧
      span.KeptAs ps (span.textOf s.text) := by
  cases span with
  | chars start stop => exact h.erase_loses hf
  | lines first last =>
    obtain ⟨m, hm, hloses⟩ := emptyLines_loses (hf.resolve_right id) h.1 h.2
    exact ⟨_, hloses, m, hm, .inr (.inl rfl)⟩
  | block first last left right => exact h.erase_loses hf

end Span

end ModalEdit
