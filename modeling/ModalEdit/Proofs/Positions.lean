import ModalEdit.Proofs.Lines

/-! Positions of a text: where its prefixes end, and what another text behind a prefix makes of a
position. -/

namespace ModalEdit.Text

variable {t a b : Text} {i k : Nat}

/-- In the text `a ++ b` the prefix `a` ends on line `i` at byte `k`. Behind a line break other than
a line feed it may also be taken to end on the line of the break. -/
inductive Ends : Text → Text → Nat → Nat → Prop
  | nil (b : Text) : Ends [] b 0 0
  | within {c : Char} {a b : Text} {k : Nat} (hc : isLineBreak c = false) (h : Ends a b 0 k) :
      Ends (c :: a) b 0 (c.utf8Size + k)
  | later {c : Char} {a b : Text} {i k : Nat} (hc : isLineBreak c = false)
      (h : Ends a b (i + 1) k) : Ends (c :: a) b (i + 1) k
  | past {c : Char} {a b : Text} {i k : Nat} (hc : isLineBreak c = true)
      (hn : ¬(c = '\r' ∧ (a ++ b).head? = some '\n')) (h : Ends a b i k) :
      Ends (c :: a) b (i + 1) k
  | pastPair {a b : Text} {i k : Nat} (h : Ends a b i k) : Ends ('\r' :: '\n' :: a) b (i + 1) k
  | behind {c : Char} (b : Text) (hc : isLineBreak c = true) (hn : c ≠ '\n') :
      Ends [c] b 0 c.utf8Size

namespace Ends

lemma spec (h : Ends a b i k) :
    ∃ l, (rawLines (a ++ b))[i]? = some l ∧ IsCharBoundary (trimNewline l) k ∧
      lineStart (a ++ b) i + k = byteLength a := by
  induction h with
  | nil b =>
    obtain ⟨l, ls, hl⟩ := exists_rawLines b
    exact ⟨l, by simp [hl], isCharBoundary_zero _, by simp⟩
  | @within c a b k hc h ih =>
    obtain ⟨l, hl, hk, ho⟩ := ih
    obtain ⟨l', ls, hr, hr'⟩ := rawLines_plain hc (a ++ b)
    obtain rfl : l' = l := by simpa [hr] using hl
    refine ⟨c :: l', by simp [hr'], ?_, by simpa using ho⟩
    rw [trimNewline_cons (not_isLineBreak_ne hc)]
    exact isCharBoundary_cons.mpr (.inr ⟨k, rfl, hk⟩)
  | @later c a b i k hc h ih =>
    obtain ⟨l, hl, hk, ho⟩ := ih
    obtain ⟨l', ls, hr, hr'⟩ := rawLines_plain hc (a ++ b)
    refine ⟨l, by simpa [hr, hr'] using hl, hk, ?_⟩
    simp only [lineStart, hr, hr', List.cons_append, List.take_succ_cons, List.flatten_cons,
      byteLength_append, byteLength_cons] at ho ⊢
    omega
  | @past c a b i k hc hn h ih =>
    obtain ⟨l, hl, hk, ho⟩ := ih
    have hr := rawLines_alone hc hn
    refine ⟨l, by simpa [hr] using hl, hk, ?_⟩
    simp only [lineStart, hr, List.cons_append, List.take_succ_cons, List.flatten_cons,
      byteLength_append, byteLength_cons, byteLength_nil] at ho ⊢
    omega
  | @pastPair a b i k h ih =>
    obtain ⟨l, hl, hk, ho⟩ := ih
    refine ⟨l, by simpa using hl, hk, ?_⟩
    simp only [lineStart, rawLines_pair, List.cons_append, List.take_succ_cons, List.flatten_cons,
      byteLength_append, byteLength_cons, byteLength_nil] at ho ⊢
    omega
  | @behind c b hc hn =>
    by_cases hp : c = '\r' ∧ b.head? = some '\n'
    · obtain ⟨rfl, hb⟩ := hp
      obtain ⟨b, rfl⟩ := List.head?_eq_some_iff.mp hb
      exact ⟨['\r', '\n'], by simp, by decide, by simp⟩
    · refine ⟨[c], by simp [rawLines_alone hc hp], ?_, by simp⟩
      rw [trimNewline_cons hn]
      exact isCharBoundary_cons.mpr (.inr ⟨0, rfl, isCharBoundary_zero _⟩)

lemma eq_nil (h : Ends a b 0 0) : a = [] := by
  obtain ⟨l, -, -, ho⟩ := h.spec
  rw [lineStart_zero] at ho
  exact byteLength_eq_zero.mp ho.symm

lemma change_apart (h : Ends a b i k) {b' : Text}
    (hb : k = 0 → a.getLast? = some '\r' → b'.head? ≠ some '\n') : Ends a b' i k := by
  induction h with
  | nil b => exact .nil b'
  | within hc h ih =>
    refine .within hc (ih ?_)
    rintro rfl hr
    simp [h.eq_nil] at hr
  | later hc h ih =>
    exact .later hc (ih fun hk hr => hb hk (by simp [List.getLast?_cons, hr]))
  | @past c a b i k hc hn h ih =>
    refine .past hc ?_ (ih fun hk hr => hb hk (by simp [List.getLast?_cons, hr]))
    rintro ⟨rfl, hf⟩
    cases a with
    | cons d a => exact hn ⟨rfl, hf⟩
    | nil =>
      cases h
      exact hb rfl rfl hf
  | pastPair h ih => exact .pastPair (ih fun hk hr => hb hk (by simp [List.getLast?_cons, hr]))
  | behind b hc hn => exact .behind b' hc hn

lemma change_pair (h : Ends a b i 0) (hr : a.getLast? = some '\r') (b' : Text) :
    Ends (a ++ ['\n']) b' i 0 := by
  generalize hk : 0 = k at h
  induction h with
  | nil => cases hr
  | within hc h => exact absurd hk (Nat.ne_of_lt (Nat.add_pos_left (Char.utf8Size_pos _) _))
  | @later c a b i k hc h ih =>
    cases a with
    | nil => cases h
    | cons d a => exact .later hc (ih (by simpa using hr) hk)
  | @past c a b i k hc hn h ih =>
    cases a with
    | cons d a => exact .past hc (by simpa using hn) (ih (by simpa using hr) hk)
    | nil =>
      obtain rfl : c = '\r' := by simpa using hr
      cases h
      exact .pastPair (.nil b')
  | @pastPair a b i k h ih =>
    cases a with
    | nil => simp at hr
    | cons d a => exact .pastPair (ih (by simpa using hr) hk)
  | behind b hc hn => exact absurd hk (Nat.ne_of_lt (Char.utf8Size_pos _))

lemma change (h : Ends a b i k) (b' : Text) :
    ∃ u v, b' = u ++ v ∧ Ends (a ++ u) v i k := by
  by_cases hb : k = 0 → a.getLast? = some '\r' → b'.head? ≠ some '\n'
  · exact ⟨[], b', rfl, by simpa using h.change_apart hb⟩
  · push Not at hb
    obtain ⟨rfl, hr, hf⟩ := hb
    obtain ⟨v, rfl⟩ := List.head?_eq_some_iff.mp hf
    exact ⟨['\n'], v, rfl, h.change_pair hr v⟩

end Ends

lemma WithinLine.ends {m : Text} (h : WithinLine m) (b : Text) : Ends m b 0 (byteLength m) := by
  induction h with
  | nil => exact .nil b
  | @last c hn =>
    cases hc : isLineBreak c with
    | true => exact .behind b hc hn
    | false => exact .within hc (.nil b)
  | plain hc _ ih => exact .within hc ih

lemma Ends.typed (h : Ends a b i k) (hk : k < lineLength (a ++ b) i) {m : Text} (hm : WithinLine m)
    (w : Text) :
    ∃ u v, w = u ++ v ∧ Ends (a ++ u) v i k ∧ Ends (a ++ u ++ m) v i (k + byteLength m) := by
  induction h with
  | nil b => exact ⟨[], w, rfl, .nil w, by simpa using hm.ends w⟩
  | @within c a b k hc h ih =>
    rw [lineLength, List.cons_append, lineAt_plain_zero hc, byteLength_cons] at hk
    obtain ⟨u, v, rfl, h₁, h₂⟩ := ih (by rw [lineLength]; omega)
    refine ⟨u, v, rfl, .within hc h₁, ?_⟩
    rw [Nat.add_assoc]
    exact .within hc h₂
  | @later c a b i k hc h ih =>
    rw [lineLength, List.cons_append, lineAt_plain_succ hc] at hk
    obtain ⟨u, v, rfl, h₁, h₂⟩ := ih hk
    exact ⟨u, v, rfl, .later hc h₁, .later hc h₂⟩
  | @past c a b i k hc hn h ih =>
    rw [lineLength, List.cons_append, lineAt_alone_succ hc hn] at hk
    obtain ⟨u, v, rfl, h₁, h₂⟩ := ih hk
    by_cases hp : c = '\r' ∧ (a ++ (u ++ v)).head? = some '\n'
    · obtain ⟨rfl, ha⟩ := hp
      cases a with
      | cons d a => exact absurd ⟨rfl, by simpa using ha⟩ hn
      | nil =>
        cases h
        obtain ⟨v', hv⟩ := List.head?_eq_some_iff.mp ha
        refine ⟨['\n'], v', hv, .pastPair (.nil v'), ?_⟩
        simpa using Ends.pastPair (hm.ends v')
    · refine ⟨u, v, rfl, .past hc (by simpa using hp) h₁, .past hc ?_ h₂⟩
      rintro ⟨rfl, ha⟩
      exact hp ⟨rfl, by simpa using hm.head_append ha⟩
  | pastPair h ih =>
    rw [lineLength, List.cons_append, List.cons_append, lineAt_pair_succ] at hk
    obtain ⟨u, v, rfl, h₁, h₂⟩ := ih hk
    exact ⟨u, v, rfl, .pastPair h₁, .pastPair h₂⟩
  | @behind c b hc hn =>
    rw [lineLength, List.cons_append, lineAt_alone_zero hc hn] at hk
    simp at hk

lemma exists_ends {l : Text} (hl : (rawLines t)[i]? = some l)
    (hk : IsCharBoundary (trimNewline l) k) : ∃ a b, t = a ++ b ∧ Ends a b i k := by
  induction t using breakInduction generalizing i k l with
  | nil =>
    obtain ⟨rfl, rfl⟩ : i = 0 ∧ [] = l := by
      cases i <;> simp_all [rawLines]
    obtain rfl := isCharBoundary_nil.mp hk
    exact ⟨[], [], rfl, .nil []⟩
  | pair t ih =>
    cases i with
    | zero =>
      obtain rfl : ['\r', '\n'] = l := by simpa using hl
      have hk : IsCharBoundary ['\r'] k := hk
      rcases isCharBoundary_cons.mp hk with rfl | ⟨j, rfl, hj⟩
      · exact ⟨[], _, rfl, .nil _⟩
      · obtain rfl := isCharBoundary_nil.mp hj
        exact ⟨['\r'], '\n' :: t, rfl, .behind _ (by decide) (by decide)⟩
    | succ i =>
      obtain ⟨a, b, rfl, h⟩ := ih (by simpa using hl) hk
      exact ⟨'\r' :: '\n' :: a, b, rfl, .pastPair h⟩
  | alone c t hc hn ih =>
    rw [rawLines_alone hc hn] at hl
    cases i with
    | zero =>
      obtain rfl : [c] = l := by simpa using hl
      by_cases hc' : c = '\n'
      · subst hc'
        obtain rfl := isCharBoundary_nil.mp hk
        exact ⟨[], _, rfl, .nil _⟩
      · rw [trimNewline_cons hc'] at hk
        rcases isCharBoundary_cons.mp hk with rfl | ⟨j, rfl, hj⟩
        · exact ⟨[], _, rfl, .nil _⟩
        · obtain rfl := isCharBoundary_nil.mp hj
          exact ⟨[c], t, rfl, .behind t hc hc'⟩
    | succ i =>
      obtain ⟨a, b, rfl, h⟩ := ih (by simpa using hl) hk
      exact ⟨c :: a, b, rfl, .past hc hn h⟩
  | plain c t hc ih =>
    obtain ⟨l', ls, hr, hr'⟩ := rawLines_plain hc t
    cases i with
    | zero =>
      obtain rfl : c :: l' = l := by simpa [hr'] using hl
      rw [trimNewline_cons (not_isLineBreak_ne hc)] at hk
      rcases isCharBoundary_cons.mp hk with rfl | ⟨j, rfl, hj⟩
      · exact ⟨[], _, rfl, .nil _⟩
      · obtain ⟨a, b, rfl, h⟩ := ih (i := 0) (by simp [hr]) hj
        exact ⟨c :: a, b, rfl, .within hc h⟩
    | succ i =>
      obtain ⟨a, b, rfl, h⟩ := ih (i := i + 1) (by simpa [hr, hr'] using hl) hk
      exact ⟨c :: a, b, rfl, .later hc h⟩

lemma locate_pass {l : Text} {ls : List Text} {n : Nat} (hne : ls ≠ []) :
    locate (l :: ls) (byteLength l + n) =
      ⟨(locate ls n).line + 1, (locate ls n).byte⟩ := by
  obtain ⟨l', ls, rfl⟩ := List.exists_cons_of_ne_nil hne
  simp [locate]

lemma locate_ends (a b : Text) :
    Ends a b (locate (rawLines (a ++ b)) (byteLength a)).line
      (locate (rawLines (a ++ b)) (byteLength a)).byte := by
  induction a using breakInduction with
  | nil =>
    obtain ⟨l, ls, hl⟩ := exists_rawLines b
    rw [List.nil_append, hl]
    cases ls with
    | nil => exact .nil b
    | cons l' ls =>
      have hpos := Nat.pos_of_ne_zero (mt byteLength_eq_zero.mp (rawLines_head_ne_nil hl))
      rw [locate, byteLength_nil, if_pos hpos]
      exact .nil b
  | pair a ih =>
    have hp := locate_pass (l := ['\r', '\n']) (n := byteLength a) (rawLines_ne_nil (a ++ b))
    rw [show byteLength ('\r' :: '\n' :: a) = byteLength ['\r', '\n'] + byteLength a from
      byteLength_append ['\r', '\n'] a]
    simp only [List.cons_append, rawLines_pair, hp]
    exact .pastPair ih
  | alone c a hc hn ih =>
    by_cases hp : c = '\r' ∧ (a ++ b).head? = some '\n'
    · obtain ⟨rfl, ha⟩ := hp
      cases a with
      | cons d a => exact absurd ⟨rfl, ha⟩ hn
      | nil =>
        obtain ⟨b', rfl⟩ := List.head?_eq_some_iff.mp ha
        obtain ⟨l, ls, hl⟩ := exists_rawLines b'
        simp only [List.nil_append, List.cons_append, rawLines_pair, hl, locate]
        exact .behind _ hc (by decide)
    · have hl := locate_pass (l := [c]) (n := byteLength a) (rawLines_ne_nil (a ++ b))
      rw [show byteLength (c :: a) = byteLength [c] + byteLength a from byteLength_append [c] a]
      simp only [List.cons_append, rawLines_alone hc hp, hl]
      exact .past hc hp ih
  | plain c a hc ih =>
    obtain ⟨l, ls, hr, hr'⟩ := rawLines_plain hc (a ++ b)
    rw [hr] at ih
    rw [List.cons_append, hr', byteLength_cons]
    cases ls with
    | nil => exact .within hc ih
    | cons l' ls =>
      rw [locate] at ih ⊢
      rw [byteLength_cons]
      by_cases hlt : byteLength a < byteLength l
      · rw [if_pos hlt] at ih
        rw [if_pos (by omega)]
        exact .within hc ih
      · rw [if_neg hlt] at ih
        rw [if_neg (by omega), Nat.add_sub_add_left]
        exact .later hc ih

def Lands (t : Text) (p : Position) : Prop := IsCharBoundary (t.lineAt p.line) p.byte

def Valid (t : Text) (p : Position) : Prop := p.line < t.lineCount ∧ Lands t p

def Stands (P : Text → Nat → Prop) (t : Text) (p : Position) : Prop :=
  p.line < t.lineCount ∧ P (t.lineAt p.line) p.byte

structure IsSpot (P : Text → Nat → Prop) : Prop where
  zero l : P l 0
  le {l n} : P l n → n ≤ byteLength l

lemma isSpot_boundary : IsSpot IsCharBoundary := ⟨isCharBoundary_zero, IsCharBoundary.le⟩

instance (t : Text) (p : Position) : Decidable (Lands t p) :=
  inferInstanceAs (Decidable (IsCharBoundary _ _))

instance (t : Text) (p : Position) : Decidable (Valid t p) := inferInstanceAs (Decidable (_ ∧ _))

section valid

variable {p q : Position} {n : Nat} {l : Text}

lemma lands_iff_of_raw (hl : (rawLines t)[p.line]? = some l) :
    Lands t p ↔ IsCharBoundary (trimNewline l) p.byte := by
  rw [Lands, lineAt_of_raw hl]

lemma clamp_line (t : Text) (p : Position) : (clamp t p).line < t.lineCount := by
  have hc := lineCount_pos t
  simp only [clamp]
  omega

lemma clamp_clamp (t : Text) (p : Position) : clamp t (clamp t p) = clamp t p := by
  simp [clamp]

section stands

variable {P : Text → Nat → Prop} (hP : IsSpot P)
include hP

lemma clamp_of_stands (hp : Stands P t p) : clamp t p = p := by
  obtain ⟨hl, hb⟩ := hp
  have hle : p.byte ≤ lineLength t p.line := hP.le hb
  have hm : min p.line (lineCount t - 1) = p.line := by omega
  simp [clamp, hm, hle]

lemma clamp_stands (hb : P (t.lineAt p.line) p.byte) : Stands P t (clamp t p) := by
  refine ⟨clamp_line t p, ?_⟩
  by_cases hl : p.line < t.lineCount
  · rwa [clamp_of_stands hP ⟨hl, hb⟩]
  · rw [lineAt_of_le (by omega)] at hb
    have hz : p.byte = 0 := Nat.le_zero.mp (hP.le hb)
    simp only [clamp, hz, Nat.zero_min]
    exact hP.zero _

end stands

lemma clamp_of_valid (hp : Valid t p) : clamp t p = p := clamp_of_stands isSpot_boundary hp

lemma clamp_valid (hb : Lands t p) : Valid t (clamp t p) := clamp_stands isSpot_boundary hb

lemma Ends.valid (h : Ends a b i k) : Valid (a ++ b) ⟨i, k⟩ := by
  obtain ⟨l, hl, hk, -⟩ := h.spec
  exact ⟨(List.getElem?_eq_some_iff.mp hl).1, (lands_iff_of_raw hl).mpr hk⟩

lemma Ends.offset (h : Ends a b i k) : offsetOf (a ++ b) ⟨i, k⟩ = byteLength a := by
  obtain ⟨l, hl, hk, ho⟩ := h.spec
  simpa only [offsetOf, clamp_of_valid h.valid] using ho

lemma Valid.ends (hp : Valid t p) :
    ∃ a b, t = a ++ b ∧ byteLength a = offsetOf t p ∧ Ends a b p.line p.byte := by
  obtain ⟨l, hl⟩ := exists_raw hp.1
  obtain ⟨a, b, rfl, h⟩ := exists_ends hl ((lands_iff_of_raw hl).mp hp.2)
  exact ⟨a, b, rfl, h.offset.symm, h⟩

lemma Valid.ends_at (hp : Valid t p) (ht : t = a ++ b) (ho : offsetOf t p = byteLength a) :
    Ends a b p.line p.byte := by
  obtain ⟨a', b', hab, ha, h⟩ := hp.ends
  rw [ho] at ha
  obtain ⟨z, rfl, rfl⟩ := exists_append_of_le (ht.symm.trans hab) (Nat.le_of_eq ha.symm)
  obtain rfl : z = [] := by
    rw [byteLength_append] at ha
    exact byteLength_eq_zero.mp (by omega)
  simpa using h

lemma Valid.offset_le (hp : Valid t p) : offsetOf t p ≤ byteLength t := by
  obtain ⟨a, b, rfl, ha, -⟩ := hp.ends
  rw [← ha, byteLength_append]
  omega

lemma Valid.keep (hp : Valid t p) (hn : offsetOf t p ≤ n) (u : Text) :
    Valid (takeBytes n t ++ u) p ∧ offsetOf t p ≤ offsetOf (takeBytes n t ++ u) p := by
  obtain ⟨a, b, rfl, ha, h⟩ := hp.ends
  rw [← ha] at hn ⊢
  -- `v` is a line feed if one now follows a carriage return at the end of `a`, and else empty
  obtain ⟨v, w, hv, hw⟩ := h.change (takeBytes (n - byteLength a) b ++ u)
  rw [takeBytes_append hn, List.append_assoc, hv, ← List.append_assoc]
  refine ⟨hw.valid, ?_⟩
  rw [hw.offset, byteLength_append]
  omega

end valid

section offsets

variable {p q : Position}

lemma offsetOf_mono (hq : q.line < t.lineCount) (hpq : p ≤ q) : offsetOf t p ≤ offsetOf t q := by
  rw [Position.le_def] at hpq
  have hp : min p.line (t.lineCount - 1) = p.line := by omega
  have hq' : min q.line (t.lineCount - 1) = q.line := by omega
  simp only [offsetOf, clamp, hp, hq']
  rcases hpq with hlt | ⟨he, hb⟩
  · obtain ⟨l, hl⟩ := exists_raw (t := t) (i := p.line) (by omega)
    have h₁ := lineStart_mono (t := t) (i := p.line + 1) (k := q.line) hlt
    have h₂ := lineStart_succ hl
    have h₃ := byteLength_trimNewline_le l
    have h₄ : lineLength t p.line = byteLength (trimNewline l) := by
      rw [lineLength, lineAt_of_raw hl]
    omega
  · rw [he]
    omega

lemma offsetOf_min (hi : i < t.lineCount) :
    offsetOf t ⟨i, min k (lineLength t i)⟩ = offsetOf t ⟨i, k⟩ := by
  have hm : min i (t.lineCount - 1) = i := by omega
  simp [offsetOf, clamp, hm]

lemma offsetOf_end (hi : i + 1 = t.lineCount) :
    offsetOf t ⟨i, lineLength t i⟩ = byteLength t := by
  obtain ⟨ls, l, hr⟩ : ∃ ls l, rawLines t = ls ++ [l] :=
    ⟨_, _, (List.dropLast_concat_getLast (rawLines_ne_nil t)).symm⟩
  obtain rfl : ls.length = i := by
    rw [lineCount, hr, List.length_append] at hi
    exact Nat.succ.inj hi.symm
  have hl : (rawLines t)[ls.length]? = some l := by simp [hr]
  have hline : t.lineAt ls.length = l :=
    (lineAt_of_raw hl).trans (trimNewline_last (t := t) (by simp [hr]))
  have hv : Valid t ⟨ls.length, lineLength t ls.length⟩ :=
    ⟨(List.getElem?_eq_some_iff.mp hl).1, isCharBoundary_length _⟩
  have ht : byteLength ls.flatten + byteLength l = byteLength t := by
    rw [← rawLines_flatten t, hr]
    simp
  rw [offsetOf, clamp_of_valid hv, lineLength, hline, lineStart, hr, List.take_left', ht]
  rfl

lemma lineLength_of_offset (hi : i < t.lineCount) (ho : offsetOf t ⟨i, 0⟩ = byteLength t) :
    lineLength t i = 0 := by
  obtain ⟨l, hl⟩ := exists_raw hi
  have hv : Valid t ⟨i, 0⟩ := ⟨hi, isCharBoundary_zero _⟩
  rw [offsetOf, clamp_of_valid hv] at ho
  have h₁ := lineStart_succ hl
  have h₂ := lineStart_le t (i + 1)
  have h₃ := byteLength_trimNewline_le l
  rw [lineLength, lineAt_of_raw hl]
  dsimp only at ho
  omega

end offsets

end ModalEdit.Text
