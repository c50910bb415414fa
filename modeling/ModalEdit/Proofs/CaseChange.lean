import ModalEdit.Proofs.Inserting
import ModalEdit.Proofs.Removal

/-! A change of case in a text without carriage returns: the lines below a changed segment stay, so
that the segments to come are still there. -/

namespace ModalEdit

open Text

namespace Text

variable {a t t' w x x' : Text} {c : Char} {i j k : Nat}

def BreaksAlike (t t' : Text) : Prop :=
  ∃ x x' y, t = x ++ y ∧ t' = x' ++ y ∧ Unbroken x ∧ Unbroken x'

namespace BreaksAlike

lemma refl (t : Text) : BreaksAlike t t := ⟨[], [], t, rfl, rfl, unbroken_nil, unbroken_nil⟩

lemma cons (hc : isLineBreak c = false) (hx : Unbroken x) (h : BreaksAlike t t') :
    BreaksAlike (c :: t) (x ++ t') := by
  obtain ⟨u, u', y, rfl, rfl, hu, hu'⟩ := h
  exact ⟨c :: u, x ++ u', y, rfl, (List.append_assoc ..).symm, unbroken_cons.mpr ⟨hc, hu⟩,
    unbroken_append.mpr ⟨hx, hu'⟩⟩

lemma flatMap {f : Char → Text} (hplain : ∀ c, isLineBreak c = false → Unbroken (f c))
    (hbreak : ∀ c, isLineBreak c = true → f c = [c]) (ht : WithinLine t) :
    BreaksAlike t (t.flatMap f) := by
  induction ht with
  | nil => exact refl []
  | @last c hn =>
    cases hc : isLineBreak c with
    | true => simpa [hbreak c hc] using refl [c]
    | false => exact cons hc (hplain c hc) (refl [])
  | @plain c t hc _ ih => exact cons hc (hplain c hc) ih

lemma lowerAfter (ht : WithinLine t) (before : Text) :
    BreaksAlike t (Unicode.lowerAfter before t) := by
  have hplain : ∀ c before rest, isLineBreak c = false →
      Unbroken (if c == '\u03a3' then
        if Unicode.meetsCased before && !Unicode.meetsCased rest then ['\u03c2'] else ['\u03c3']
      else Unicode.charToLower c) := by
    intro c before rest hc
    split_ifs
    · decide
    · decide
    · exact Unicode.toLower_plain hc
  induction ht generalizing before with
  | nil => exact refl []
  | @last c hn =>
    cases hc : isLineBreak c with
    | true =>
      have hne : c ≠ '\u03a3' := by
        rintro rfl
        cases hc
      simpa [Unicode.lowerAfter, hne, (Unicode.cased_break hc).1] using refl [c]
    | false => exact cons hc (hplain c before [] hc) (refl [])
  | @plain c t hc _ ih => exact cons hc (hplain c before t hc) (ih _)

lemma caseMap (ht : WithinLine t) (case : Case) : BreaksAlike t (case.map t) := by
  cases case with
  | toggle => exact flatMap (fun _ => Case.toggled_plain) (fun _ => Case.toggled_break) ht
  | lower => exact lowerAfter ht []
  | upper =>
    exact flatMap (fun _ => Unicode.toUpper_plain) (fun _ hc => (Unicode.cased_break hc).2) ht

end BreaksAlike

lemma lineAt_unbroken_succ (hx : Unbroken x) (w : Text) (j : Nat) :
    lineAt (x ++ w) (j + 1) = lineAt w (j + 1) := by
  induction x with
  | nil => rfl
  | cons c x ih =>
    obtain ⟨hc, hx⟩ := unbroken_cons.mp hx
    rw [List.cons_append, lineAt_plain_succ hc, ih hx]

lemma Ends.lineAt_below (h : Ends a (x ++ w) i k) (hk : k < lineLength (a ++ (x ++ w)) i)
    (ha : '\r' ∉ a) (hx : Unbroken x) (hx' : Unbroken x') (hj : i < j) :
    lineAt (a ++ (x' ++ w)) j = lineAt (a ++ (x ++ w)) j := by
  obtain ⟨j, rfl⟩ := Nat.exists_eq_add_one_of_ne_zero (Nat.ne_zero_of_lt hj)
  generalize hb : x ++ w = b at h hk
  induction h generalizing j with
  | nil b =>
    subst hb
    exact (lineAt_unbroken_succ hx' w j).trans (lineAt_unbroken_succ hx w j).symm
  | @within c a b k hc h ih =>
    rw [lineLength, List.cons_append, lineAt_plain_zero hc, byteLength_cons] at hk
    rw [List.cons_append, List.cons_append, lineAt_plain_succ hc, lineAt_plain_succ hc]
    exact ih (List.not_mem_of_not_mem_cons ha) j hj hb (by rw [lineLength]; omega)
  | @later c a b i k hc h ih =>
    rw [lineLength, List.cons_append, lineAt_plain_succ hc] at hk
    rw [List.cons_append, List.cons_append, lineAt_plain_succ hc, lineAt_plain_succ hc]
    exact ih (List.not_mem_of_not_mem_cons ha) j hj hb hk
  | @past c a b i k hc hn h ih =>
    have hr : c ≠ '\r' := fun hr => ha (hr ▸ List.mem_cons_self)
    have halone : ∀ t : Text, ¬(c = '\r' ∧ t.head? = some '\n') := fun t hp => hr hp.1
    rw [lineLength, List.cons_append, lineAt_alone_succ hc hn] at hk
    rw [List.cons_append, List.cons_append, lineAt_alone_succ hc (halone _),
      lineAt_alone_succ hc (halone _)]
    have hj' := Nat.lt_of_succ_lt_succ hj
    obtain ⟨j, rfl⟩ := Nat.exists_eq_add_one_of_ne_zero (Nat.ne_zero_of_lt hj')
    exact ih (List.not_mem_of_not_mem_cons ha) j hj' hb hk
  | pastPair => exact absurd List.mem_cons_self ha
  | behind b hc hn =>
    rw [lineLength, List.cons_append, List.nil_append, lineAt_alone_zero hc] at hk
    · simp at hk
    · exact hn

end Text

namespace Surface

variable {s : Surface} {g : Span.Segment}

lemma exists_changed (case : Case) (hr : '\r' ∉ s.text) (hg : g.hasText s.text = true)
    (hl : g.line < s.text.lineCount) :
    ∃ a m b, s.text = a ++ (m ++ b) ∧ (s.changeSegment case g).text = a ++ (case.map m ++ b) ∧
      Ends a (m ++ b) g.line g.start ∧ WithinLine m ∧
      (m ≠ [] → g.start < s.text.lineLength g.line) := by
  obtain ⟨hle, hstart, hstop⟩ := hasSlice_iff.mp hg
  have hp : Valid s.text ⟨g.line, g.start⟩ := ⟨hl, hstart⟩
  have hq : Valid s.text ⟨g.line, g.stop⟩ := ⟨hl, hstop⟩
  obtain ⟨a, u, m, v, b, ht, hpo, hqo, hx, hu, hm⟩ := hp.exists_between hq rfl hle
  dsimp only at hx hu hm
  have hpiece : g.text s.text = m := by
    rw [Span.Segment.text, hx, ← hu, ← hm, sliceBytes_between]
  have hends := hp.ends_at ht hpo
  refine ⟨a ++ u, m, b, ht, ?_, hends, ?_, fun hne => ?_⟩
  · simp only [changeSegment, hpiece]
    split
    · rename_i hsame
      rw [hsame, ht]
    · -- the text goes, and comes back in the other case at the same place
      have herase := (delete_between ht hpo ((stopOffset_of_valid hq).trans hqo)).1
      have hback := hends.change_plain (fun hmem => hr (ht ▸ List.mem_append_left _ hmem)) b
      exact insert_between herase (herase ▸ hback.offset) _
  · exact hpiece ▸ ((WithinLine.of_lineAt _ _).dropBytes _).takeBytes _
  · have hpos := Nat.pos_of_ne_zero (byteLength_eq_zero.not.mpr hne)
    rw [Text.lineLength, hx, byteLength_append, byteLength_append, hu]
    omega

lemma changeSegment_below (case : Case) (hr : '\r' ∉ s.text) (hg : g.hasText s.text = true) :
    '\r' ∉ (s.changeSegment case g).text ∧
      ∀ j, g.line < j → (s.changeSegment case g).text.lineAt j = s.text.lineAt j := by
  by_cases hl : s.text.lineCount ≤ g.line
  · rw [changeSegment_off hl]
    exact ⟨hr, fun _ _ => rfl⟩
  obtain ⟨a, m, b, ht, ht', hends, hm, hlt⟩ := exists_changed case hr hg (Nat.lt_of_not_le hl)
  rw [ht', ht]
  rw [ht] at hr hlt
  rcases eq_or_ne m [] with rfl | hne
  · rw [Case.map_nil]
    exact ⟨hr, fun _ _ => rfl⟩
  obtain ⟨x, x', y, rfl, hxy', hx, hx'⟩ := BreaksAlike.caseMap hm case
  have hlt := hlt hne
  rw [hxy', List.append_assoc x' y b]
  rw [List.append_assoc x y b] at hr hends hlt ⊢
  have ha : '\r' ∉ a := fun hmem => hr (List.mem_append_left _ hmem)
  constructor
  · have hr' : '\r' ∉ x' := fun hmem => by cases hx' _ hmem
    simp only [List.mem_append, not_or] at hr ⊢
    exact ⟨ha, hr', hr.2.2⟩
  · exact fun j hj => hends.lineAt_below hlt ha hx hx' hj

lemma canChange_of_below {case : Case} {gs : List Span.Segment} (hr : '\r' ∉ s.text)
    (hgs : ∀ g ∈ gs, g.hasText s.text = true) (hlt : gs.Pairwise (·.line < ·.line)) :
    canChange case gs s = true := by
  induction gs generalizing s with
  | nil => rfl
  | cons g gs ih =>
    obtain ⟨hg, hgs⟩ := List.forall_mem_cons.mp hgs
    obtain ⟨hbelow, hlt⟩ := List.pairwise_cons.mp hlt
    obtain ⟨hr', hlines⟩ := changeSegment_below case hr hg
    rw [canChange, hg, Bool.true_and]
    refine ih hr' (fun g' hg' => ?_) hlt
    rw [Span.Segment.hasText, hlines _ (hbelow g' hg')]
    exact hgs g' hg'

end Surface

end ModalEdit
