import ModalEdit.Proofs.PutBack

namespace ModalEdit

open Text

namespace Text

variable {t t' a b x : Text} {i j : Nat}

lemma feedsOnly_of_unbroken (ht : ∀ l ∈ t.lines, Unbroken l) : FeedsOnly t := by
  intro c hc hb
  rw [← rawLines_flatten t] at hc
  obtain ⟨r, hr, hcr⟩ := List.mem_flatten.mp hc
  have hu : Unbroken (trimNewline r) := ht _ (List.mem_map_of_mem hr)
  have hplain : c ∉ trimNewline r := fun hm => by
    rw [hu c hm] at hb
    cases hb
  rcases trimNewline_cases r with ⟨-, hr'⟩ | ⟨-, hr'⟩
  · rw [hr', List.mem_append] at hcr
    exact List.mem_singleton.mp (hcr.resolve_left hplain)
  · exact absurd (hr' ▸ hcr) hplain

lemma joinLines_lines (ht : FeedsOnly t) : Span.joinLines t.lines = t := by
  induction t with
  | nil => rfl
  | cons c t ih =>
    obtain ⟨hc, ht⟩ := List.forall_mem_cons.mp ht
    have hj := ih ht
    cases hb : isLineBreak c with
    | true =>
      obtain rfl := hc hb
      have hne : lines t ≠ [] := by simp [lines, rawLines_ne_nil]
      rw [lines_feed, Span.joinLines, List.intercalate_cons_of_ne_nil hne, ← Span.joinLines, hj]
      rfl
    | false =>
      obtain ⟨l, ls, hl, hl'⟩ := lines_plain hb t
      rw [hl] at hj
      rw [hl', ← hj]
      cases ls <;> simp [Span.joinLines, List.intercalate_cons_of_ne_nil]

lemma lines_joinLines {ls : List Text} (hne : ls ≠ []) (hls : ∀ l ∈ ls, Unbroken l) :
    lines (Span.joinLines ls) = ls := by
  induction ls with
  | nil => exact absurd rfl hne
  | cons l ls ih =>
    obtain ⟨hl, hls⟩ := List.forall_mem_cons.mp hls
    cases ls with
    | nil => simpa [Span.joinLines] using lines_unbroken hl (b := []) rfl
    | cons l' ls =>
      have hfeed : lines ('\n' :: Span.joinLines (l' :: ls)) = [] :: l' :: ls := by
        rw [lines_feed, ih (List.cons_ne_nil _ _) hls]
      rw [Span.joinLines, List.intercalate_cons_of_ne_nil (List.cons_ne_nil _ _), List.append_assoc]
      exact lines_unbroken hl hfeed

lemma joinLines_inj {ls ls' : List Text} (hne : ls ≠ []) (hls : ∀ l ∈ ls, Unbroken l)
    (hne' : ls' ≠ []) (hls' : ∀ l ∈ ls', Unbroken l) :
    Span.joinLines ls = Span.joinLines ls' ↔ ls = ls' := by
  refine ⟨fun h => ?_, congrArg _⟩
  rw [← lines_joinLines hne hls, h, lines_joinLines hne' hls']

lemma joinLines_around (pre post : List Text) (x : Text) :
    Span.joinLines (pre ++ x :: post) =
      pre.flatMap (· ++ ['\n']) ++ (x ++ Span.joinLines ([] :: post)) := by
  induction pre with
  | nil => cases post <;> simp [Span.joinLines, List.intercalate_cons_of_ne_nil]
  | cons l pre ih =>
    rw [List.cons_append, Span.joinLines, List.intercalate_cons_of_ne_nil (by simp),
      ← Span.joinLines, ih]
    simp

lemma Around.joinLines_set (h : Around a b i) (hx : Unbroken x) (ht : FeedsOnly (a ++ (x ++ b)))
    (y : Text) : a ++ (y ++ b) = Span.joinLines ((a ++ (x ++ b)).lines.set i y) := by
  have ha : FeedsOnly a := fun c hc => ht c (by simp [hc])
  have hb : FeedsOnly b := fun c hc => ht c (by simp [hc])
  obtain ⟨pre, rfl, hw⟩ := h.lines_append
  obtain ⟨post, hpost⟩ := h.lines_rest
  have hja := joinLines_lines ha
  have hjb := joinLines_lines hb
  have hpre : lines a = pre ++ [[]] := by simpa [lines_nil] using hw []
  rw [hpre, Span.joinLines_concat, List.append_nil] at hja
  rw [hpost] at hjb
  rw [hw, lines_unbroken hx hpost, List.set_append_right _ _ (Nat.le_refl _), Nat.sub_self,
    List.set_cons_zero, joinLines_around, hja, hjb]

section set

variable (ht : t'.lines = t.lines.set i x)
include ht

lemma lineCount_set : t'.lineCount = t.lineCount := by
  rw [lineCount_eq_length, ht, List.length_set, lineCount_eq_length]

lemma lineAt_set_ne (hj : j ≠ i) : t'.lineAt j = t.lineAt j := by
  simp [lineAt, line?, ht, List.getElem?_set_ne hj.symm]

lemma unbroken_set (hu : ∀ l ∈ t.lines, Unbroken l) (hx : Unbroken x) :
    ∀ l ∈ t'.lines, Unbroken l := by
  intro l hl
  rw [ht] at hl
  rcases List.mem_or_eq_of_mem_set hl with hl | rfl
  · exact hu l hl
  · exact hx

end set

end Text

namespace Surface

def MapsLine (g : Text → Text) (step : Surface → Nat → Surface) : Prop :=
  ∀ s i, (∀ l ∈ s.text.lines, Unbroken l) → i < s.lineCount → Unbroken (g (s.lineAt i)) →
    (step s i).text.lines = s.text.lines.set i (g (s.lineAt i))

variable {s : Surface} {g : Text → Text} {step : Surface → Nat → Surface}

lemma MapsLine.foldl (h : MapsLine g step) (hs : ∀ l ∈ s.text.lines, Unbroken l) {is : List Nat}
    (hn : is.Nodup) (his : ∀ i ∈ is, i < s.lineCount ∧ Unbroken (g (s.lineAt i))) :
    (∀ l ∈ (is.foldl step s).text.lines, Unbroken l) ∧
      (is.foldl step s).text.lines = s.text.lines.mapIdx fun i l => if i ∈ is then g l else l := by
  induction is generalizing s with
  | nil => exact ⟨hs, List.ext_getElem? fun k => by simp⟩
  | cons i is ih =>
    obtain ⟨hni, hn⟩ := List.nodup_cons.mp hn
    obtain ⟨⟨hi, hx⟩, his⟩ := List.forall_mem_cons.mp his
    have hset := h s i hs hi hx
    obtain ⟨hu, hl⟩ := ih (unbroken_set hset hs hx) hn fun j hj => by
      rw [lineCount, lineAt, lineCount_set hset, lineAt_set_ne hset (ne_of_mem_of_not_mem hj hni)]
      exact his j hj
    refine ⟨hu, ?_⟩
    rw [List.foldl_cons, hl, hset]
    refine List.ext_getElem? fun k => ?_
    simp only [List.getElem?_set, List.getElem?_mapIdx, List.mem_cons]
    by_cases hk : k = i
    · subst hk
      have hlt : k < s.text.lines.length := by rwa [← lineCount_eq_length]
      simp [hlt, hni, lineAt, Text.lineAt, line?]
    · simp [hk, Ne.symm hk]

end Surface

end ModalEdit
