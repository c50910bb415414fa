import ModalEdit.Proofs.LineRewriting

namespace ModalEdit

namespace Text

variable {t a b l x y : Text} {ls : List Text} {c : Char} {i : Nat}

def Unbroken (l : Text) : Prop := ∀ c ∈ l, isLineBreak c = false

instance (l : Text) : Decidable (Unbroken l) := List.decidableBAll (isLineBreak · = false) l

@[simp] lemma unbroken_nil : Unbroken [] := List.forall_mem_nil _

@[simp] lemma unbroken_cons : Unbroken (c :: l) ↔ isLineBreak c = false ∧ Unbroken l :=
  List.forall_mem_cons

@[simp] lemma unbroken_append : Unbroken (a ++ b) ↔ Unbroken a ∧ Unbroken b :=
  List.forall_mem_append

namespace Unbroken

lemma mono (h : Unbroken t) (hl : l ⊆ t) : Unbroken l := fun c hc => h c (hl hc)

lemma takeBytes (h : Unbroken t) (n : Nat) : Unbroken (takeBytes n t) := by
  rw [← takeBytes_append_dropBytes n t] at h
  exact (unbroken_append.mp h).1

lemma dropBytes (h : Unbroken t) (n : Nat) : Unbroken (dropBytes n t) := by
  rw [← takeBytes_append_dropBytes n t] at h
  exact (unbroken_append.mp h).2

lemma withinLine (hl : Unbroken l) : WithinLine l := by
  induction l with
  | nil => exact .nil
  | cons c l ih =>
    obtain ⟨hc, hl⟩ := unbroken_cons.mp hl
    exact .plain hc (ih hl)

end Unbroken

def FeedsOnly (t : Text) : Prop := ∀ c ∈ t, isLineBreak c = true → c = '\n'

instance (t : Text) : Decidable (FeedsOnly t) :=
  List.decidableBAll (fun c => isLineBreak c = true → c = '\n') t

lemma FeedsOnly.unbroken (ht : FeedsOnly t) : ∀ l ∈ t.lines, Unbroken l := by
  intro l hl c hc
  obtain ⟨r, hr, rfl⟩ := List.mem_map.mp hl
  have hct : c ∈ t := by
    rw [← rawLines_flatten t]
    exact List.mem_flatten_of_mem hr ((trimNewline_beginning r).subset hc)
  by_contra hb
  exact (WithinLine.of_raw hr).not_mem (ht c hct ((Bool.not_eq_false _).mp hb) ▸ hc)

lemma lines_plain (hc : isLineBreak c = false) (t : Text) :
    ∃ l ls, lines t = l :: ls ∧ lines (c :: t) = (c :: l) :: ls := by
  obtain ⟨l, ls, hr, hr'⟩ := rawLines_plain hc t
  refine ⟨trimNewline l, ls.map trimNewline, ?_, ?_⟩
  · rw [lines, hr, List.map_cons]
  · rw [lines, hr', List.map_cons, trimNewline_cons (not_isLineBreak_ne hc)]

lemma lines_feed (t : Text) : lines ('\n' :: t) = [] :: lines t := by
  rw [lines, rawLines_alone (by decide) (by simp)]
  rfl

lemma lines_unbroken (hx : Unbroken x) (hb : lines b = [] :: ls) : lines (x ++ b) = x :: ls := by
  induction x with
  | nil => exact hb
  | cons c x ih =>
    obtain ⟨hc, hx⟩ := unbroken_cons.mp hx
    obtain ⟨l', ls', hl, hl'⟩ := lines_plain hc (x ++ b)
    rw [ih hx] at hl
    obtain ⟨rfl, rfl⟩ := List.cons.inj hl
    exact hl'

inductive Around : Text → Text → Nat → Prop
  | only : Around [] [] 0
  | first (b : Text) : Around [] ('\n' :: b) 0
  | later {c : Char} {a b : Text} {i : Nat} (hc : isLineBreak c = false)
      (h : Around a b (i + 1)) : Around (c :: a) b (i + 1)
  | past {a b : Text} {i : Nat} (h : Around a b i) : Around ('\n' :: a) b (i + 1)

namespace Around

lemma ends (h : Around a b i) (hx : Unbroken x) (b' : Text) :
    Ends (a ++ x) b' i (byteLength x) := by
  induction h with
  | only => exact hx.withinLine.ends b'
  | first b => exact hx.withinLine.ends b'
  | later hc h ih => exact .later hc ih
  | past h ih => exact .past (by decide) (by simp) ih

lemma offset (h : Around a b i) (hx : Unbroken x) (b' : Text) :
    offsetOf (a ++ x ++ b') ⟨i, byteLength x⟩ = byteLength (a ++ x) :=
  (h.ends hx b').offset

lemma lines_append (h : Around a b i) :
    ∃ pre : List Text, pre.length = i ∧ ∀ w, lines (a ++ w) = pre ++ lines w := by
  induction h with
  | only => exact ⟨[], rfl, fun w => rfl⟩
  | first b => exact ⟨[], rfl, fun w => rfl⟩
  | @later c a b i hc h ih =>
    obtain ⟨pre, hn, hw⟩ := ih
    obtain ⟨l, pre, rfl⟩ := List.exists_cons_of_length_eq_add_one hn
    refine ⟨(c :: l) :: pre, hn, fun w => ?_⟩
    obtain ⟨m, ms, hm, hm'⟩ := lines_plain hc (a ++ w)
    rw [hw w] at hm
    obtain ⟨rfl, rfl⟩ := List.cons.inj hm
    exact hm'
  | @past a b i h ih =>
    obtain ⟨pre, rfl, hw⟩ := ih
    refine ⟨[] :: pre, rfl, fun w => ?_⟩
    rw [List.cons_append, lines_feed, hw w]
    rfl

lemma lineAt (h : Around a b i) {w l : Text} {ls : List Text} (hw : lines w = l :: ls) :
    lineAt (a ++ w) i = l := by
  obtain ⟨pre, rfl, hpre⟩ := h.lines_append
  simp [Text.lineAt, line?, hpre, hw]

lemma rest (h : Around a b i) : b = [] ∨ ∃ w, b = '\n' :: w := by
  induction h with
  | only => exact .inl rfl
  | first b => exact .inr ⟨b, rfl⟩
  | later _ _ ih => exact ih
  | past _ ih => exact ih

lemma lines_rest (h : Around a b i) : ∃ post, lines b = [] :: post := by
  rcases h.rest with rfl | ⟨w, rfl⟩
  · exact ⟨[], rfl⟩
  · exact ⟨_, lines_feed w⟩

lemma next (h : Around a b i) (hx : Unbroken x) {b' : Text} (hb : Around [] b' 0) :
    Around (a ++ (x ++ ['\n'])) b' (i + 1) := by
  have hfirst : Around (x ++ ['\n']) b' 1 := by
    induction x with
    | nil => exact .past hb
    | cons c x ih =>
      obtain ⟨hc, hx⟩ := unbroken_cons.mp hx
      exact .later hc (ih hx)
  induction h with
  | only => exact hfirst
  | first b => exact hfirst
  | later hc _ ih => exact .later hc ih
  | past _ ih => exact .past ih

lemma lines_set (h : Around a b i) (hx : Unbroken x) (hy : Unbroken y) :
    lines (a ++ (y ++ b)) = (lines (a ++ (x ++ b))).set i y := by
  obtain ⟨pre, rfl, hw⟩ := h.lines_append
  obtain ⟨post, hb⟩ := h.lines_rest
  rw [hw, hw, lines_unbroken hx hb, lines_unbroken hy hb, List.set_append_right _ _ (Nat.le_refl _),
    Nat.sub_self]
  rfl

end Around

lemma lineAt_unbroken (ht : ∀ l ∈ t.lines, Unbroken l) (i : Nat) : Unbroken (t.lineAt i) := by
  rw [lineAt, line?]
  cases hl : t.lines[i]? with
  | none => exact unbroken_nil
  | some l => exact ht l (List.mem_of_getElem? hl)

lemma unbroken_mapIdx {g : Text → Text} {ls : List Text} (hls : ∀ l ∈ ls, Unbroken l)
    (hg : ∀ l, Unbroken l → Unbroken (g l)) (p : Nat → Prop) [DecidablePred p] :
    ∀ l ∈ ls.mapIdx fun i l => if p i then g l else l, Unbroken l := by
  intro l hl
  obtain ⟨k, hk, rfl⟩ := List.mem_mapIdx.mp hl
  have hu := hls _ (List.getElem_mem hk)
  split
  · exact hg _ hu
  · exact hu

lemma exists_around (ht : ∀ l ∈ t.lines, Unbroken l) (hi : i < t.lineCount) :
    ∃ a b, t = a ++ (t.lineAt i ++ b) ∧ Around a b i := by
  induction t using breakInduction generalizing i with
  | nil =>
    obtain rfl : i = 0 := Nat.lt_one_iff.mp hi
    exact ⟨[], [], rfl, .only⟩
  | pair t ih =>
    -- the carriage return would stay in its line
    have hr : Unbroken ['\r'] := ht _ List.mem_cons_self
    cases (unbroken_cons.mp hr).1
  | alone c t hc hn ih =>
    have hl : lines (c :: t) = trimNewline [c] :: lines t := by
      rw [lines, rawLines_alone hc hn]
      rfl
    rw [hl] at ht
    obtain ⟨hc', ht'⟩ := List.forall_mem_cons.mp ht
    by_cases hf : c = '\n'
    · subst hf
      cases i with
      | zero => exact ⟨[], '\n' :: t, rfl, .first t⟩
      | succ i =>
        rw [lineCount_alone hc hn] at hi
        obtain ⟨a, b, hab, h⟩ := ih ht' (Nat.lt_of_succ_lt_succ hi)
        refine ⟨'\n' :: a, b, ?_, .past h⟩
        rw [lineAt_alone_succ hc hn, List.cons_append, ← hab]
    · rw [trimNewline_cons hf] at hc'
      exact absurd hc (by simp [(unbroken_cons.mp hc').1])
  | plain c t hc ih =>
    obtain ⟨l, ls, hl, hl'⟩ := lines_plain hc t
    rw [hl'] at ht
    obtain ⟨hcl, hls⟩ := List.forall_mem_cons.mp ht
    rw [lineCount_plain hc] at hi
    obtain ⟨a, b, hab, h⟩ := ih (hl ▸ List.forall_mem_cons.mpr ⟨(unbroken_cons.mp hcl).2, hls⟩) hi
    cases i with
    | zero =>
      have ha : a = [] := by
        cases h <;> rfl
      subst ha
      refine ⟨[], b, ?_, h⟩
      rw [lineAt_plain_zero hc, List.nil_append, List.cons_append, ← List.nil_append (_ ++ b),
        ← hab]
    | succ i =>
      refine ⟨c :: a, b, ?_, .later hc h⟩
      rw [lineAt_plain_succ hc, List.cons_append, ← hab]

lemma Around.last (h : Around a b i) (hx : Unbroken x)
    (hi : (a ++ (x ++ b)).lineCount ≤ i + 1) : b = [] := by
  obtain ⟨pre, rfl, hw⟩ := h.lines_append
  rcases h.rest with rfl | ⟨w, rfl⟩
  · rfl
  · have hpos := lineCount_pos w
    rw [lineCount_eq_length] at hi hpos
    rw [hw, lines_unbroken hx (lines_feed w), List.length_append, List.length_cons] at hi
    omega

lemma exists_next (ht : ∀ l ∈ t.lines, Unbroken l) (hab : t = a ++ (t.lineAt i ++ b))
    (h : Around a b i) (hi : i + 1 < t.lineCount) :
    ∃ b', b = '\n' :: (t.lineAt (i + 1) ++ b') ∧
      Around (a ++ (t.lineAt i ++ ['\n'])) b' (i + 1) := by
  have hx := lineAt_unbroken ht i
  generalize t.lineAt i = x at hab hx ⊢
  obtain ⟨pre, rfl, hw⟩ := h.lines_append
  have hl : t.lines = pre ++ lines (x ++ b) := hw _ ▸ congrArg lines hab
  rcases h.rest with rfl | ⟨w, rfl⟩
  · have hb : lines [] = [[]] := rfl
    rw [lines_unbroken hx hb] at hl
    rw [lineCount_eq_length, hl, List.length_append] at hi
    exact absurd hi (Nat.lt_irrefl _)
  · rw [lines_unbroken hx (lines_feed w)] at hl
    have hsub : lines w ⊆ t.lines := by
      rw [hl]
      exact fun l hm => List.mem_append_right _ (List.mem_cons_of_mem _ hm)
    obtain ⟨a', b, hw', h'⟩ := exists_around (fun l hm => ht l (hsub hm)) (lineCount_pos w)
    have hy : t.lineAt (pre.length + 1) = lineAt w 0 := by
      simp [lineAt, line?, hl, List.getElem?_append_right]
    obtain rfl : a' = [] := by
      cases h' <;> rfl
    rw [List.nil_append] at hw'
    exact ⟨b, by rw [hy, ← hw'], h.next hx h'⟩

end Text

open Text

namespace Surface

variable {s : Surface} {a b x : Text} {i : Nat} {f : Text → Text}

lemma clearLine_text (h : Around a b i) (hs : s.text = a ++ (s.lineAt i ++ b))
    (hl : Unbroken (s.lineAt i)) : (s.clearLine i).text = a ++ b := by
  have hstart := h.offset unbroken_nil (s.lineAt i ++ b)
  rw [List.append_nil, ← hs] at hstart
  exact (delete_between hs hstart (stopOffset_of_ends (h.ends hl b) (by simpa using hs))).1

lemma rewriteLine_text (h : Around a b i) (hs : (s.clearLine i).text = a ++ b) (x : Text) :
    (s.rewriteLine i x).text = a ++ (x ++ b) := by
  have hstart := h.offset unbroken_nil b
  rw [List.append_nil, ← hs] at hstart
  exact insert_between hs hstart x

lemma RewritesLine.of_unbroken (hs : ∀ l ∈ s.text.lines, Unbroken l) (hi : i < s.lineCount)
    (hx : Unbroken x) : s.RewritesLine i x := by
  obtain ⟨a, b, ht, h⟩ := exists_around hs hi
  have hl : Unbroken (s.lineAt i) := lineAt_unbroken hs i
  have hc := clearLine_text h ht hl
  refine ⟨?_, ?_⟩
  · rw [hc, ht]
    exact h.lines_set hl unbroken_nil
  · rw [rewriteLine_text h hc, ht]
    exact h.lines_set hl hx

end Surface

end ModalEdit
