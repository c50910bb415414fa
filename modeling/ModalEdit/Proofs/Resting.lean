import ModalEdit.Proofs.Joining
import ModalEdit.Proofs.MotionTargets

/-! Places where the cursor may rest: before the end of its line, or at the end of a line of blanks,
where the first character that is not blank would be. -/

namespace ModalEdit

open Text

namespace Text

variable {l t : Text} {m n : Nat} {p : Position}

def Rests (l : Text) (n : Nat) : Prop := n < byteLength l ∨ l.Blank ∧ n = byteLength l

instance (l : Text) (n : Nat) : Decidable (Rests l n) := inferInstanceAs (Decidable (_ ∨ _))

lemma Rests.le (h : Rests l n) : n ≤ byteLength l := by
  rcases h with h | ⟨-, h⟩ <;> omega

lemma Rests.mono (h : Rests l n) (hm : m ≤ n) : Rests l m := by
  rcases Nat.lt_or_ge m (byteLength l) with hlt | hge
  · exact .inl hlt
  · have hle := h.le
    rcases h with h | ⟨hb, -⟩
    · omega
    · exact .inr ⟨hb, by omega⟩

lemma rests_zero (l : Text) : Rests l 0 := by
  cases l with
  | nil => exact .inr ⟨List.forall_mem_nil _, rfl⟩
  | cons c l => exact .inl (Nat.pos_of_ne_zero (mt byteLength_eq_zero.mp (List.cons_ne_nil c l)))

lemma isSpot_rests : IsSpot Rests := ⟨rests_zero, Rests.le⟩

abbrev Rest (t : Text) (p : Position) : Prop := Stands Rests t p

lemma firstNonBlank_rests (t : Text) (i : Nat) : Rests (t.lineAt i) (firstNonBlankOf t i) := by
  have hp := List.takeWhile_prefix (l := t.lineAt i) Unicode.isWhitespace
  rcases Nat.lt_or_ge (firstNonBlankOf t i) (byteLength (t.lineAt i)) with hlt | hge
  · exact .inl hlt
  · obtain ⟨b, hb⟩ := hp
    have hlen := congrArg byteLength hb
    rw [byteLength_append] at hlen
    obtain rfl : b = [] := byteLength_eq_zero.mp (by rw [firstNonBlankOf] at hge; omega)
    rw [List.append_nil] at hb
    refine .inr ⟨fun c hc => ?_, congrArg byteLength hb⟩
    exact List.mem_takeWhile_imp (hb.symm ▸ hc)

end Text

namespace Grapheme

variable {l : Text} {b x : Nat} {gs : List Text}

lemma prevBoundary_rests (l : Text) (b : Nat) : Rests l (prevBoundary l b) := by
  unfold prevBoundary
  split
  · exact rests_zero l
  · cases hm : ((starts l).takeWhile (· < b)).getLast? with
    | none => exact rests_zero l
    | some k =>
      have hlt : k < b := by simpa using List.mem_takeWhile_imp (List.mem_of_getLast? hm)
      exact .inl (show k < byteLength l by omega)

lemma le_of_mem_startsFrom {n : Nat} (hx : x ∈ startsFrom n gs) : n ≤ x := by
  obtain ⟨k, rfl, -⟩ := mem_startsFrom hx
  exact Nat.le_add_right ..

lemma lt_of_mem_startsFrom {n : Nat} (hgs : ∀ g ∈ gs, g ≠ []) (hx : x ∈ startsFrom n gs) :
    x < n + byteLength gs.flatten := by
  induction gs generalizing n with
  | nil => cases hx
  | cons g gs ih =>
    obtain ⟨hg, hgs⟩ := List.forall_mem_cons.mp hgs
    have hpos := Nat.pos_of_ne_zero (mt byteLength_eq_zero.mp hg)
    rw [List.flatten_cons, byteLength_append]
    rcases List.mem_cons.mp hx with rfl | hx
    · omega
    · have := ih hgs hx
      omega

lemma lt_of_mem_starts (hx : x ∈ starts l) : x < byteLength l := by
  have hlt := lt_of_mem_startsFrom (Unicode.clusters_ne_nil l) hx
  rwa [Unicode.clusters_flatten, Nat.zero_add] at hlt

lemma nextBoundary_le (hx : x ∈ starts l) (hb : b < x) : nextBoundary l b ≤ x := by
  suffices h : ∀ n gs, x ∈ startsFrom n gs → ((startsFrom n gs).find? (b < ·)).getD
      (byteLength l) ≤ x from h 0 _ hx
  intro n gs hx
  induction gs generalizing n with
  | nil => cases hx
  | cons g gs ih =>
    have hle := le_of_mem_startsFrom hx
    rw [startsFrom, List.find?_cons]
    split
    · exact hle
    · rename_i hn
      rcases List.mem_cons.mp hx with rfl | hx
      · simp [hb] at hn
      · exact ih _ hx

lemma iterate_nextBoundary_le {w n : Nat} (hw : 0 < w)
    (hs : ∀ k, k < n → b + (k + 1) * w ∈ starts l) {a : Nat} (hab : a ≤ b) :
    Motion.iterate (nextBoundary l) n a ≤ b + n * w := by
  induction n generalizing a b with
  | zero => simpa [Motion.iterate] using hab
  | succ n ih =>
    simp only [Motion.iterate]
    split
    · omega
    · have hfirst := hs 0 (Nat.succ_pos n)
      have hnext : nextBoundary l a ≤ b + w := nextBoundary_le (by simpa using hfirst) (by omega)
      have := ih (b := b + w) (fun k hk => ?_) hnext
      · rw [Nat.succ_mul]
        omega
      · have := hs (k + 1) (Nat.succ_lt_succ hk)
        rwa [Nat.succ_mul, Nat.add_comm _ w, ← Nat.add_assoc] at this

lemma byteAtColumn_le {col : Nat} (hx : x ∈ starts l ∨ x = byteLength l)
    (hc : col ≤ columnOf l x) : byteAtColumn l col ≤ x := by
  suffices h : ∀ n gs, x ∈ startsFrom n gs ∨ x = n + byteLength gs.flatten →
      ∀ col, col ≤ columnsBefore x n gs → columnByte n col gs ≤ x by
    refine h 0 _ (hx.imp_right fun hx => ?_) col hc
    rwa [Unicode.clusters_flatten, Nat.zero_add]
  intro n gs hx
  induction gs generalizing n with
  | nil =>
    intro col _
    rcases hx with hx | hx
    · cases hx
    · exact Nat.le_of_eq hx.symm
  | cons g gs ih =>
    intro col hc
    have hle : n ≤ x := by
      rcases hx with hx | hx
      · exact le_of_mem_startsFrom hx
      · omega
    unfold columnByte
    split
    · exact hle
    · unfold columnsBefore at hc
      split at hc
      · rename_i hlt
        refine ih _ (hx.imp (fun hx => ?_) fun hx => ?_) _ (by omega)
        · exact (List.mem_cons.mp hx).resolve_left (by omega)
        · rw [hx, List.flatten_cons, byteLength_append, Nat.add_assoc]
      · omega

end Grapheme

variable {t : Text} {p : Position}

lemma normalize_rests (t : Text) (p : Position) : Rest t (normalize t p) := by
  have hc := lineCount_pos t
  refine ⟨by simp only [normalize]; omega, ?_⟩
  simp only [normalize]
  split
  · exact rests_zero _
  · split
    · exact Grapheme.prevBoundary_rests ..
    · exact .inl (Nat.lt_of_not_le ‹_›)

namespace Word

variable {l : Text} {gs : List Text} {n i : Nat}

lemma byteLength_le_of_suffix {a : Text} (h : a <:+ l) : byteLength a ≤ byteLength l := by
  obtain ⟨b, rfl⟩ := h
  simp

lemma lastWord_lt (h : gs.flatten <+: l) (hn : lastWord? gs.reverse = some n) :
    n < byteLength l := by
  unfold lastWord? at hn
  split at hn
  · cases hn
  · rename_i hne
    obtain rfl := Option.some.inj hn
    obtain ⟨g, rest, hg⟩ := List.exists_cons_of_ne_nil hne
    have hpos : 0 < byteLength g := by
      refine Nat.pos_of_ne_zero fun hz => dropBlanks_head hg ?_
      rw [byteLength_eq_zero.mp hz]
      rfl
    have hrun : byteLength (dropRun (dropBlanks gs.reverse)).flatten ≤ byteLength rest.flatten := by
      rw [hg]
      exact byteLength_le_of_suffix (flatten_suffix (List.dropWhile_suffix _))
    have hall : byteLength (dropBlanks gs.reverse).flatten ≤ byteLength l := by
      refine Nat.le_trans (byteLength_le_of_suffix (flatten_suffix (dropBlanks_suffix _))) ?_
      rw [byteLength_flatten_reverse]
      exact (isCharBoundary_of_beginning h).le
    rw [hg, List.flatten_cons, byteLength_append] at hall
    omega

lemma backwardFrom_rests (hi : i ≤ t.lineCount) : Rest t (backwardFrom t i) := by
  induction i with
  | zero => exact ⟨lineCount_pos t, rests_zero _⟩
  | succ i ih =>
    unfold backwardFrom
    dsimp only
    split
    · exact ⟨hi, rests_zero _⟩
    · split
      · rename_i hb
        refine ⟨hi, .inl (lastWord_lt ⟨[], ?_⟩ hb)⟩
        rw [List.append_nil, Unicode.clusters_flatten]
      · exact ih (Nat.le_of_succ_le hi)

lemma backward_rests (hp : p.line < t.lineCount) : Rest t (backward t p) := by
  unfold backward
  dsimp only
  split
  · rename_i hb
    exact ⟨hp, .inl (lastWord_lt (clustersTo_beginning ..) hb)⟩
  · exact backwardFrom_rests (Nat.le_of_lt hp)

lemma forwardFrom_line (i n : Nat) (ls : List Text) : i ≤ (forwardFrom i n ls).line := by
  induction ls generalizing i n with
  | nil => exact Nat.le_refl _
  | cons l ls ih =>
    unfold forwardFrom
    split
    · exact Nat.le_succ _
    · split
      · exact Nat.le_of_succ_le (ih ..)
      · exact Nat.le_succ _

lemma forward_line (t : Text) (p : Position) : p.line ≤ (forward t p).line := by
  unfold forward
  dsimp only
  split
  · exact forwardFrom_line ..
  · exact Nat.le_refl _

lemma toEndFrom_line {ls : List Text} (hi : i < t.lineCount) (h : t.lines.drop (i + 1) = ls) :
    i ≤ (toEndFrom t i ls).line ∧ (toEndFrom t i ls).line < t.lineCount := by
  induction ls generalizing i with
  | nil =>
    have hn : i ≤ (normalize t ⟨i, t.lineLength i⟩).line := Nat.le_min.mpr ⟨Nat.le_refl _, by omega⟩
    exact ⟨hn, (normalize_rests ..).1⟩
  | cons l ls ih =>
    obtain ⟨hi', rfl, h'⟩ := of_lines_drop h
    unfold toEndFrom
    split
    · exact ⟨Nat.le_of_succ_le (ih hi' h').1, (ih hi' h').2⟩
    · exact ⟨Nat.le_succ _, hi'⟩

lemma toEnd_line (hp : p.line < t.lineCount) :
    p.line ≤ (toEnd t p).line ∧ (toEnd t p).line < t.lineCount := by
  unfold toEnd
  dsimp only
  split
  · exact toEndFrom_line hp rfl
  · exact ⟨Nat.le_refl _, hp⟩

end Word

lemma Motion.target_line {m : Motion} (hm : m.isLinewise = false) (hb : m ≠ .wordBackward)
    (hp : p.line < t.lineCount) (count : Nat) (explicit : Bool) :
    p.line ≤ (m.target t p count explicit).line := by
  cases m with
  | left | right | lineStart | firstNonBlank => exact Nat.le_refl _
  | down | up | gotoLine | firstLine => cases hm
  | lineEnd => simp only [target]; omega
  | wordBackward => exact absurd rfl hb
  | wordForward =>
    exact iterate_keeps (P := fun q => p.line ≤ q.line)
      (fun q hq => Nat.le_trans hq (Word.forward_line t q)) _ (Nat.le_refl _)
  | wordEnd =>
    refine (iterate_keeps (P := fun q : Position => p.line ≤ q.line ∧ q.line < t.lineCount)
      (fun q hq => ?_) _ ⟨Nat.le_refl _, hp⟩).1
    obtain ⟨hle, hlt⟩ := Word.toEnd_line hq.2
    exact ⟨Nat.le_trans hq.1 hle, hlt⟩

lemma Motion.target_rests {m : Motion} (hm : m.isLinewise = false) (hp : Rest t p) {count : Nat}
    {explicit : Bool} (hlt : m.target t p count explicit < p) :
    Rest t (m.target t p count explicit) := by
  by_cases hb : m = .wordBackward
  · subst hb
    exact iterate_keeps (P := Rest t) (fun q hq => Word.backward_rests hq.1) _ hp
  · have hle := target_line hm hb hp.1 count explicit
    rw [Position.lt_def] at hlt
    obtain ⟨hl, hb⟩ : (m.target t p count explicit).line = p.line ∧
        (m.target t p count explicit).byte < p.byte := by omega
    refine ⟨hl ▸ hp.1, ?_⟩
    rw [hl]
    exact hp.2.mono (Nat.le_of_lt hb)

end ModalEdit
