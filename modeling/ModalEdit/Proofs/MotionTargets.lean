import Mathlib.Data.List.TakeWhile
import ModalEdit.Motion.Basic
import ModalEdit.Proofs.Positions

namespace ModalEdit

open Text

lemma flatten_suffix {gs gs' : List Text} (h : gs' <:+ gs) : gs'.flatten <:+ gs.flatten := by
  obtain ⟨a, rfl⟩ := h
  exact ⟨a.flatten, by simp⟩

lemma flatten_beginning {gs gs' : List Text} (h : gs' <+: gs) : gs'.flatten <+: gs.flatten := by
  obtain ⟨b, rfl⟩ := h
  exact ⟨b.flatten, by simp⟩

lemma isCharBoundary_of_beginning {a t : Text} (h : a <+: t) : IsCharBoundary t (byteLength a) := by
  obtain ⟨b, rfl⟩ := h
  exact isCharBoundary_between a b

namespace Grapheme

variable {l : Text} {b n : Nat} {gs : List Text}

lemma mem_startsFrom (hb : b ∈ startsFrom n gs) :
    ∃ k, b = n + k ∧ IsCharBoundary gs.flatten k := by
  induction gs generalizing n with
  | nil => cases hb
  | cons g gs ih =>
    rcases List.mem_cons.mp hb with rfl | hb
    · exact ⟨0, rfl, isCharBoundary_zero _⟩
    · obtain ⟨k, rfl, hk⟩ := ih hb
      exact ⟨byteLength g + k, Nat.add_assoc .., hk.append_left g⟩

lemma starts_boundary (hb : b ∈ starts l) : IsCharBoundary l b := by
  obtain ⟨k, rfl, hk⟩ := mem_startsFrom hb
  rwa [Unicode.clusters_flatten, ← Nat.zero_add k] at hk

lemma prevBoundary_spec (l : Text) (b : Nat) :
    IsCharBoundary l (prevBoundary l b) ∧ prevBoundary l b ≤ b := by
  unfold prevBoundary
  split
  · exact ⟨isCharBoundary_zero l, Nat.zero_le b⟩
  · cases hm : ((starts l).takeWhile (· < b)).getLast? with
    | none => exact ⟨isCharBoundary_zero l, Nat.zero_le b⟩
    | some k =>
      have hk := List.mem_of_getLast? hm
      have hlt : k < b := by simpa using List.mem_takeWhile_imp hk
      exact ⟨starts_boundary (List.takeWhile_subset _ hk), Nat.le_of_lt hlt⟩

lemma prevBoundary_boundary (l : Text) (b : Nat) : IsCharBoundary l (prevBoundary l b) :=
  (prevBoundary_spec l b).1

lemma prevBoundary_le (l : Text) (b : Nat) : prevBoundary l b ≤ b := (prevBoundary_spec l b).2

lemma nextBoundary_boundary (l : Text) (b : Nat) : IsCharBoundary l (nextBoundary l b) := by
  unfold nextBoundary
  cases hf : (starts l).find? (b < ·) with
  | none => exact isCharBoundary_length l
  | some k => exact starts_boundary (List.mem_of_find?_eq_some hf)

lemma le_nextBoundary (hb : b ≤ byteLength l) : b ≤ nextBoundary l b := by
  unfold nextBoundary
  cases hf : (starts l).find? (b < ·) with
  | none => exact hb
  | some k =>
    have hlt : b < k := by simpa using List.find?_some hf
    exact Nat.le_of_lt hlt

lemma columnByte_boundary (n col : Nat) (gs : List Text) :
    ∃ k, columnByte n col gs = n + k ∧ IsCharBoundary gs.flatten k := by
  induction gs generalizing n col with
  | nil => exact ⟨0, rfl, isCharBoundary_zero _⟩
  | cons g gs ih =>
    unfold columnByte
    split
    · exact ⟨0, rfl, isCharBoundary_zero _⟩
    · obtain ⟨k, hk, hb⟩ := ih (n + byteLength g) (col - width g)
      exact ⟨byteLength g + k, hk.trans (Nat.add_assoc ..), hb.append_left g⟩

lemma byteAtColumn_boundary (l : Text) (col : Nat) : IsCharBoundary l (byteAtColumn l col) := by
  obtain ⟨k, hk, hb⟩ := columnByte_boundary 0 col (Unicode.clusters l)
  rw [Unicode.clusters_flatten] at hb
  rwa [byteAtColumn, hk, Nat.zero_add]

end Grapheme

namespace Motion

lemma iterate_keeps {α : Type} [DecidableEq α] {P : α → Prop} {f : α → α}
    (hf : ∀ x, P x → P (f x)) (n : Nat) {x : α} (hx : P x) : P (iterate f n x) := by
  induction n generalizing x with
  | zero => exact hx
  | succ n ih =>
    simp only [iterate]
    split
    · exact hx
    · exact ih (hf x hx)

end Motion

variable {t : Text} {p : Position}

lemma firstNonBlank_lands (t : Text) (i : Nat) : Lands t ⟨i, firstNonBlankOf t i⟩ :=
  isCharBoundary_of_beginning (List.takeWhile_prefix _)

lemma clamp_normalize (t : Text) (p : Position) : clamp t (normalize t p) = normalize t p := by
  generalize hl : t.lineAt (min p.line (t.lineCount - 1)) = l
  have hb : (normalize t p).byte ≤ l.byteLength := by
    simp only [normalize, hl]
    split
    · exact Nat.zero_le _
    · split
      · exact (Grapheme.prevBoundary_spec l l.byteLength).2
      · omega
  have hline : (normalize t p).line = min p.line (t.lineCount - 1) := rfl
  have hlen : t.lineLength (normalize t p).line = l.byteLength := by
    rw [hline, lineLength, hl]
  have hm : min (normalize t p).line (t.lineCount - 1) = (normalize t p).line := by omega
  simp only [clamp, hm, hlen, Nat.min_eq_left hb]

lemma normalize_valid (hp : Lands t p) : Valid t (normalize t p) := by
  have hc := lineCount_pos t
  refine ⟨by simp only [normalize]; omega, ?_⟩
  simp only [normalize]
  split
  · exact isCharBoundary_zero _
  · split
    · exact Grapheme.prevBoundary_boundary ..
    · rename_i hlt
      by_cases hl : p.line < t.lineCount
      · rw [Nat.min_eq_left (by omega)]
        exact hp
      · rw [Lands, lineAt_of_le (by omega), isCharBoundary_nil] at hp
        rw [hp]
        exact isCharBoundary_zero _

namespace Word

variable {l : Text} {gs gs' : List Text} {n i : Nat}

lemma dropClusters_suffix (n : Nat) (gs : List Text) :
    (dropClusters n gs).flatten <:+ gs.flatten := by
  induction gs generalizing n with
  | nil => exact List.suffix_refl _
  | cons g gs ih =>
    unfold dropClusters
    split
    · exact List.suffix_refl _
    · split
      · exact (ih _).trans ⟨g, rfl⟩
      · refine ⟨takeBytes n g, ?_⟩
        rw [List.flatten_cons, ← List.append_assoc, takeBytes_append_dropBytes]
        rfl

lemma takeClusters_beginning (n : Nat) (gs : List Text) :
    (takeClusters n gs).flatten <+: gs.flatten := by
  induction gs generalizing n with
  | nil => exact List.prefix_refl _
  | cons g gs ih =>
    unfold takeClusters
    split
    · exact List.nil_prefix
    · split
      · exact List.prefix_append_right_inj g |>.mpr (ih _)
      · refine ⟨dropBytes n g ++ gs.flatten, ?_⟩
        simp [← List.append_assoc]

lemma clustersFrom_suffix (l : Text) (n : Nat) : (clustersFrom l n).flatten <:+ l := by
  simpa [clustersFrom, Unicode.clusters_flatten] using dropClusters_suffix n (Unicode.clusters l)

lemma clustersTo_beginning (l : Text) (n : Nat) : (clustersTo l n).flatten <+: l := by
  simpa [clustersTo, Unicode.clusters_flatten] using takeClusters_beginning n (Unicode.clusters l)

lemma dropBlanks_suffix (gs : List Text) : dropBlanks gs <:+ gs := List.dropWhile_suffix _

lemma dropBlanks_head {g : Text} {rest : List Text} (h : dropBlanks gs = g :: rest) :
    classOf g ≠ .blank := by
  have hh := List.head?_dropWhile_not (classOf · == .blank) gs
  rw [← dropBlanks, h] at hh
  simpa using hh

lemma dropRun_suffix (gs : List Text) : dropRun gs <:+ gs := by
  cases gs with
  | nil => exact List.suffix_refl _
  | cons g gs => exact (List.dropWhile_suffix _).trans (List.suffix_cons g gs)

lemma dropWord_suffix (gs : List Text) : dropWord gs <:+ gs := by
  unfold dropWord
  split
  · exact List.suffix_refl _
  · split
    · exact List.suffix_refl _
    · exact dropRun_suffix _

lemma startOf_boundary (h : gs.flatten <:+ l) : IsCharBoundary l (startOf l gs) := by
  obtain ⟨a, rfl⟩ := h
  exact isCharBoundary_suffix a _

lemma runEnd_boundary (h : gs.flatten <:+ l) : IsCharBoundary l (runEnd l gs) := by
  cases gs with
  | nil => exact isCharBoundary_length l
  | cons g rest =>
    obtain ⟨a, rfl⟩ := h
    have hp : (g :: rest.takeWhile (classOf · == classOf g)).dropLast <+: g :: rest :=
      (List.dropLast_prefix _).trans (List.prefix_cons_inj g |>.mpr (List.takeWhile_prefix _))
    have hb := (isCharBoundary_of_beginning (flatten_beginning hp)).append_left a
    rwa [runEnd, startOf, byteLength_append, Nat.add_sub_cancel]

lemma byteLength_flatten_reverse (gs : List Text) :
    byteLength gs.reverse.flatten = byteLength gs.flatten := by
  induction gs with
  | nil => rfl
  | cons g gs ih => simp [ih, Nat.add_comm]

lemma lastWord_boundary (h : gs.flatten <+: l) (hn : lastWord? gs.reverse = some n) :
    IsCharBoundary l n := by
  unfold lastWord? at hn
  split at hn
  · cases hn
  · obtain rfl := Option.some.inj hn
    have hs := (dropRun_suffix _).trans (dropBlanks_suffix gs.reverse)
    have hp : (dropRun (dropBlanks gs.reverse)).reverse <+: gs := by
      simpa using List.reverse_prefix.mpr hs
    rw [← byteLength_flatten_reverse]
    exact isCharBoundary_of_beginning ((flatten_beginning hp).trans h)

variable {ls : List Text}

lemma forwardFrom_valid (hi : i < t.lineCount) (h : t.lines.drop (i + 1) = ls) :
    Valid t (forwardFrom i (t.lineLength i) ls) := by
  induction ls generalizing i with
  | nil => exact ⟨hi, isCharBoundary_length _⟩
  | cons l ls ih =>
    obtain ⟨hi', rfl, h'⟩ := of_lines_drop h
    unfold forwardFrom
    split
    · exact ⟨hi', isCharBoundary_zero _⟩
    · split
      · exact ih hi' h'
      · refine ⟨hi', startOf_boundary (l := t.lineAt (i + 1)) ?_⟩
        have hs := flatten_suffix (dropBlanks_suffix (Unicode.clusters (t.lineAt (i + 1))))
        rwa [Unicode.clusters_flatten] at hs

lemma forward_valid (hp : Valid t p) : Valid t (forward t p) := by
  unfold forward
  dsimp only
  split
  · exact forwardFrom_valid hp.1 rfl
  · have hs := (dropBlanks_suffix _).trans (dropWord_suffix
      (clustersFrom (t.lineAt p.line) (min p.byte (t.lineAt p.line).byteLength)))
    exact ⟨hp.1, startOf_boundary ((flatten_suffix hs).trans (clustersFrom_suffix ..))⟩

lemma backwardFrom_valid (hi : i ≤ t.lineCount) : Valid t (backwardFrom t i) := by
  induction i with
  | zero => exact ⟨lineCount_pos t, isCharBoundary_zero _⟩
  | succ i ih =>
    unfold backwardFrom
    dsimp only
    split
    · exact ⟨hi, isCharBoundary_zero _⟩
    · split
      · rename_i hb
        refine ⟨hi, lastWord_boundary ⟨[], ?_⟩ hb⟩
        rw [List.append_nil, Unicode.clusters_flatten]
      · exact ih (Nat.le_of_succ_le hi)

lemma backward_valid (hp : Valid t p) : Valid t (backward t p) := by
  unfold backward
  dsimp only
  split
  · rename_i hb
    exact ⟨hp.1, lastWord_boundary (clustersTo_beginning ..) hb⟩
  · exact backwardFrom_valid (Nat.le_of_lt hp.1)

lemma toEndFrom_valid (h : t.lines.drop (i + 1) = ls) : Valid t (toEndFrom t i ls) := by
  induction ls generalizing i with
  | nil => exact normalize_valid (isCharBoundary_length _)
  | cons l ls ih =>
    obtain ⟨hi, rfl, h'⟩ := of_lines_drop h
    unfold toEndFrom
    split
    · exact ih h'
    · refine ⟨hi, runEnd_boundary (l := t.lineAt (i + 1)) ?_⟩
      have hs := flatten_suffix (dropBlanks_suffix (Unicode.clusters (t.lineAt (i + 1))))
      rwa [Unicode.clusters_flatten] at hs

lemma toEnd_valid (hp : Valid t p) : Valid t (toEnd t p) := by
  unfold toEnd
  dsimp only
  split
  · exact toEndFrom_valid rfl
  · exact ⟨hp.1, runEnd_boundary
      ((flatten_suffix (dropBlanks_suffix _)).trans (clustersFrom_suffix ..))⟩

end Word

lemma Motion.lineTarget_lt {i : Nat} (hi : i < t.lineCount) (count : Nat) (explicit : Bool) :
    Motion.lineTarget t count explicit i < t.lineCount := by
  unfold Motion.lineTarget
  split <;> omega

theorem Motion.target_valid (m : Motion) (hp : Valid t p) (count : Nat) (explicit : Bool) :
    Valid t (m.target t p count explicit) := by
  have hc := lineCount_pos t
  have hl := hp.1
  cases m with
  | left =>
    refine ⟨hl, Motion.iterate_keeps (P := IsCharBoundary (t.lineAt p.line))
      (fun b _ => Grapheme.prevBoundary_boundary ..) _ ?_⟩
    rw [Nat.min_eq_left hp.2.le]
    exact hp.2
  | right =>
    exact ⟨hl, Motion.iterate_keeps (P := IsCharBoundary (t.lineAt p.line))
      (fun b _ => Grapheme.nextBoundary_boundary ..) _ hp.2⟩
  | down => exact ⟨by simp only [target, sameColumn]; omega, Grapheme.byteAtColumn_boundary ..⟩
  | up => exact ⟨by simp only [target, sameColumn]; omega, Grapheme.byteAtColumn_boundary ..⟩
  | lineStart => exact ⟨hl, isCharBoundary_zero _⟩
  | firstNonBlank => exact ⟨hl, firstNonBlank_lands ..⟩
  | lineEnd => exact ⟨by simp only [target]; omega, isCharBoundary_length _⟩
  | gotoLine => exact ⟨lineTarget_lt (by omega) .., firstNonBlank_lands ..⟩
  | firstLine => exact ⟨lineTarget_lt hc .., firstNonBlank_lands ..⟩
  | wordForward => exact Motion.iterate_keeps (P := Valid t) (fun _ => Word.forward_valid) _ hp
  | wordBackward => exact Motion.iterate_keeps (P := Valid t) (fun _ => Word.backward_valid) _ hp
  | wordEnd => exact Motion.iterate_keeps (P := Valid t) (fun _ => Word.toEnd_valid) _ hp

end ModalEdit
