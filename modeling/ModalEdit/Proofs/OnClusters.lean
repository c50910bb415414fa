import ModalEdit.Proofs.Columns
import ModalEdit.Proofs.WordMotions

/-! Motions between clusters. The target of a motion is a boundary of clusters unless it was found
by its character: the first that is not blank may stand within a cluster. -/

namespace ModalEdit

open Text Grapheme Word
open Unicode (clusters)

variable {l : Text} {n : Nat}

namespace Grapheme

def IsClusterStart (l : Text) (n : Nat) : Prop := n ∈ starts l ∨ l = [] ∧ n = 0

lemma IsClusterStart.boundary (h : IsClusterStart l n) : IsBoundary l n := by
  rcases h with h | ⟨-, rfl⟩
  · exact isBoundary_iff.mpr (.inl h)
  · exact isBoundary_zero l

lemma prevBoundary_isBoundary (l : Text) (n : Nat) : IsBoundary l (prevBoundary l n) := by
  unfold prevBoundary
  split
  · exact isBoundary_zero l
  · cases hm : ((starts l).takeWhile (· < n)).getLast? with
    | none => exact isBoundary_zero l
    | some k =>
      have hk := List.takeWhile_subset _ (List.mem_of_getLast? hm)
      exact isBoundary_iff.mpr (.inl hk)

lemma nextBoundary_isBoundary (l : Text) (n : Nat) : IsBoundary l (nextBoundary l n) := by
  unfold nextBoundary
  cases hf : (starts l).find? (n < ·) with
  | none => exact isBoundary_length l
  | some k => exact isBoundary_iff.mpr (.inl (List.mem_of_find?_eq_some hf))

lemma prevBoundary_length_mem (hl : l ≠ []) : prevBoundary l (byteLength l) ∈ starts l := by
  have hne := clusters_ne_nil hl
  rw [prevBoundary_length hl]
  exact mem_starts_iff.mpr
    ⟨_, (clusters l).getLast hne, [], (List.dropLast_concat_getLast hne).symm, rfl⟩

end Grapheme

namespace Word

lemma classOf_eq_blank {g : Text} : classOf g = .blank ↔ isBlank g = true := by
  by_cases hg : isBlank g = true
  · simp [classOf, hg]
  · cases hw : isWord g <;> simp [classOf, hg, hw]

lemma whitespace_of_blank {u : List Text} (hu : ∀ g ∈ u, classOf g = .blank) :
    ∀ c ∈ u.flatten, Unicode.isWhitespace c = true := by
  intro c hc
  obtain ⟨g, hg, hcg⟩ := List.mem_flatten.mp hc
  exact List.all_eq_true.mp (classOf_eq_blank.mp (hu g hg)) c hcg

lemma exists_visible {g : Text} (hg : classOf g ≠ .blank) :
    ∃ w c v, g = w ++ c :: v ∧ (∀ x ∈ w, Unicode.isWhitespace x = true) ∧
      Unicode.isWhitespace c = false := by
  obtain ⟨k, hk, hkw⟩ : ∃ c ∈ g, Unicode.isWhitespace c = false := by
    simpa [classOf_eq_blank, isBlank] using hg
  have hsome : (g.find? fun c => !Unicode.isWhitespace c).isSome := by
    rw [List.find?_isSome]
    exact ⟨k, hk, by simp [hkw]⟩
  obtain ⟨c, hfind⟩ := Option.isSome_iff_exists.mp hsome
  obtain ⟨hc, w, v, rfl, hw⟩ := List.find?_eq_some_iff_append.mp hfind
  exact ⟨w, c, v, rfl, by simpa using hw, by simpa using hc⟩

lemma not_isBoundary_within {g : Text} {u rest : List Text} (hl : clusters l = u ++ g :: rest)
    (hpos : 0 < n) (hlt : n < byteLength g) : ¬IsBoundary l (byteLength u.flatten + n) := by
  intro hb
  have hle := next_le hb hl (Nat.lt_add_of_pos_right hpos)
  simp only [List.take_succ_cons, List.take_zero, List.flatten_append, List.flatten_singleton,
    byteLength_append] at hle
  omega

end Word

namespace Text

/-- The first cluster that is not blank begins with a character that is not. -/
def WholeIndent (l : Text) : Prop :=
  ∀ g ∈ (dropBlanks (clusters l)).head?, ∀ c ∈ g.head?, Unicode.isWhitespace c = false

instance (l : Text) : Decidable (WholeIndent l) :=
  decidable_of_iff ((dropBlanks (clusters l)).head?.all fun g =>
    g.head?.all fun c => !Unicode.isWhitespace c) (by simp [WholeIndent, Option.all_eq_true])

lemma isBoundary_indent_iff (l : Text) :
    IsBoundary l (byteLength (l.takeWhile Unicode.isWhitespace)) ↔ WholeIndent l := by
  obtain ⟨u, hu, hblank⟩ := exists_blanks (clusters l)
  have hws := whitespace_of_blank hblank
  have hl : l = u.flatten ++ (dropBlanks (clusters l)).flatten := by
    rw [← List.flatten_append, ← hu, Unicode.clusters_flatten]
  have hind : byteLength (l.takeWhile Unicode.isWhitespace) = byteLength u.flatten +
      byteLength ((dropBlanks (clusters l)).flatten.takeWhile Unicode.isWhitespace) := by
    conv_lhs => rw [hl]
    rw [List.takeWhile_append_of_pos hws, byteLength_append]
  rw [hind, WholeIndent]
  cases hd : dropBlanks (clusters l) with
  | nil =>
    rw [hd] at hu
    exact iff_of_true ⟨u, [], hu, by simp⟩ nofun
  | cons g rest =>
    rw [hd] at hu
    obtain ⟨w, c, v, rfl, hw, hc⟩ := exists_visible (dropBlanks_head hd)
    have htake : ((w ++ c :: v) :: rest).flatten.takeWhile Unicode.isWhitespace = w := by
      rw [List.flatten_cons, List.append_assoc, List.takeWhile_append_of_pos hw, List.cons_append,
        List.takeWhile_cons_of_neg (by simp [hc]), List.append_nil]
    rw [htake]
    cases w with
    | nil => exact iff_of_true ⟨u, _, hu, rfl⟩ (by simpa using hc)
    | cons x w =>
      -- the first character of the cluster is blank, so that the indent ends within the cluster
      have hx := x.utf8Size_pos
      have hpos : 0 < byteLength (x :: w) := Nat.lt_add_right _ hx
      have hlt : byteLength (x :: w) < byteLength (x :: w ++ c :: v) := by
        have hc := c.utf8Size_pos
        rw [byteLength_append, byteLength_cons c]
        omega
      refine iff_of_false (not_isBoundary_within hu hpos hlt) fun hwhole => ?_
      have hblank := hwhole _ rfl x rfl
      rw [hw x List.mem_cons_self] at hblank
      cases hblank

end Text

variable {t : Text} {p q : Position}

lemma normalize_clusterStart_iff (hq : q.line < t.lineCount)
    (hle : q.byte ≤ byteLength (t.lineAt q.line)) :
    Stands IsClusterStart t (normalize t q) ↔ Stands IsBoundary t q := by
  have hline : min q.line (t.lineCount - 1) = q.line := by omega
  simp only [Stands, normalize, hline]
  refine and_congr_right fun _ => ?_
  split
  · rename_i hl
    have hl := List.isEmpty_iff.mp hl
    have hz : q.byte = 0 := by simpa [hl] using hle
    rw [hl, hz]
    exact iff_of_true (.inr ⟨rfl, rfl⟩) (isBoundary_zero _)
  · rename_i hl
    have hl : t.lineAt q.line ≠ [] := by simpa using hl
    split
    · rename_i hge
      rw [Nat.le_antisymm hle hge]
      exact iff_of_true (.inl (prevBoundary_length_mem hl)) (isBoundary_length _)
    · rename_i hlt
      refine ⟨IsClusterStart.boundary, fun hb => ?_⟩
      exact .inl ((isBoundary_iff.mp hb).resolve_right fun h => hlt (Nat.le_of_eq h.symm))

namespace Word

lemma IsNext.holds {D S : Position → Prop} {R : Position → Position → Prop} {e p q : Position}
    (h : IsNext S R e p q) (hS : ∀ r, S r → D r) (he : D e) : D q := by
  rcases h with ⟨hq, -⟩ | ⟨-, rfl⟩
  · exact hS q hq
  · exact he

end Word

namespace Motion

def seeksNonBlank : Motion → Bool
  | firstNonBlank | gotoLine | firstLine => true
  | _ => false

variable {m : Motion}

lemma target_seeking (hm : m.seeksNonBlank = true) (hp : p.line < t.lineCount) (count : Nat)
    (explicit : Bool) :
    ∃ i < t.lineCount, m.target t p count explicit = ⟨i, firstNonBlankOf t i⟩ := by
  cases m with
  | firstNonBlank => exact ⟨_, hp, rfl⟩
  | gotoLine => exact ⟨_, lineTarget_lt (last_line_lt t) .., rfl⟩
  | firstLine => exact ⟨_, lineTarget_lt (lineCount_pos t) .., rfl⟩
  | _ => cases hm

lemma target_between (hm : m.seeksNonBlank = false) (hp : Stands IsBoundary t p) (count : Nat)
    (explicit : Bool) : Stands IsBoundary t (m.target t p count explicit) := by
  have hc := lineCount_pos t
  cases m with
  | left =>
    refine ⟨hp.1, iterate_keeps (P := IsBoundary (t.lineAt p.line))
      (fun b _ => prevBoundary_isBoundary ..) _ ?_⟩
    rw [Nat.min_eq_left hp.2.le]
    exact hp.2
  | right =>
    exact ⟨hp.1, iterate_keeps (P := IsBoundary (t.lineAt p.line))
      (fun b _ => nextBoundary_isBoundary ..) _ hp.2⟩
  | down => exact ⟨by simp only [target, sameColumn]; omega, byteAtColumn_isBoundary ..⟩
  | up => exact ⟨by have := hp.1; simp only [target, sameColumn]; omega, byteAtColumn_isBoundary ..⟩
  | lineStart => exact ⟨hp.1, isBoundary_zero _⟩
  | lineEnd => exact ⟨by simp only [target]; omega, isBoundary_length _⟩
  | wordForward =>
    exact iterate_keeps (P := Stands IsBoundary t) (fun _ hq => (forward_next hq).holds
      (fun _ => IsStart.stands) ⟨last_line_lt t, isBoundary_length _⟩) _ hp
  | wordBackward =>
    exact iterate_keeps (P := Stands IsBoundary t) (fun _ hq => (backward_next hq).holds
      (fun _ => IsStart.stands) ⟨hc, isBoundary_zero _⟩) _ hp
  | wordEnd =>
    exact iterate_keeps (P := Stands IsBoundary t) (fun _ hq => (toEnd_next hq).holds
      (fun _ => IsEnd.stands) ⟨last_line_lt t, isBoundary_dropLast _⟩) _ hp
  | firstNonBlank | gotoLine | firstLine => cases hm

/-- From a boundary of clusters a motion leads to one on a line of the text, so that the cursor comes
to rest on the start of a cluster. A motion that looks for a character does not if the first cluster
that is not blank has a blank in front of that character. -/
theorem target_on_clusters (m : Motion) (hp : Stands IsBoundary t p) (count : Nat)
    (explicit : Bool) :
    let q := m.target t p count explicit
    q.line < t.lineCount ∧ (normalize t q).line = q.line ∧
      (Stands IsBoundary t q ↔ (m.seeksNonBlank = true → WholeIndent (t.lineAt q.line))) ∧
      (Stands IsClusterStart t (normalize t q) ↔
        (m.seeksNonBlank = true → WholeIndent (t.lineAt q.line))) := by
  intro q
  suffices h : (q.line < t.lineCount ∧ q.byte ≤ byteLength (t.lineAt q.line)) ∧
      (Stands IsBoundary t q ↔ (m.seeksNonBlank = true → WholeIndent (t.lineAt q.line))) by
    obtain ⟨⟨hline, hbyte⟩, hq⟩ := h
    exact ⟨hline, Nat.min_eq_left (Nat.le_sub_one_of_lt hline), hq,
      (normalize_clusterStart_iff hline hbyte).trans hq⟩
  cases hm : m.seeksNonBlank with
  | false =>
    have hq : Stands IsBoundary t q := target_between hm hp count explicit
    exact ⟨⟨hq.1, hq.2.le⟩, iff_of_true hq nofun⟩
  | true =>
    obtain ⟨i, hi, hq⟩ := target_seeking hm hp.1 count explicit
    rw [show q = ⟨i, firstNonBlankOf t i⟩ from hq]
    refine ⟨⟨hi, (firstNonBlank_rests t i).le⟩, ?_⟩
    rw [Stands, and_iff_right hi, firstNonBlankOf, isBoundary_indent_iff]
    exact ⟨fun h _ => h, fun h => h rfl⟩

theorem sample_target_on_clusters :
    let t : Text := [' ', '\u0301', 'x']
    Stands IsBoundary t ⟨0, 3⟩ ∧
      (firstNonBlank.target t ⟨0, 3⟩ 1 false = ⟨0, 1⟩ ∧ ¬Stands IsBoundary t ⟨0, 1⟩ ∧
        ¬Stands IsClusterStart t (normalize t ⟨0, 1⟩)) ∧
      left.target t ⟨0, 3⟩ 1 false = ⟨0, 0⟩ ∧ Stands IsBoundary t ⟨0, 0⟩ ∧
        Stands IsClusterStart t (normalize t ⟨0, 0⟩) := by
  intro t
  have hl : clusters (t.lineAt 0) = [[' ', '\u0301'], ['x']] := by decide +kernel
  have hp : Stands IsBoundary t ⟨0, 3⟩ := ⟨by decide, [[' ', '\u0301']], [['x']], hl, rfl⟩
  have hcut : ¬WholeIndent (t.lineAt 0) := by decide +kernel
  have hseek : firstNonBlank.target t ⟨0, 3⟩ 1 false = ⟨0, 1⟩ := by decide +kernel
  have hstep : left.target t ⟨0, 3⟩ 1 false = ⟨0, 0⟩ := by decide +kernel
  obtain ⟨-, -, hb, hr⟩ := target_on_clusters firstNonBlank hp 1 false
  obtain ⟨-, -, hb', hr'⟩ := target_on_clusters left hp 1 false
  rw [hseek] at hb hr
  rw [hstep] at hb' hr'
  exact ⟨hp, ⟨hseek, fun h => hcut (hb.mp h rfl), fun h => hcut (hr.mp h rfl)⟩, hstep,
    hb'.mpr nofun, hr'.mpr nofun⟩

end Motion

end ModalEdit
