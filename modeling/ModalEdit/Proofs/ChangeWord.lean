import ModalEdit.Command.Apply
import ModalEdit.Proofs.Bytes
import ModalEdit.Proofs.WordMotions

/-! The region of a change of words. It goes up to the ends of words behind the cursor, and so a
word whose last cluster is under the cursor is not counted. -/

namespace ModalEdit

open Text
open Unicode (clusters clustersAfter)

namespace Unicode

lemma clusters_clustersAfter (s : ClusterState) (t : Text) :
    clusters (clustersAfter s t).2.flatten = (clustersAfter s t).2 := by
  induction t generalizing s with
  | nil => rfl
  | cons c t ih =>
    rw [clustersAfter]
    split
    · exact ih (s.next c)
    · exact congrArg clusters (clusters_flatten (c :: t))

lemma clusters_suffix {l : Text} {a c : List Text} (h : clusters l = a ++ c) :
    clusters c.flatten = c := by
  induction a generalizing l with
  | nil =>
    rw [List.nil_append] at h
    rw [← h, clusters_flatten]
  | cons g a ih =>
    cases l with
    | nil => cases h
    | cons k l =>
      have hc := clusters_clustersAfter (.start k) l
      obtain ⟨-, hac⟩ := List.cons.inj h
      exact ih ((congrArg (fun x => clusters (List.flatten x)) hac).symm.trans (hc.trans hac))

end Unicode

namespace Grapheme

variable {l : Text} {m n : Nat}

lemma lt_nextBoundary (hb : IsBoundary l n) (hn : n < byteLength l) : n < nextBoundary l n := by
  obtain ⟨a, c, hl, rfl⟩ := hb
  have hc : c.take 1 ≠ [] := by
    intro hz
    rw [(List.take_eq_nil_iff.mp hz).resolve_left Nat.one_ne_zero, List.append_nil] at hl
    exact Nat.ne_of_lt hn (byteLength_of_clusters hl)
  rw [nextBoundary_of_clusters hl]
  refine Word.byteLength_lt_append (l := l) (c := c.drop 1) ?_ hc
  rw [hl, List.append_assoc, List.take_append_drop]

lemma nextBoundary_lt (hm : IsBoundary l m) (hn : IsBoundary l n) (hl : n < byteLength l)
    (hmn : m < n) : nextBoundary l m < nextBoundary l n := by
  obtain ⟨a, c, hac, rfl⟩ := hm
  have hle := Word.next_le hn hac hmn
  rw [← nextBoundary_of_clusters hac] at hle
  exact Nat.lt_of_le_of_lt hle (lt_nextBoundary hn hl)

lemma nextBoundary_inj (hm : IsBoundary l m) (hn : IsBoundary l n) (hml : m < byteLength l)
    (hnl : n < byteLength l) (h : nextBoundary l m = nextBoundary l n) : m = n := by
  rcases Nat.lt_trichotomy m n with hlt | he | hlt
  · exact absurd h (Nat.ne_of_lt (nextBoundary_lt hm hn hnl hlt))
  · exact he
  · exact absurd h (Nat.ne_of_gt (nextBoundary_lt hn hm hml hlt))

end Grapheme

namespace Word

open Grapheme

variable {t : Text} {p q e : Position} {n : Nat}

def past (t : Text) (p : Position) : Position :=
  ⟨p.line, nextBoundary (t.lineAt p.line) p.byte⟩

/-- The last cluster of the `n`-th word of the line from `p` on, the word at `p` being the first. -/
def EndsNth (t : Text) (p : Position) (n : Nat) (q : Position) : Prop :=
  IsEnd t q ∧ q.line = p.line ∧ p ≤ q ∧ {r | IsEnd t r ∧ p ≤ r ∧ r ≤ q}.encard = n

lemma lastPlace_lt (hl : t.lineAt (t.lineCount - 1) ≠ []) :
    (lastPlace t).byte < byteLength (t.lineAt (t.lineCount - 1)) := by
  have hlast := List.dropLast_concat_getLast (clusters_ne_nil hl)
  rw [← byteLength_of_clusters rfl, ← hlast]
  exact byteLength_lt_append (c := []) (by rw [hlast, List.append_nil]) (by simp)

lemma past_inj (hq : IsEnd t q) (he : IsEnd t e ∨ e = lastPlace t) (h : past t e = past t q) :
    e = q := by
  obtain ⟨i, b⟩ := e
  obtain ⟨j, c⟩ := q
  simp only [past, Position.mk.injEq] at h
  obtain ⟨rfl, h⟩ := h
  have hc := hq.2.onWord
  have hb : IsBoundary (t.lineAt i) b ∧ b < byteLength (t.lineAt i) := by
    rcases he with he | he
    · exact ⟨he.2.onWord.boundary, he.2.onWord.lt⟩
    · obtain ⟨rfl, rfl⟩ := Position.mk.inj he
      refine ⟨isBoundary_dropLast _, lastPlace_lt ?_⟩
      intro hl
      have := hc.lt
      rw [hl, byteLength_nil] at this
      exact Nat.not_lt_zero _ this
  rw [nextBoundary_inj hb.1 hc.boundary hb.2 hc.lt h]

lemma ends_upto (hpq : p ≤ q) (r : Position) :
    IsEnd t r ∧ p ≤ r ∧ r ≤ q ↔ r = p ∧ IsEnd t p ∨ IsEnd t r ∧ p < r ∧ ¬q < r := by
  have hle : p ≤ r ↔ r = p ∨ p < r := by
    cases p
    cases r
    simp only [Position.le_def, Position.lt_def, Position.mk.injEq]
    omega
  have hge : r ≤ q ↔ ¬q < r := by
    simp only [Position.le_def, Position.lt_def]
    omega
  rw [hle, ← hge]
  constructor
  · rintro ⟨hr, rfl | hlt, hrq⟩
    · exact .inl ⟨rfl, hr⟩
    · exact .inr ⟨hr, hlt, hrq⟩
  · rintro (⟨rfl, hr⟩ | ⟨hr, hlt, hrq⟩)
    · exact ⟨hr, .inl rfl, hpq⟩
    · exact ⟨hr, .inr hlt, hrq⟩

lemma EndsNth.pos (h : EndsNth t p n q) : 0 < n := by
  obtain ⟨hq, -, hpq, hn⟩ := h
  refine Nat.pos_of_ne_zero ?_
  rintro rfl
  have hempty := Set.encard_eq_zero.mp hn
  have hmem : q ∈ {r | IsEnd t r ∧ p ≤ r ∧ r ≤ q} := ⟨hq, hpq, .inr ⟨rfl, Nat.le_refl _⟩⟩
  rw [hempty] at hmem
  exact hmem

lemma endsNth_one (hq : IsEnd t q) (hl : q.line = p.line) (hpq : p ≤ q)
    (h : ∀ r, IsEnd t r → p ≤ r → r ≤ q → r = q) : EndsNth t p 1 q := by
  refine ⟨hq, hl, hpq, Set.encard_eq_one.mpr ⟨q, Set.ext fun r => ⟨fun hr => ?_, ?_⟩⟩⟩
  · exact h r hr.1 hr.2.1 hr.2.2
  · rintro rfl
    exact ⟨hq, hpq, .inr ⟨rfl, Nat.le_refl _⟩⟩

lemma EndsNth.eq_iff (h : EndsNth t p n q)
    (he : IsNth (IsEnd t) (· < ·) (lastPlace t) p n e) :
    e = q ↔ ¬IsEnd t p ∨ q = lastPlace t := by
  obtain ⟨hq, -, hpq, hn⟩ := h
  by_cases hp : IsEnd t p
  · -- `p` is counted here, but not by the motion
    have hset : {r | IsEnd t r ∧ p ≤ r ∧ r ≤ q} =
        insert p {r | IsEnd t r ∧ p < r ∧ ¬q < r} :=
      Set.ext fun r => (ends_upto hpq r).trans (or_congr_left (and_iff_left hp))
    rw [hset, Set.encard_insert_of_notMem fun hm => irrefl (r := (· < ·)) p hm.2.1] at hn
    have hlt : {r | IsEnd t r ∧ p < r ∧ ¬q < r}.encard < n := by
      generalize {r | IsEnd t r ∧ p < r ∧ ¬q < r}.encard = m at hn
      cases m with
      | top => cases hn
      | coe m =>
        norm_cast at hn ⊢
        omega
    constructor
    · rintro rfl
      rcases he with ⟨-, -, hcount⟩ | ⟨-, hlast⟩
      · exact absurd hcount hlt.ne
      · exact .inr hlast
    · rintro (hn' | rfl)
      · exact absurd hp hn'
      · rcases he with ⟨-, -, hcount⟩ | ⟨-, hlast⟩
        · rw [← hcount] at hlt
          refine absurd hlt (not_lt_of_ge (Set.encard_mono fun r hr => ⟨hr.1, hr.2.1, ?_⟩))
          exact not_last_lt (fun _ hm => hm.onWord.le_dropLast) r hr.1
        · exact hlast
  · have hset : {r | IsEnd t r ∧ p ≤ r ∧ r ≤ q} = {r | IsEnd t r ∧ p < r ∧ ¬q < r} :=
      Set.ext fun r => (ends_upto hpq r).trans (or_iff_right fun hr => hp hr.2)
    obtain ⟨-, hpq', -⟩ := ((ends_upto hpq q).mp ⟨hq, hpq, .inr ⟨rfl, Nat.le_refl _⟩⟩).resolve_left
      fun hr => hp hr.2
    rw [hset] at hn
    exact iff_of_true (he.eq hq hpq' hn) (.inl hp)

end Word

namespace Operator

open Word

variable {s : Surface} {n : Nat}

lemma adjust_change (hc : OnWord s.currentLine s.cursor.byte) :
    change.adjust s .wordForward = .wordEnd := by
  obtain ⟨a, g, b, hl, hn, hg⟩ := hc
  have hrest : s.currentLine.dropBytes s.cursor.byte = (g :: b).flatten := by
    rw [← Unicode.clusters_flatten s.currentLine, hl, List.flatten_append, ← hn,
      dropBytes_append (Nat.le_refl _), Nat.sub_self, dropBytes_zero]
  have hblank : Grapheme.isBlank g = false := by
    rw [← Bool.not_eq_true]
    intro hb
    exact hg (if_pos hb)
  rw [adjust, hrest, Unicode.clusters_suffix hl]
  simp [hblank]

lemma onWord_stands (hc : OnWord s.currentLine s.cursor.byte) :
    Stands OnWord s.text s.cursor := by
  refine ⟨?_, hc⟩
  by_contra hi
  have hlt := hc.lt
  rw [Surface.currentLine, Surface.lineAt, lineAt_of_le (Nat.le_of_not_lt hi)] at hlt
  exact Nat.not_lt_zero _ hlt

lemma region_change (hc : OnWord s.currentLine s.cursor.byte) {e : Position} {explicit : Bool}
    (he : Motion.wordEnd.target s.text s.cursor n explicit = e) (hle : ¬e < s.cursor) :
    change.region s .wordForward n explicit = .chars s.cursor (past s.text e) := by
  rw [region, adjust_change hc, he, if_neg hle]
  rfl

/-- A change of words goes from the cursor to the end of the `n`-th word that ends behind it. So it
covers `n` words from the cursor on unless a word ends under the cursor: then it goes on to the next
one, or to the last cluster of the text where there is none. -/
theorem change_words_region (s : Surface) (n : Nat) (explicit : Bool)
    (hc : OnWord s.currentLine s.cursor.byte) :
    (∃ e, IsNth (IsEnd s.text) (· < ·) (lastPlace s.text) s.cursor (max 1 n) e ∧
      change.region s .wordForward n explicit = .chars s.cursor (past s.text e)) ∧
    ∀ q, EndsNth s.text s.cursor n q →
      (change.region s .wordForward n explicit = .chars s.cursor (past s.text q) ↔
        ¬IsEnd s.text s.cursor ∨ q = lastPlace s.text) := by
  have hs := onWord_stands hc
  have he := wordEnd_isNth ⟨hs.1, OnWord.boundary hs.2⟩ n explicit
  generalize hte : Motion.wordEnd.target s.text s.cursor n explicit = e at he
  have hle : ¬e < s.cursor := by
    rcases he with ⟨-, hlt, -⟩ | ⟨-, rfl⟩
    · exact fun hgt => irrefl (r := (· < ·)) _ (trans_of (· < ·) hlt hgt)
    · exact not_last_lt (fun _ hm => OnWord.le_dropLast hm) _ hs
  have hr := region_change hc hte hle
  refine ⟨⟨e, he, hr⟩, fun q hq => ?_⟩
  rw [Nat.max_eq_right hq.pos] at he
  have hplace : IsEnd s.text e ∨ e = lastPlace s.text := he.imp And.left And.right
  rw [hr, ← hq.eq_iff he, Span.chars.injEq, and_iff_right rfl]
  exact ⟨past_inj hq.1 hplace, congrArg (past s.text)⟩

theorem sample_change_words_region :
    let two : Surface := { name := [], text := "ab c".toList }
    let one : Surface := { name := [], text := "a b".toList }
    (EndsNth two.text .origin 1 ⟨0, 1⟩ ∧
      change.region two .wordForward 1 false = .chars .origin (past two.text ⟨0, 1⟩)) ∧
    (EndsNth one.text .origin 1 .origin ∧
      change.region one .wordForward 1 false ≠ .chars .origin (past one.text .origin) ∧
      change.region one .wordForward 1 false = .chars .origin ⟨0, 3⟩) := by
  intro two one
  have hword : EndsNth two.text .origin 1 ⟨0, 1⟩ := by
    refine endsNth_one (by decide +kernel) rfl (by decide) ?_
    rintro ⟨i, b⟩ hr - hle
    rw [Position.le_def] at hle
    obtain ⟨rfl, rfl | rfl⟩ : i = 0 ∧ (b = 0 ∨ b = 1) := by
      dsimp only at hle
      omega
    · exact absurd hr (by decide +kernel)
    · rfl
  have hletter : EndsNth one.text .origin 1 .origin := by
    refine endsNth_one (by decide +kernel) rfl (by decide) ?_
    rintro ⟨i, b⟩ - - hle
    rw [Position.le_def] at hle
    obtain ⟨rfl, rfl⟩ : i = 0 ∧ b = 0 := by
      dsimp only [Position.origin] at hle
      omega
    rfl
  refine ⟨⟨hword, ((change_words_region two 1 false (by decide +kernel)).2 _ hword).mpr ?_⟩,
    hletter, mt ((change_words_region one 1 false (by decide +kernel)).2 _ hletter).mp ?_, ?_⟩
  · exact .inl (by decide +kernel)
  · decide +kernel
  · decide +kernel

end Operator

end ModalEdit
