import ModalEdit.Line.Search
import ModalEdit.Proofs.KeptPositions

/-! The edits that can leave the cursor within a character or off the text, and what has to hold for
them not to. -/

namespace ModalEdit

open Text

namespace Surface

variable {s : Surface} {f : Text → Text} {i count : Nat} {x : Text}

def aheadText (s : Surface) (count : Nat) : Text :=
  s.currentLine.sliceBytes s.cursor.byte (s.clustersAhead count)

def clearLine (s : Surface) (i : Nat) : Surface := s.erase ⟨i, 0⟩ ⟨i, (s.lineAt i).byteLength⟩

def rewriteLine (s : Surface) (i : Nat) (x : Text) : Surface := ((s.clearLine i).insert ⟨i, 0⟩ x).1

def RewritesLine (s : Surface) (i : Nat) (x : Text) : Prop :=
  (s.clearLine i).text.lines = s.text.lines.set i [] ∧
    (s.rewriteLine i x).text.lines = s.text.lines.set i x

instance (s : Surface) (i : Nat) (x : Text) : Decidable (s.RewritesLine i x) :=
  inferInstanceAs (Decidable (_ ∧ _))

/-- The lines are rewritten one after the other, and each time the others stay as they are. -/
def RewritesInPlace (f : Text → Text) : List Nat → Surface → Prop
  | [], _ => True
  | i :: is, s =>
    (f (s.lineAt i) ≠ s.lineAt i → s.RewritesLine i (f (s.lineAt i))) ∧
      RewritesInPlace f is (mapLine f (s, 0) i).1

instance RewritesInPlace.decidable (f : Text → Text) :
    (is : List Nat) → (s : Surface) → Decidable (RewritesInPlace f is s)
  | [], _ => inferInstanceAs (Decidable True)
  | i :: is, s =>
    have := decidable f is (mapLine f (s, 0) i).1
    inferInstanceAs (Decidable ((_ → _) ∧ _))

lemma mapLine_eq (f : Text → Text) (s : Surface) (n i : Nat) :
    mapLine f (s, n) i =
      if f (s.lineAt i) = s.lineAt i then (s, n) else (s.rewriteLine i (f (s.lineAt i)), n + 1) :=
  rfl

lemma mapLine_surface (f : Text → Text) (s : Surface) (n i : Nat) :
    (mapLine f (s, n) i).1 = (mapLine f (s, 0) i).1 := by
  rw [mapLine_eq, mapLine_eq]
  split <;> rfl

lemma stands_set {P : Text → Nat → Prop} {t t' : Text} {p : Position}
    (ht : t'.lines = t.lines.set i x) (hp : Stands P t p) :
    p.line < t'.lineCount ∧ (p.line ≠ i → P (t'.lineAt p.line) p.byte) := by
  refine ⟨?_, fun hne => ?_⟩
  · rw [lineCount_eq_length, ht, List.length_set, ← lineCount_eq_length]
    exact hp.1
  · have hl : t'.lineAt p.line = t.lineAt p.line := by
      simp only [Text.lineAt, line?, ht, List.getElem?_set_ne (Ne.symm hne)]
    rw [hl]
    exact hp.2

lemma clearLine_cursor (s : Surface) (i : Nat) :
    (s.clearLine i).cursor = clamp (s.clearLine i).text s.cursor := rfl

lemma rewriteLine_cursor (s : Surface) (i : Nat) (x : Text) :
    (s.rewriteLine i x).cursor = (s.clearLine i).cursor := rfl

section stands

variable {P : Text → Nat → Prop} (hP : IsSpot P)
include hP

lemma RewritesLine.stands (h : s.RewritesLine i x) (hs : Stands P s.text s.cursor) :
    Stands P (s.rewriteLine i x).text (s.rewriteLine i x).cursor := by
  obtain ⟨hl, hle⟩ := stands_set h.1 hs
  obtain ⟨hl', hle'⟩ := stands_set h.2 hs
  rw [rewriteLine_cursor, clearLine_cursor]
  by_cases hi : s.cursor.line = i
  · -- the cursor was on the line, and went to its start
    have hz : (s.clearLine i).text.lineLength s.cursor.line = 0 := by
      have hlt : i < s.text.lines.length := by
        rw [← lineCount_eq_length, ← hi]
        exact hs.1
      simp [Text.lineLength, Text.lineAt, line?, h.1, hi, hlt]
    have hc : clamp (s.clearLine i).text s.cursor = ⟨s.cursor.line, 0⟩ := by
      rw [clamp, Nat.min_eq_left (Nat.le_sub_one_of_lt hl), hz, Nat.min_zero]
    rw [hc]
    exact ⟨hl', hP.zero _⟩
  · rw [clamp_of_stands hP ⟨hl, hle hi⟩]
    exact ⟨hl', hle' hi⟩

lemma RewritesInPlace.stands {is : List Nat} {n : Nat} (h : RewritesInPlace f is s)
    (hs : Stands P s.text s.cursor) :
    Stands P (is.foldl (mapLine f) (s, n)).1.text (is.foldl (mapLine f) (s, n)).1.cursor := by
  induction is generalizing s n with
  | nil => exact hs
  | cons i is ih =>
    obtain ⟨hi, his⟩ := h
    have hs' : Stands P (mapLine f (s, 0) i).1.text (mapLine f (s, 0) i).1.cursor := by
      rw [mapLine_eq]
      split
      · exact hs
      · exact (hi ‹_›).stands hP hs
    have hp : mapLine f (s, n) i = ((mapLine f (s, 0) i).1, (mapLine f (s, n) i).2) :=
      Prod.ext (mapLine_surface f s n i) rfl
    rw [List.foldl_cons, hp]
    exact ih his hs'

end stands

lemma toggle_segments (hs : s.Sound) {stop : Position}
    (hstop : stop = ⟨s.cursor.line, s.clustersAhead count⟩) (hlt : s.cursor.byte < stop.byte) :
    s.changeCase (.chars s.cursor stop) .toggle =
      s.changeSegment .toggle ⟨s.cursor.line, s.cursor.byte, stop.byte⟩ := by
  obtain ⟨hle, hle'⟩ := clustersAhead_spec hs count
  have hb : s.cursor.byte ≤ s.text.lineLength s.cursor.line := hs.2.le
  have hb' : stop.byte ≤ s.text.lineLength s.cursor.line := by
    rw [hstop]
    exact hle'
  subst hstop
  simp [changeCase, Span.segments, lineRange, Nat.min_eq_left hb, Nat.min_eq_left hb', hle]

lemma retype_lands {p stop : Position} {m : Text} (hp : Valid s.text p)
    (hlt : p.byte < s.lineLength p.line) (hle : p ≤ stop) (hl : stop.line < s.lineCount)
    (hm : WithinLine m) :
    Lands ((s.erase p stop).insert p m).1.text ⟨p.line, p.byte + byteLength m⟩ := by
  have hstart : s.text.offsetOf p ≤ s.stopOffset stop :=
    Nat.le_trans (offsetOf_mono hl hle) (Nat.le_add_right ..)
  obtain ⟨w, hw⟩ := erase_text s p stop
  obtain ⟨a, b, ht, ha, he⟩ := hp.ends
  rw [Nat.min_eq_left hstart, ← ha, ht, takeBytes_left] at hw
  rw [lineLength, ht] at hlt
  obtain ⟨u, v, rfl, h₁, h₂⟩ := he.typed hlt hm w
  have ho : offsetOf (s.erase p stop).text p = byteLength (a ++ u) := by
    rw [hw, ← List.append_assoc]
    exact h₁.offset
  have hx := insert_text (s.erase p stop) p m
  rw [ho, hw, ← List.append_assoc a, takeBytes_left, dropBytes_left, ← List.append_assoc] at hx
  rw [hx]
  exact h₂.valid.2

lemma toggle_lands (hs : s.Sound) {stop : Position}
    (hstop : stop = ⟨s.cursor.line, s.clustersAhead count⟩) (hlt : s.cursor.byte < stop.byte)
    (heven : byteLength (Case.toggle.map (s.aheadText count)) = byteLength (s.aheadText count)) :
    Lands (s.changeCase (.chars s.cursor stop) .toggle).text stop := by
  have hb := clustersAhead_boundary hs count
  have hpiece : (⟨s.cursor.line, s.cursor.byte, stop.byte⟩ : Span.Segment).text s.text =
      s.aheadText count := by
    rw [hstop]
    rfl
  rw [toggle_segments hs hstop hlt]
  simp only [changeSegment, hpiece]
  subst hstop
  split
  · exact hb
  · have hm : WithinLine (Case.toggle.map (s.aheadText count)) :=
      toggle_withinLine (((WithinLine.of_lineAt _ _).dropBytes _).takeBytes _)
    have hlen : byteLength (s.aheadText count) = s.clustersAhead count - s.cursor.byte :=
      byteLength_sliceBytes hs.2 hb (Nat.le_of_lt hlt)
    have hle : s.cursor ≤ ⟨s.cursor.line, s.clustersAhead count⟩ := .inr ⟨rfl, Nat.le_of_lt hlt⟩
    have hv := retype_lands hs (Nat.lt_of_lt_of_le hlt hb.le) hle hs.1 hm
    rwa [heven, hlen, Nat.add_sub_cancel' (Nat.le_of_lt hlt)] at hv

end Surface

end ModalEdit
