import ModalEdit.Engine.Visual
import ModalEdit.Proofs.Casing
import ModalEdit.Proofs.MotionTargets

namespace ModalEdit

open Text

namespace Surface

def Sound (s : Surface) : Prop := Valid s.text s.cursor

instance (s : Surface) : Decidable s.Sound := inferInstanceAs (Decidable (Valid ..))

variable {s : Surface} {p q : Position} {i : Nat}

lemma setCursor_sound (h : Lands s.text p) : (s.setCursor p).Sound := clamp_valid h

lemma insert_text (s : Surface) (q : Position) (t : Text) :
    (s.insert q t).1.text = takeBytes (offsetOf s.text q) s.text ++
      (t ++ dropBytes (offsetOf s.text q) s.text) :=
  List.append_assoc ..

lemma erase_text (s : Surface) (start stop : Position) :
    ∃ u, (s.erase start stop).text =
      takeBytes (min (s.text.offsetOf start) (s.stopOffset stop)) s.text ++ u := by
  simp only [erase, delete, remove]
  split
  · exact ⟨_, rfl⟩
  · exact ⟨_, (takeBytes_append_dropBytes ..).symm⟩

lemma stopOffset_of_ends {a b : Text} {i k : Nat} (h : Ends a b i k) (ht : s.text = a ++ b) :
    s.stopOffset ⟨i, k⟩ = byteLength a := by
  have hle : k ≤ Text.lineLength (a ++ b) i := h.valid.2.le
  rw [stopOffset, lineLength, ht, if_neg fun hlt => Nat.not_lt_of_le hle hlt.2, h.offset,
    Nat.add_zero]

lemma stopOffset_of_valid (hp : Valid s.text p) : s.stopOffset p = offsetOf s.text p := by
  have hle : p.byte ≤ s.lineLength p.line := hp.2.le
  rw [stopOffset, if_neg fun hlt => Nat.not_lt_of_le hle hlt.2, Nat.add_zero]

lemma delete_between {a m b : Text} {start stop : Position} (ht : s.text = a ++ (m ++ b))
    (hstart : offsetOf s.text start = byteLength a)
    (hstop : s.stopOffset stop = byteLength (a ++ m)) :
    (s.delete start stop).1.text = a ++ b ∧ (s.delete start stop).2 = m := by
  have hle : byteLength a ≤ byteLength (a ++ m) := by
    rw [byteLength_append]
    exact Nat.le_add_right ..
  simp only [delete, hstart, hstop, Nat.min_eq_left hle, Nat.max_eq_right hle, remove]
  split
  · rw [ht, takeBytes_left, ← List.append_assoc, dropBytes_left, takeBytes_left, dropBytes_left]
    exact ⟨rfl, rfl⟩
  · rename_i hlt
    rw [byteLength_append] at hlt
    obtain rfl : m = [] := byteLength_eq_zero.mp (by omega)
    exact ⟨ht, rfl⟩

lemma erase_rest {a m : Text} {start stop : Position} (ht : s.text = a ++ m)
    (hstart : offsetOf s.text start = byteLength a)
    (hstop : byteLength (a ++ m) ≤ s.stopOffset stop) : (s.erase start stop).text = a := by
  have hle : byteLength a ≤ s.stopOffset stop := by
    rw [byteLength_append] at hstop
    omega
  have hrest : dropBytes (s.stopOffset stop) (a ++ m) = [] := by
    rw [← List.append_nil (a ++ m), dropBytes_append hstop]
    rfl
  simp only [erase, delete, hstart, Nat.min_eq_left hle, Nat.max_eq_right hle, remove]
  split
  · rw [ht, takeBytes_left, hrest, List.append_nil]
  · rename_i hlt
    rw [byteLength_append] at hstop
    obtain rfl : m = [] := byteLength_eq_zero.mp (by omega)
    rw [ht, List.append_nil]

lemma insert_between {a b : Text} (ht : s.text = a ++ b) (hp : offsetOf s.text p = byteLength a)
    (t : Text) : (s.insert p t).1.text = a ++ (t ++ b) := by
  rw [insert_text, hp, ht, takeBytes_left, dropBytes_left]

lemma insert_ends {a b : Text} (ht : s.text = a ++ b) (hp : offsetOf s.text p = byteLength a)
    (t : Text) : Ends (a ++ t) b (s.insert p t).2.line (s.insert p t).2.byte := by
  have hstop : (s.insert p t).2 = positionOf (a ++ t ++ b) (byteLength (a ++ t)) := by
    rw [List.append_assoc, ← insert_between ht hp, byteLength_append, ← hp]
    rfl
  rw [hstop, positionOf, Nat.min_eq_left (by simp)]
  exact locate_ends _ _

lemma insert_keep (hp : Valid s.text p) (hq : offsetOf s.text p ≤ offsetOf s.text q) (t : Text) :
    Valid (s.insert q t).1.text p := by
  rw [insert_text]
  exact (hp.keep hq _).1

lemma erase_keep {start stop : Position} (hp : Valid s.text p)
    (ha : offsetOf s.text p ≤ offsetOf s.text start) (hb : offsetOf s.text p ≤ s.stopOffset stop) :
    Valid (s.erase start stop).text p := by
  obtain ⟨u, hu⟩ := erase_text s start stop
  rw [hu]
  exact (hp.keep (Nat.le_min.mpr ⟨ha, hb⟩) u).1

lemma erase_keep_start {stop : Position} (hp : Valid s.text p) (hle : p ≤ stop)
    (hl : stop.line < s.lineCount) : Valid (s.erase p stop).text p :=
  erase_keep hp (Nat.le_refl _) (Nat.le_trans (offsetOf_mono hl hle) (Nat.le_add_right ..))

lemma insert_stop_valid (hp : Valid s.text p) (t : Text) :
    Valid (s.insert p t).1.text (s.insert p t).2 := by
  obtain ⟨a, b, ht, ha, -⟩ := hp.ends
  rw [insert_between ht ha.symm, ← List.append_assoc]
  exact (insert_ends ht ha.symm t).valid

end Surface

namespace Span

variable {t : Text} {span : Span} {s : Surface}

def Begins (t : Text) : Span → Prop
  | .chars start stop => Valid t start ∧ start ≤ stop ∧ stop.line < t.lineCount
  | _ => True

lemma Begins.lands (h : span.Begins t) : Lands t (span.start t) := by
  cases span with
  | chars start stop => exact h.1.2
  | lines first last => exact firstNonBlank_lands ..
  | block first last left right => exact Grapheme.byteAtColumn_boundary ..

lemma Begins.erase (h : span.Begins s.text) :
    Lands (span.erase s).text (span.start (span.erase s).text) := by
  cases span with
  | chars start stop => exact (Surface.erase_keep_start h.1 h.2.1 h.2.2).2
  | lines first last => exact firstNonBlank_lands ..
  | block first last left right => exact Grapheme.byteAtColumn_boundary ..

end Span

section commands

variable {s : Surface} {span : Span}

lemma Operator.apply_sound (op : Operator) (hs : s.Sound) (h : span.Begins s.text)
    (register : Option Char) : (op.apply s span register).Sound := by
  cases op with
  | yank =>
    simp only [apply]
    split
    · exact hs
    · exact Surface.setCursor_sound (s := s.store _ _) h.lands
  | delete =>
    exact Surface.setCursor_sound (s := (span.erase s).store _ _) (normalize_valid h.erase).2
  | change =>
    cases span with
    | lines first last =>
      exact Surface.setCursor_sound (s := (s.emptyLines first last).1) (isCharBoundary_zero _)
    | _ => exact Surface.setCursor_sound (s := Span.erase s _) h.erase
  | shift d => exact Surface.setCursor_sound (firstNonBlank_lands ..)

lemma Operator.lineRegion_begins (s : Surface) (count : Nat) :
    (lineRegion s count).Begins s.text := trivial

lemma within_begins (hs : s.Sound) {first last : Nat}
    (hf : IsCharBoundary s.currentLine first) (hle : first ≤ last) :
    (Span.chars ⟨s.cursor.line, first⟩ ⟨s.cursor.line, last⟩).Begins s.text :=
  ⟨⟨hs.1, hf⟩, .inr ⟨rfl, hle⟩, hs.1⟩

lemma regionEnd_line {t : Text} {m : Motion} {p q : Position} (hp : p.line < t.lineCount)
    (hq : q.line < t.lineCount) : (Operator.regionEnd t m p q).line < t.lineCount := by
  unfold Operator.regionEnd
  split_ifs <;> assumption

lemma le_regionEnd {t : Text} {m : Motion} {p q : Position} (hp : Valid t p) (hq : Valid t q)
    (hpq : p ≤ q) : p ≤ Operator.regionEnd t m p q := by
  rw [Position.le_def] at hpq ⊢
  unfold Operator.regionEnd
  split_ifs
  · have := Grapheme.le_nextBoundary hq.2.le
    dsimp only
    omega
  · exact .inr ⟨rfl, hp.2.le⟩
  · exact hpq

lemma Operator.region_begins (op : Operator) (hs : s.Sound) (m : Motion) (count : Nat)
    (explicit : Bool) : (op.region s m count explicit).Begins s.text := by
  unfold region
  dsimp only
  split
  · trivial
  · have ht := Motion.target_valid (op.adjust s m) hs count explicit
    generalize Motion.target _ s.text s.cursor count explicit = target at ht
    split
    · rename_i hlt
      have hle : target ≤ s.cursor := by
        rw [Position.lt_def] at hlt
        rw [Position.le_def]
        omega
      exact ⟨ht, le_regionEnd ht hs hle, regionEnd_line ht.1 hs.1⟩
    · rename_i hlt
      have hle : s.cursor ≤ target := by
        rw [Position.lt_def] at hlt
        rw [Position.le_def]
        omega
      exact ⟨hs, le_regionEnd hs ht hle, regionEnd_line hs.1 ht.1⟩

lemma clustersAhead_spec (hs : s.Sound) (n : Nat) :
    s.cursor.byte ≤ s.clustersAhead n ∧ s.clustersAhead n ≤ s.currentLine.byteLength := by
  refine Motion.iterate_keeps
    (P := fun b => s.cursor.byte ≤ b ∧ b ≤ s.currentLine.byteLength) (fun b hb => ?_) n
    ⟨Nat.le_refl _, hs.2.le⟩
  exact ⟨Nat.le_trans hb.1 (Grapheme.le_nextBoundary hb.2), (Grapheme.nextBoundary_boundary ..).le⟩

lemma clustersAhead_boundary (hs : s.Sound) (n : Nat) :
    IsCharBoundary s.currentLine (s.clustersAhead n) :=
  Motion.iterate_keeps (fun _ _ => Grapheme.nextBoundary_boundary ..) n hs.2

lemma clustersBehind_boundary (hs : s.Sound) (n : Nat) :
    IsCharBoundary s.currentLine (s.clustersBehind n) :=
  Motion.iterate_keeps (fun _ _ => Grapheme.prevBoundary_boundary ..) n hs.2

lemma Insertion.prepare_sound (i : Insertion) (hs : s.Sound) (count : Nat) :
    (i.prepare s count).Sound := by
  cases i with
  | append =>
    refine Surface.setCursor_sound ?_
    split
    · exact hs.2
    · exact Grapheme.nextBoundary_boundary ..
  | appendAtEnd => exact Surface.setCursor_sound (isCharBoundary_length _)
  | insertAtStart => exact Surface.setCursor_sound (firstNonBlank_lands ..)
  | openBelow => exact Surface.setCursor_sound (isCharBoundary_zero _)
  | openAbove => exact Surface.setCursor_sound (isCharBoundary_zero _)
  | substituteChars =>
    have hk : Valid (s.erase s.cursor ⟨s.cursor.line, s.clustersAhead count⟩).text s.cursor :=
      Surface.erase_keep_start hs (.inr ⟨rfl, (clustersAhead_spec hs count).1⟩) hs.1
    exact Surface.setCursor_sound (s := (s.erase _ _).store none _) hk.2
  | substituteLine =>
    exact Surface.setCursor_sound (s := (s.erase _ _).store none _) (isCharBoundary_zero _)
  | insert => exact Surface.setCursor_sound hs.2
  | overwrite => exact Surface.setCursor_sound hs.2

lemma Surface.paste_lands (s : Surface) (t : Text) (side : Surface.Side) (count : Nat) :
    Lands (s.paste s.cursor t side count).1.text (s.paste s.cursor t side count).2 := by
  unfold paste
  split
  · exact firstNonBlank_lands ..
  · exact Grapheme.prevBoundary_boundary ..

lemma Surface.clusterEnd_le {l : Text} {n b stop : Nat} (h : clusterEnd? l n b = some stop) :
    b ≤ stop := by
  induction n generalizing b with
  | zero => exact Nat.le_of_eq (Option.some.inj h)
  | succ n ih =>
    unfold clusterEnd? at h
    split at h
    · rename_i hlt
      exact Nat.le_trans (Grapheme.le_nextBoundary (Nat.le_of_lt hlt)) (ih h)
    · cases h

lemma Surface.replaceChars_keep {s' : Surface} {c : Char} {count : Nat} (hs : s.Sound)
    (h : s.replaceChars? s.cursor c count = some s') : Valid s'.text s.cursor := by
  unfold replaceChars? at h
  split at h
  · cases h
  · rename_i stop hstop
    obtain rfl := Option.some.inj h
    have hk : Valid (s.erase s.cursor ⟨s.cursor.line, stop⟩).text s.cursor :=
      erase_keep_start hs (.inr ⟨rfl, clusterEnd_le hstop⟩) hs.1
    exact insert_keep hk (Nat.le_refl _) _

end commands

namespace Surface

variable {s : Surface} {p : Position} {i : Nat}

lemma erase_lastLine_text (hi : i + 1 = s.lineCount) :
    (s.erase ⟨i, s.lineLength i⟩ ⟨i + 1, 0⟩).text =
      takeBytes (offsetOf s.text ⟨i, 0⟩) s.text := by
  have hc : s.text.lineCount = i + 1 := hi.symm
  have hz : Valid s.text ⟨i, 0⟩ := ⟨by dsimp only; omega, isCharBoundary_zero _⟩
  have hle := hz.offset_le
  have hstop : s.stopOffset ⟨i + 1, 0⟩ = offsetOf s.text ⟨i, 0⟩ := by
    simp [stopOffset, lineCount, offsetOf, clamp, hc]
  have hend : offsetOf s.text ⟨i, s.lineLength i⟩ = byteLength s.text := offsetOf_end hi
  simp only [erase, delete, hend, hstop, Nat.min_eq_right hle, Nat.max_eq_left hle, remove]
  split
  · simp [dropBytes_self]
  · rw [show offsetOf s.text ⟨i, 0⟩ = byteLength s.text by omega, takeBytes_self]

lemma erase_lastLine (hi : i + 1 = s.lineCount) :
    clamp (s.erase ⟨i, s.lineLength i⟩ ⟨i + 1, 0⟩).text ⟨i, s.lineLength i⟩ = ⟨i, 0⟩ ∧
      i < (s.erase ⟨i, s.lineLength i⟩ ⟨i + 1, 0⟩).lineCount := by
  have ht := erase_lastLine_text hi
  have hc : s.text.lineCount = i + 1 := hi.symm
  have hz : Valid s.text ⟨i, 0⟩ := ⟨by dsimp only; omega, isCharBoundary_zero _⟩
  obtain ⟨hk, ho⟩ := hz.keep (Nat.le_refl _) []
  rw [List.append_nil, ← ht] at hk ho
  have hlen : offsetOf (s.erase ⟨i, s.lineLength i⟩ ⟨i + 1, 0⟩).text ⟨i, 0⟩ =
      byteLength (s.erase ⟨i, s.lineLength i⟩ ⟨i + 1, 0⟩).text := by
    have h₁ := hk.offset_le
    have h₂ := byteLength_takeBytes_le (offsetOf s.text ⟨i, 0⟩) s.text
    rw [← ht] at h₂
    omega
  have hl := lineLength_of_offset hk.1 hlen
  refine ⟨?_, hk.1⟩
  rw [clamp, Nat.min_eq_left (Nat.le_sub_one_of_lt hk.1), hl, Nat.min_zero]

lemma joinNext_last_line (hn : s.lineCount ≤ i + 1) :
    s.joinNext i = (s.erase ⟨i, s.lineLength i⟩ ⟨i + 1, 0⟩, ⟨i, s.lineLength i⟩) := by
  have hnext : s.lineAt (i + 1) = [] := lineAt_of_le hn
  simp [joinNext, hnext]

lemma joinNext_valid (hi : i < s.lineCount) :
    i < (s.joinNext i).1.lineCount ∧
      Valid (s.joinNext i).1.text (clamp (s.joinNext i).1.text (s.joinNext i).2) := by
  have hj : Valid s.text ⟨i, s.lineLength i⟩ := ⟨hi, isCharBoundary_length _⟩
  by_cases hn : i + 1 < s.lineCount
  · have hk : Valid (s.erase ⟨i, s.lineLength i⟩ ⟨i + 1, byteLength
        ((s.lineAt (i + 1)).takeWhile Unicode.isWhitespace)⟩).text ⟨i, s.lineLength i⟩ :=
      erase_keep_start hj (.inl (Nat.lt_succ_self i)) hn
    suffices hv : Valid (s.joinNext i).1.text ⟨i, s.lineLength i⟩ from ⟨hv.1, clamp_valid hv.2⟩
    simp only [joinNext]
    split
    · exact insert_keep hk (Nat.le_refl _) _
    · exact hk
  · obtain ⟨hc, hl⟩ := erase_lastLine (s := s) (i := i) (by omega)
    rw [joinNext_last_line (Nat.le_of_not_lt hn), hc]
    exact ⟨hl, hl, isCharBoundary_zero _⟩

lemma joinTimes_valid (hi : i < s.lineCount) (n : Nat) (hp : Valid s.text (clamp s.text p)) :
    Valid (joinTimes i n s p).1.text (clamp (joinTimes i n s p).1.text (joinTimes i n s p).2) := by
  induction n generalizing s p with
  | zero => exact hp
  | succ n ih =>
    obtain ⟨hi', hp'⟩ := joinNext_valid hi
    exact ih hi' hp'

lemma join_valid (s : Surface) (first last : Nat) :
    Valid (s.join first last).1.text (clamp (s.join first last).1.text (s.join first last).2) := by
  have hp : Valid s.text (clamp s.text ⟨first, s.lineLength first⟩) :=
    clamp_valid (isCharBoundary_length _)
  by_cases hf : first < s.lineCount
  · exact joinTimes_valid hf _ hp
  · have hn : min last s.lastLine - first = 0 := by
      simp only [lastLine, lineCount] at hf ⊢
      omega
    rw [join, hn]
    exact hp

lemma changeSegment_off {case : Case} {g : Span.Segment} (hl : s.text.lineCount ≤ g.line) :
    s.changeSegment case g = s := by
  have ht : g.text s.text = [] := by
    rw [Span.Segment.text, lineAt_of_le hl]
    rfl
  have hm : case.map (g.text s.text) = g.text s.text := by rw [ht, Case.map_nil]
  exact if_pos hm

lemma changeSegment_keep {case : Case} {g : Span.Segment} (hp : Valid s.text p)
    (hg : p = ⟨g.line, g.start⟩ ∨ p.line < g.line ∧ g.start = 0) (hle : g.start ≤ g.stop) :
    Valid (s.changeSegment case g).text p := by
  by_cases hoff : s.text.lineCount ≤ g.line
  · rwa [changeSegment_off hoff]
  have hl : g.line < s.text.lineCount := Nat.lt_of_not_le hoff
  simp only [changeSegment]
  split
  · exact hp
  · have hq : Valid s.text ⟨g.line, g.start⟩ := by
      rcases hg with rfl | ⟨-, h0⟩
      · exact hp
      · exact ⟨hl, h0 ▸ isCharBoundary_zero _⟩
    have hpq : p ≤ ⟨g.line, g.start⟩ := by
      rcases hg with rfl | ⟨h, -⟩
      · exact .inr ⟨rfl, Nat.le_refl _⟩
      · exact .inl h
    have hstop : (⟨g.line, g.start⟩ : Position) ≤ ⟨g.line, g.stop⟩ := .inr ⟨rfl, hle⟩
    have hq' := erase_keep_start hq hstop hl
    have ho := offsetOf_mono hl hpq
    have hp' : Valid (s.erase ⟨g.line, g.start⟩ ⟨g.line, g.stop⟩).text p :=
      erase_keep hp ho (Nat.le_trans ho
        (Nat.le_trans (offsetOf_mono hl hstop) (Nat.le_add_right ..)))
    exact insert_keep hp' (offsetOf_mono hq'.1 hpq) _

lemma changeCase_keep {stop : Position} (hp : Valid s.text p) (case : Case) :
    Valid (s.changeCase (.chars p stop) case).text p := by
  refine List.foldlRecOn (motive := fun (s' : Surface) => Valid s'.text p) _ _ hp
    fun s' hs' g hg => ?_
  obtain ⟨i, hi, rfl⟩ := List.mem_map.mp hg
  have hle : p.line ≤ i := (List.mem_range'_1.mp hi).1
  refine changeSegment_keep hs' ?_ (Nat.le_max_left ..)
  dsimp only
  split
  · rename_i he
    subst he
    have hb : p.byte ≤ s.text.lineLength p.line := hp.2.le
    exact .inl (by rw [Nat.min_eq_left hb])
  · exact .inr ⟨by omega, rfl⟩

end Surface

section visual

variable {s : Surface} {span : Span} {a : VisualAction}

def VisualAction.usesChars : VisualAction → Bool
  | yank | delete | changeCase _ | change => true
  | _ => false

lemma Span.Begins.widen (h : a.usesChars = true → span.Begins s.text)
    (ha : a.usesChars = true ∨ a.widen span = .lines span.firstLine span.lastLine) :
    (a.widen span).Begins s.text := by
  rcases ha with ha | ha
  · cases a <;> first | exact h rfl | cases ha
  · rw [ha]
    trivial

lemma Span.Begins.clear (h : span.Begins s.text) :
    Lands (VisualAction.clearRegion s span).1.text
      (span.start (VisualAction.clearRegion s span).1.text) := by
  cases span with
  | chars start stop => exact h.erase
  | lines first last => exact firstNonBlank_lands ..
  | block first last left right => exact Grapheme.byteAtColumn_boundary ..

lemma Span.Begins.changeCase (h : span.Begins s.text) (case : Case) :
    Lands (s.changeCase span case).text (span.start (s.changeCase span case).text) := by
  cases span with
  | chars start stop => exact (Surface.changeCase_keep h.1 case).2
  | lines first last => exact firstNonBlank_lands ..
  | block first last left right => exact Grapheme.byteAtColumn_boundary ..

lemma VisualAction.apply_valid (h : a.usesChars = true → span.Begins s.text)
    (register : Option Char) (count : Nat) :
    Valid (a.apply s span register count).1.text
      (clamp (a.apply s span register count).1.text (a.apply s span register count).2) := by
  have hw := Span.Begins.widen h
  cases a with
  | join => exact Surface.join_valid ..
  | yank => exact clamp_valid (hw (.inl rfl)).lands
  | yankLines => exact clamp_valid (hw (.inr rfl)).lands
  | delete => exact clamp_valid (normalize_valid (hw (.inl rfl)).erase).2
  | deleteLines => exact clamp_valid (normalize_valid (hw (.inr rfl)).erase).2
  | shift d => exact clamp_valid (firstNonBlank_lands ..)
  | changeCase case => exact clamp_valid (normalize_valid ((h rfl).changeCase case)).2
  | insertLeft => exact clamp_valid (Grapheme.byteAtColumn_boundary ..)
  | appendRight => exact clamp_valid (Grapheme.byteAtColumn_boundary ..)
  | change => exact clamp_valid (hw (.inl rfl)).clear
  | changeLines => exact clamp_valid (hw (.inr rfl)).clear

def Selection.Fits (t : Text) (selection : Selection) : Prop :=
  selection.kind = .characterwise →
    Valid t selection.start ∧ selection.stop.line < t.lineCount

instance (t : Text) (selection : Selection) : Decidable (selection.Fits t) :=
  inferInstanceAs (Decidable (_ → _))

lemma Selection.start_le_stop (selection : Selection) : selection.start ≤ selection.stop := by
  simp only [start, stop, Position.first, Position.last]
  split
  · assumption
  · rename_i h
    rw [Position.le_def] at h ⊢
    omega

lemma Selection.start_stop_of {P : Position → Prop} {selection : Selection}
    (ha : P selection.anchor) (hh : P selection.head) : P selection.start ∧ P selection.stop := by
  unfold start stop Position.first Position.last
  split
  · exact ⟨ha, hh⟩
  · exact ⟨hh, ha⟩

lemma Selection.Fits.begins {t : Text} {selection : Selection} (h : selection.Fits t) :
    (Span.ofSelection t selection).Begins t := by
  unfold Span.ofSelection
  split
  · rename_i hk
    obtain ⟨hv, hl⟩ := h hk
    refine ⟨hv, ?_, hl⟩
    have hle := selection.start_le_stop
    have hb := hv.2.le
    rw [Position.le_def] at hle ⊢
    dsimp only
    rcases hle with hlt | ⟨he, hle⟩
    · exact .inl hlt
    · rw [he] at hb
      refine .inr ⟨he, ?_⟩
      split
      · omega
      · rename_i hlt
        exact Nat.le_trans hle (Grapheme.le_nextBoundary (by omega))
  · trivial
  · trivial

end visual

end ModalEdit
