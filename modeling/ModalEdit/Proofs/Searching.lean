import Mathlib.Order.Bounds.Basic
import ModalEdit.Line.Search
import ModalEdit.Proofs.ChangeWord

/-! Which of the matches of a text a search finds: the nearest one on the way from the cursor around
the ends of the text. A search forward from the end of a line does not go past a match there. -/

namespace ModalEdit

open Text Grapheme
open Unicode (clusters)

lemma findSome?_range {α : Type} {f : Nat → Option α} {n : Nat} {b : α}
    (h : (List.range n).findSome? f = some b) : ∃ i < n, f i = some b ∧ ∀ j < i, f j = none := by
  obtain ⟨l₁, i, l₂, hl, hf, hj⟩ := List.findSome?_eq_some_iff.mp h
  rw [List.range_eq_range'] at hl
  obtain ⟨k, hk, rfl, hr⟩ := List.range'_eq_append_iff.mp hl
  obtain ⟨rfl, hpos, -⟩ := List.range'_eq_cons_iff.mp hr.symm
  rw [Nat.zero_add, Nat.mul_one] at hf
  exact ⟨k, by omega, hf, fun j h => hj j (List.mem_range'_1.mpr ⟨Nat.zero_le j, by omega⟩)⟩

instance (l : Text) (n : Nat) : Decidable (IsBoundary l n) :=
  decidable_of_iff
    (∃ i : Fin ((clusters l).length + 1), byteLength ((clusters l).take i).flatten = n) <| by
    constructor
    · rintro ⟨i, hi⟩
      exact ⟨_, _, (List.take_append_drop i _).symm, hi⟩
    · rintro ⟨a, c, hac, hn⟩
      exact ⟨⟨a.length, by simp [hac]⟩, by simpa [hac] using hn⟩

lemma Grapheme.IsBoundary.nextBoundary_le {l : Text} {m n : Nat} (hm : IsBoundary l m)
    (hn : IsBoundary l n) (hmn : m < n) : nextBoundary l m ≤ n := by
  obtain ⟨a, c, hac, rfl⟩ := hm
  rw [nextBoundary_of_clusters hac]
  exact Word.next_le hn hac hmn

lemma Position.eq_of_le_of_not_lt {p q : Position} (hle : p ≤ q) (hlt : ¬p < q) : p = q := by
  obtain ⟨i, m⟩ := p
  obtain ⟨k, n⟩ := q
  simp only [le_def, lt_def, mk.injEq] at *
  omega

namespace SearchDirection

variable {d : SearchDirection} {l : List Nat} {byte count step : Nat} {p x : Position}

def pick (d : SearchDirection) (l : List Nat) : Option Nat :=
  match d with
  | forward => l.head?
  | backward => l.getLast?

def Upto (d : SearchDirection) (m n : Nat) : Prop :=
  match d with
  | forward => m ≤ n
  | backward => n ≤ m

def beyond (d : SearchDirection) (byte n : Nat) : Bool :=
  match d with
  | forward => byte < n
  | backward => n < byte

def counts (d : SearchDirection) (byte count step n : Nat) : Bool :=
  if step = 0 then d.beyond byte n else if step = count then !d.beyond byte n else true

lemma counts_last (h : count ≠ 0) : d.counts byte count count = (!d.beyond byte ·) := by
  funext n
  simp [counts, h]

lemma counts_between (h : step ≠ 0) (hs : step < count) :
    d.counts byte count step = fun _ => true := by
  funext n
  simp [counts, h, Nat.ne_of_lt hs]

def stepTo (d : SearchDirection) (count : Nat) (p x : Position) : Nat :=
  if x.line = p.line then if d.beyond p.byte x.byte then 0 else count
  else
    match d with
    | forward => if p.line < x.line then x.line - p.line else x.line + count - p.line
    | backward => if x.line < p.line then p.line - x.line else p.line + count - x.line

lemma pick_spec (hl : l.Pairwise (· < ·)) {n : Nat} (h : d.pick l = some n) :
    n ∈ l ∧ ∀ k ∈ l, d.Upto n k := by
  cases d with
  | forward =>
    obtain ⟨l, rfl⟩ := List.head?_eq_some_iff.mp h
    refine ⟨List.mem_cons_self, List.forall_mem_cons.mpr ⟨Nat.le_refl n, fun k hk => ?_⟩⟩
    exact Nat.le_of_lt ((List.pairwise_cons.mp hl).1 k hk)
  | backward =>
    obtain ⟨l, rfl⟩ := List.getLast?_eq_some_iff.mp h
    refine ⟨by simp, fun k hk => ?_⟩
    rcases List.mem_append.mp hk with hk | hk
    · exact Nat.le_of_lt ((List.pairwise_append.mp hl).2.2 k hk n (by simp))
    · exact Nat.le_of_eq (List.mem_singleton.mp hk)

lemma pick_none (h : d.pick l = none) : l = [] := by
  cases d with
  | forward => exact List.head?_eq_none_iff.mp h
  | backward => exact List.getLast?_eq_none_iff.mp h

lemma stepTo_beyond (hl : x.line = p.line) (hb : d.beyond p.byte x.byte = true) :
    d.stepTo count p x = 0 := by simp only [stepTo, hl, hb, ↓reduceIte]

lemma stepTo_same (hl : x.line = p.line) (hb : d.beyond p.byte x.byte = false) :
    d.stepTo count p x = count := by simp [stepTo, hl, hb]

lemma stepTo_other (hp : p.line < count) (hx : x.line < count) (hl : x.line ≠ p.line) :
    0 < d.stepTo count p x ∧ d.stepTo count p x < count := by
  cases d <;> simp only [stepTo, hl, ↓reduceIte] <;> split_ifs <;> omega

lemma stepTo_forward (count : Nat) (p x : Position) :
    x.line = p.line ∧ p.byte < x.byte ∧ forward.stepTo count p x = 0 ∨
      x.line = p.line ∧ x.byte ≤ p.byte ∧ forward.stepTo count p x = count ∨
      p.line < x.line ∧ forward.stepTo count p x = x.line - p.line ∨
      x.line < p.line ∧ forward.stepTo count p x = x.line + count - p.line := by
  by_cases hl : x.line = p.line
  · by_cases hb : p.byte < x.byte
    · exact .inl ⟨hl, hb, stepTo_beyond hl (decide_eq_true hb)⟩
    · exact .inr (.inl ⟨hl, Nat.le_of_not_lt hb, stepTo_same hl (decide_eq_false hb)⟩)
  · simp only [stepTo, hl, ↓reduceIte]
    split_ifs <;> omega

lemma stepTo_backward (count : Nat) (p x : Position) :
    x.line = p.line ∧ x.byte < p.byte ∧ backward.stepTo count p x = 0 ∨
      x.line = p.line ∧ p.byte ≤ x.byte ∧ backward.stepTo count p x = count ∨
      x.line < p.line ∧ backward.stepTo count p x = p.line - x.line ∨
      p.line < x.line ∧ backward.stepTo count p x = p.line + count - x.line := by
  by_cases hl : x.line = p.line
  · by_cases hb : x.byte < p.byte
    · exact .inl ⟨hl, hb, stepTo_beyond hl (decide_eq_true hb)⟩
    · exact .inr (.inl ⟨hl, Nat.le_of_not_lt hb, stepTo_same hl (decide_eq_false hb)⟩)
  · simp only [stepTo, hl, ↓reduceIte]
    split_ifs <;> omega

section visited

variable (hp : p.line < count)
include hp

lemma visited_eq (d : SearchDirection) (hs : step ≤ count) :
    Finder.visited d count p.line step =
      match d with
      | forward => if p.line + step < count then p.line + step else p.line + step - count
      | backward => if step ≤ p.line then p.line - step else p.line + count - step := by
  cases d with
  | forward =>
    simp only [Finder.visited]
    split
    · exact Nat.mod_eq_of_lt ‹_›
    · rw [Nat.mod_eq_sub_mod (by omega), Nat.mod_eq_of_lt (by omega)]
  | backward =>
    simp only [Finder.visited]
    rcases Nat.lt_or_eq_of_le hs with hlt | rfl
    · rw [Nat.mod_eq_of_lt hlt]
      split
      · rw [show p.line + count - step = p.line - step + count by omega, Nat.add_mod_right,
          Nat.mod_eq_of_lt (by omega)]
      · exact Nat.mod_eq_of_lt (by omega)
    · rw [Nat.mod_self, Nat.sub_zero, Nat.add_mod_right, Nat.mod_eq_of_lt hp,
        if_neg (Nat.not_le_of_lt hp), Nat.add_sub_cancel]

lemma stepTo_spec (d : SearchDirection) (hx : x.line < count) :
    d.stepTo count p x ≤ count ∧
      Finder.visited d count p.line (d.stepTo count p x) = x.line ∧
      d.counts p.byte count (d.stepTo count p x) x.byte = true := by
  by_cases hl : x.line = p.line
  · cases hb : d.beyond p.byte x.byte with
    | true =>
      rw [stepTo_beyond hl hb, visited_eq hp d (Nat.zero_le _)]
      cases d <;> simp [counts, hb, hl, hp]
    | false =>
      rw [stepTo_same hl hb, visited_eq hp d (Nat.le_refl _)]
      cases d <;> simp [counts, hb, hl, hp, Nat.ne_of_gt (Nat.zero_lt_of_lt hp)]
  · obtain ⟨hpos, hlt⟩ := stepTo_other (d := d) hp hx hl
    refine ⟨Nat.le_of_lt hlt, ?_, by simp [counts, Nat.ne_of_gt hpos, Nat.ne_of_lt hlt]⟩
    rw [visited_eq hp d (Nat.le_of_lt hlt)]
    cases d <;> simp only [stepTo, hl, ↓reduceIte] <;> split_ifs <;> omega

lemma eq_stepTo (hs : step ≤ count) (hv : Finder.visited d count p.line step = x.line)
    (hc : d.counts p.byte count step x.byte = true) : step = d.stepTo count p x := by
  rw [visited_eq hp d hs] at hv
  by_cases hl : x.line = p.line
  · have hends : step = 0 ∨ step = count := by
      cases d <;> simp only at hv <;> split_ifs at hv <;> omega
    cases hb : d.beyond p.byte x.byte with
    | true =>
      rw [stepTo_beyond hl hb]
      refine hends.resolve_right fun hn => ?_
      simp [counts, hn, hb, Nat.ne_of_gt (Nat.zero_lt_of_lt hp)] at hc
    | false =>
      rw [stepTo_same hl hb]
      refine hends.resolve_left fun hn => ?_
      simp [counts, hn, hb] at hc
  · cases d <;> simp only [stepTo, hl, ↓reduceIte] <;> simp only at hv <;>
      split_ifs at hv ⊢ <;> omega

end visited

end SearchDirection

def placesOf (m : Text → List Nat) (t : Text) : Set Position :=
  {x | x.line < t.lineCount ∧ x.byte ∈ m (t.lineAt x.line)}

lemma placesOf_eq_empty {m : Text → List Nat} {t : Text} :
    placesOf m t = ∅ ↔ ∀ i < t.lineCount, m (t.lineAt i) = [] := by
  simp only [Set.eq_empty_iff_forall_notMem, List.eq_nil_iff_forall_not_mem]
  exact ⟨fun h i hi n hn => h ⟨i, n⟩ ⟨hi, hn⟩, fun h x hx => h x.line hx.1 x.byte hx.2⟩

namespace Finder

variable {f : Finder} {d : SearchDirection} {m : Text → List Nat} {t l : Text} {p q : Position}

def matchStarts (f : Finder) (l : Text) : List Nat :=
  (List.range (byteLength l + 1)).filter fun n => f.next? l n = some n

/-- What a finder is taken for on a line: `next?` gives the first match from a byte on, `starts`
some of the matches, the first one among them, and all of them start on boundaries. -/
structure Regular (f : Finder) (l : Text) : Prop where
  next : ∀ n ≤ byteLength l, f.next? l n = (f.matchStarts l).find? (n ≤ ·)
  listed : (f.starts l).Sublist (f.matchStarts l)
  first : (f.starts l).head? = (f.matchStarts l).head?
  boundary : ∀ n ∈ f.matchStarts l, IsBoundary l n

instance (f : Finder) (l : Text) : Decidable (f.Regular l) :=
  decidable_of_iff
    ((∀ n ≤ byteLength l, f.next? l n = (f.matchStarts l).find? (n ≤ ·)) ∧
      (f.starts l).Sublist (f.matchStarts l) ∧ (f.starts l).head? = (f.matchStarts l).head? ∧
      ∀ n ∈ f.matchStarts l, IsBoundary l n)
    ⟨fun ⟨h₁, h₂, h₃, h₄⟩ => ⟨h₁, h₂, h₃, h₄⟩, fun ⟨h₁, h₂, h₃, h₄⟩ => ⟨h₁, h₂, h₃, h₄⟩⟩

lemma matchStarts_sorted (f : Finder) (l : Text) : (f.matchStarts l).Pairwise (· < ·) :=
  List.pairwise_lt_range.filter _

def Picks (f : Finder) (d : SearchDirection) (m : Text → List Nat) (t : Text) (p : Position) :
    Prop :=
  ∀ step ≤ t.lineCount, let l := t.lineAt (visited d t.lineCount p.line step)
    f.hit? d l p.byte t.lineCount step =
      d.pick ((m l).filter (d.counts p.byte t.lineCount step))

section picks

variable (hp : p.line < t.lineCount) (hf : f.Picks d m t p)
include hp hf

lemma Picks.hit_ne_none {x : Position} (hx : x ∈ placesOf m t) :
    f.hit? d (t.lineAt x.line) p.byte t.lineCount (d.stepTo t.lineCount p x) ≠ none := by
  intro hn
  obtain ⟨hle, hv, hc⟩ := SearchDirection.stepTo_spec hp d hx.1
  have hpick := hf _ hle
  simp only [hv, hn] at hpick
  have hmem : x.byte ∈ (m (t.lineAt x.line)).filter _ := List.mem_filter.mpr ⟨hx.2, hc⟩
  rw [SearchDirection.pick_none hpick.symm] at hmem
  exact List.not_mem_nil hmem

lemma Picks.found (hm : ∀ i < t.lineCount, (m (t.lineAt i)).Pairwise (· < ·))
    (hq : f.search? d t p = some q) :
    q ∈ placesOf m t ∧ ∀ x ∈ placesOf m t,
      d.stepTo t.lineCount p q < d.stepTo t.lineCount p x ∨
        d.stepTo t.lineCount p q = d.stepTo t.lineCount p x ∧ x.line = q.line ∧
          d.Upto q.byte x.byte := by
  obtain ⟨step, hs, hfound, hbefore⟩ := findSome?_range hq
  have hs' : step ≤ t.lineCount := Nat.le_of_lt_succ hs
  have hline : visited d t.lineCount p.line step < t.lineCount := by
    cases d <;> exact Nat.mod_lt _ (Nat.zero_lt_of_lt hp)
  obtain ⟨b, hb, rfl⟩ := Option.map_eq_some_iff.mp hfound
  rw [hf step hs'] at hb
  obtain ⟨hmem, hfirst⟩ := SearchDirection.pick_spec ((hm _ hline).filter _) hb
  obtain ⟨hmem, hcounts⟩ := List.mem_filter.mp hmem
  have hstep : step = d.stepTo t.lineCount p ⟨visited d t.lineCount p.line step, b⟩ :=
    SearchDirection.eq_stepTo hp hs' rfl hcounts
  refine ⟨⟨hline, hmem⟩, fun x hx => ?_⟩
  rw [← hstep]
  obtain ⟨-, hv, hc⟩ := SearchDirection.stepTo_spec hp d hx.1
  rcases Nat.lt_trichotomy step (d.stepTo t.lineCount p x) with hlt | heq | hgt
  · exact .inl hlt
  · rw [← heq] at hv hc
    have hxm := hx.2
    rw [← hv] at hxm
    exact .inr ⟨heq, hv.symm, hfirst _ (List.mem_filter.mpr ⟨hxm, hc⟩)⟩
  · have hnone := hbefore _ hgt
    rw [Option.map_eq_none_iff, hv] at hnone
    exact absurd hnone (hf.hit_ne_none hp hx)

lemma Picks.none_iff (hm : ∀ i < t.lineCount, (m (t.lineAt i)).Pairwise (· < ·)) :
    f.search? d t p = none ↔ placesOf m t = ∅ := by
  rw [Set.eq_empty_iff_forall_notMem]
  refine ⟨fun hn x hx => ?_, fun hempty => ?_⟩
  · obtain ⟨hle, hv, -⟩ := SearchDirection.stepTo_spec hp d hx.1
    have hnone := List.findSome?_eq_none_iff.mp hn _ (List.mem_range.mpr (Nat.lt_succ_of_le hle))
    rw [Option.map_eq_none_iff, hv] at hnone
    exact hf.hit_ne_none hp hx hnone
  · cases hq : f.search? d t p with
    | none => rfl
    | some q => exact absurd (hf.found hp hm hq).1 (hempty q)

end picks

structure IsNextAround (s : Set Position) (p q : Position) : Prop where
  nearest : IsLeast {x ∈ s | p < x} q ∨ (∀ x ∈ s, ¬p < x) ∧ IsLeast s q
  alone : q = p → ∀ x ∈ s, x = p

structure IsPreviousAround (s : Set Position) (p q : Position) : Prop where
  nearest : IsGreatest {x ∈ s | x < p} q ∨ (∀ x ∈ s, ¬x < p) ∧ IsGreatest s q
  alone : q = p → ∀ x ∈ s, x = p

lemma around_of_met {s : Set Position} {R U : Position → Position → Prop} (hq : q ∈ s)
    (hmet : ∀ x ∈ s, R p x ∧ R p q ∧ U q x ∨ ¬R p x ∧ (R p q ∨ U q x)) :
    ((q ∈ s ∧ R p q) ∧ ∀ x ∈ s, R p x → U q x) ∨
      (∀ x ∈ s, ¬R p x) ∧ q ∈ s ∧ ∀ x ∈ s, U q x := by
  by_cases hb : ∃ x ∈ s, R p x
  · obtain ⟨x, hx, hpx⟩ := hb
    have hpq : R p q := ((hmet x hx).resolve_right fun h => h.1 hpx).2.1
    exact .inl ⟨⟨hq, hpq⟩, fun y hy hpy => ((hmet y hy).resolve_right fun h => h.1 hpy).2.2⟩
  · have hnone : ∀ x ∈ s, ¬R p x := fun x hx hpx => hb ⟨x, hx, hpx⟩
    refine .inr ⟨hnone, hq, fun y hy => ?_⟩
    exact ((hmet y hy).resolve_left fun h => hnone y hy h.1).2.resolve_left (hnone q hq)

section nearest

variable (hp : p.line < t.lineCount) (hm : ∀ i < t.lineCount, (m (t.lineAt i)).Pairwise (· < ·))
include hp hm

lemma Picks.next (hf : f.Picks .forward m t p) (hq : f.search? .forward t p = some q) :
    IsNextAround (placesOf m t) p q := by
  obtain ⟨hqs, hmin⟩ := hf.found hp hm hq
  have hmet : ∀ x ∈ placesOf m t, p < x ∧ p < q ∧ q ≤ x ∨ ¬p < x ∧ (p < q ∨ q ≤ x) := by
    intro x hx
    have hqx := hmin x hx
    have hq' := SearchDirection.stepTo_forward t.lineCount p q
    have hx' := SearchDirection.stepTo_forward t.lineCount p x
    have := hqs.1
    have := hx.1
    simp only [SearchDirection.Upto] at hqx
    simp only [Position.lt_def, Position.le_def]
    omega
  refine ⟨(around_of_met hqs hmet).imp (fun h => ⟨h.1, fun y hy => h.2 y hy.1 hy.2⟩) fun h =>
    ⟨h.1, h.2.1, fun y hy => h.2.2 y hy⟩, ?_⟩
  rintro rfl x hx
  have hirr : ¬q < q := by simp [Position.lt_def]
  have hx' := (hmet x hx).resolve_left fun h => hirr h.2.1
  exact (Position.eq_of_le_of_not_lt (hx'.2.resolve_left hirr) hx'.1).symm

lemma Picks.previous (hf : f.Picks .backward m t p) (hq : f.search? .backward t p = some q) :
    IsPreviousAround (placesOf m t) p q := by
  obtain ⟨hqs, hmin⟩ := hf.found hp hm hq
  have hmet : ∀ x ∈ placesOf m t, x < p ∧ q < p ∧ x ≤ q ∨ ¬x < p ∧ (q < p ∨ x ≤ q) := by
    intro x hx
    have hqx := hmin x hx
    have hq' := SearchDirection.stepTo_backward t.lineCount p q
    have hx' := SearchDirection.stepTo_backward t.lineCount p x
    have := hqs.1
    have := hx.1
    simp only [SearchDirection.Upto] at hqx
    simp only [Position.lt_def, Position.le_def]
    omega
  refine ⟨(around_of_met (R := fun p x => x < p) (U := fun q x => x ≤ q) hqs hmet).imp
    (fun h => ⟨h.1, fun y hy => h.2 y hy.1 hy.2⟩) fun h => ⟨h.1, h.2.1, fun y hy => h.2.2 y hy⟩, ?_⟩
  rintro rfl x hx
  have hirr : ¬q < q := by simp [Position.lt_def]
  have hx' := (hmet x hx).resolve_left fun h => hirr h.2.1
  exact Position.eq_of_le_of_not_lt (hx'.2.resolve_left hirr) hx'.1

end nearest

lemma picks_backward (f : Finder) (t : Text) (p : Position) : f.Picks .backward f.starts t p := by
  intro step hs l
  refine congrArg List.getLast? (List.filter_congr fun n _ => ?_)
  simp only [SearchDirection.counts, SearchDirection.beyond, ← decide_not, Nat.not_lt]

lemma le_of_mem_matchStarts {n : Nat} (hn : n ∈ f.matchStarts l) : n ≤ byteLength l :=
  Nat.le_of_lt_succ (List.mem_range.mp (List.mem_filter.mp hn).1)

lemma head?_filter_le {ns : List Nat} (hs : ns.Pairwise (· < ·)) (byte : Nat) :
    ns.head?.filter (· ≤ byte) = (ns.filter (· ≤ byte)).head? := by
  cases ns with
  | nil => rfl
  | cons n ns =>
    by_cases hn : n ≤ byte
    · simp [hn]
    · have hlate : ∀ k ∈ ns, ¬k ≤ byte := fun k hk => by
        have := (List.pairwise_cons.mp hs).1 k hk
        omega
      have hnone : ns.filter (· ≤ byte) = [] := by simpa [List.filter_eq_nil_iff] using hlate
      simp [hnone, Nat.lt_of_not_le hn]

section regular

variable (hf : ∀ l ∈ t.lines, f.Regular l) (hp : Stands IsBoundary t p)
include hf

lemma regular_lineAt {i : Nat} (hi : i < t.lineCount) : f.Regular (t.lineAt i) :=
  hf _ (List.mem_of_getElem? (getElem?_lines hi))

include hp

lemma picks_forward
    (hn : ¬(p.byte = t.lineLength p.line ∧ p.byte ∈ f.matchStarts (t.lineAt p.line))) :
    f.Picks .forward f.matchStarts t p := by
  intro step hs l
  have hline : visited .forward t.lineCount p.line step < t.lineCount :=
    Nat.mod_lt _ (Nat.zero_lt_of_lt hp.1)
  have hr : f.Regular l := regular_lineAt hf hline
  by_cases h0 : step = 0
  · subst h0
    have hl : l = t.lineAt p.line := by
      simp only [l, visited, Nat.add_zero, Nat.mod_eq_of_lt hp.1]
    have hnext : nextBoundary l p.byte ≤ byteLength l := (nextBoundary_boundary l p.byte).le
    have hsame : ∀ n ∈ f.matchStarts l, nextBoundary l p.byte ≤ n ↔ p.byte < n := by
      intro n hm
      refine ⟨fun hle => ?_, (hl ▸ hp.2 : IsBoundary l p.byte).nextBoundary_le (hr.boundary n hm)⟩
      rcases Nat.lt_or_eq_of_le (hl ▸ hp.2 : IsBoundary l p.byte).le with hlt | heq
      · exact Nat.lt_of_lt_of_le (lt_nextBoundary (hl ▸ hp.2) hlt) hle
      · -- the next boundary is the end of the line again
        have hend : n = p.byte := by
          have hge := le_nextBoundary (Nat.le_of_eq heq)
          have hlen := le_of_mem_matchStarts hm
          omega
        subst hend
        exact absurd ⟨heq.trans (congrArg byteLength hl), hl ▸ hm⟩ hn
    change f.next? l (nextBoundary l p.byte) = _
    rw [hr.next _ hnext, ← List.head?_filter]
    exact congrArg List.head? (List.filter_congr fun n hm => by
      simpa [SearchDirection.counts, SearchDirection.beyond] using hsame n hm)
  · have hfirst : f.hit? .forward l p.byte t.lineCount step =
        (f.matchStarts l).head?.filter fun n => step < t.lineCount || n ≤ p.byte := by
      rw [hit?, if_neg h0, hr.next 0 (Nat.zero_le _), ← List.head?_filter]
      simp
    rw [hfirst]
    rcases Nat.lt_or_eq_of_le hs with hlt | rfl
    · cases hm : (f.matchStarts l).head? <;>
        simp [SearchDirection.pick, SearchDirection.counts_between h0 hlt, hlt, hm]
    · have hle := head?_filter_le (f.matchStarts_sorted l) p.byte
      rw [SearchDirection.counts_last h0]
      simpa [SearchDirection.pick, SearchDirection.beyond, ← decide_not] using hle

lemma search_at_end (he : p.byte = t.lineLength p.line)
    (hs : p.byte ∈ f.matchStarts (t.lineAt p.line)) :
    f.search? .forward t p = some p := by
  have hr : f.Regular (t.lineAt p.line) := regular_lineAt hf hp.1
  have hnext : nextBoundary (t.lineAt p.line) p.byte = p.byte := by
    have hle := le_nextBoundary (Nat.le_of_eq he)
    have hlen := (nextBoundary_boundary (t.lineAt p.line) p.byte).le
    rw [lineLength] at he
    omega
  have hstart : f.next? (t.lineAt p.line) p.byte = some p.byte := by
    simpa using (List.mem_filter.mp hs).2
  have hvisit : visited .forward t.lineCount p.line 0 = p.line := Nat.mod_eq_of_lt hp.1
  have hhit : f.hit? .forward (t.lineAt p.line) p.byte t.lineCount 0 = some p.byte := by
    rw [hit?, if_pos rfl, hnext, hstart]
  rw [search?, List.range_succ_eq_map, List.findSome?_cons]
  simp only [hvisit, hhit, Option.map_some]

end regular

lemma starts_sorted (hr : f.Regular l) : (f.starts l).Pairwise (· < ·) :=
  (f.matchStarts_sorted l).sublist hr.listed

lemma starts_eq_nil_iff (hr : f.Regular l) : f.starts l = [] ↔ f.matchStarts l = [] := by
  rw [← List.head?_eq_none_iff, hr.first, List.head?_eq_none_iff]

/-- A search goes to the nearest match, wrapping around: backward to one of those that are listed,
forward to one of all. A match at the end of a line is found again by a search forward from there,
whichever other matches there are. -/
theorem search_nearest (hf : ∀ l ∈ t.lines, f.Regular l) (hp : Stands IsBoundary t p) :
    (∀ q, f.search? .forward t p = some q →
      if p.byte = t.lineLength p.line ∧ p.byte ∈ f.matchStarts (t.lineAt p.line) then q = p
      else IsNextAround (placesOf f.matchStarts t) p q) ∧
    (∀ q, f.search? .backward t p = some q → IsPreviousAround (placesOf f.starts t) p q) ∧
    ∀ d, f.search? d t p = none ↔ placesOf f.matchStarts t = ∅ := by
  have hall : ∀ i < t.lineCount, (f.matchStarts (t.lineAt i)).Pairwise (· < ·) :=
    fun i _ => f.matchStarts_sorted _
  have hlisted : ∀ i < t.lineCount, (f.starts (t.lineAt i)).Pairwise (· < ·) :=
    fun i hi => starts_sorted (regular_lineAt hf hi)
  refine ⟨fun q hq => ?_, fun q hq => (picks_backward f t p).previous hp.1 hlisted hq, fun d => ?_⟩
  · split_ifs with hn
    · rw [search_at_end hf hp hn.1 hn.2] at hq
      exact (Option.some.inj hq).symm
    · exact (picks_forward hf hp hn).next hp.1 hall hq
  · cases d with
    | forward =>
      by_cases hn : p.byte = t.lineLength p.line ∧ p.byte ∈ f.matchStarts (t.lineAt p.line)
      · rw [search_at_end hf hp hn.1 hn.2]
        exact iff_of_false nofun fun h => h.le ⟨hp.1, hn.2⟩
      · exact (picks_forward hf hp hn).none_iff hp.1 hall
    | backward =>
      rw [(picks_backward f t p).none_iff hp.1 hlisted, placesOf_eq_empty, placesOf_eq_empty]
      exact forall₂_congr fun i hi => starts_eq_nil_iff (regular_lineAt hf hi)

theorem sample_search_nearest :
    let f := ((Pattern.ofText? "a|^$".toList).get (by decide +kernel)).finder
    let t : Text := "xay\n\na".toList
    IsNextAround (placesOf f.matchStarts t) ⟨0, 1⟩ ⟨1, 0⟩ ∧
      IsPreviousAround (placesOf f.starts t) ⟨0, 1⟩ ⟨2, 0⟩ := by
  intro f t
  obtain ⟨hnext, hprevious, -⟩ := search_nearest (f := f) (t := t) (p := ⟨0, 1⟩)
    (by decide +kernel) (by decide +kernel)
  have h := hnext ⟨1, 0⟩ (by decide +kernel)
  rw [if_neg (by decide +kernel)] at h
  exact ⟨h, hprevious _ (by decide +kernel)⟩

end Finder

end ModalEdit
