import Mathlib.Data.Set.Card
import Mathlib.Order.RelClasses
import ModalEdit.Proofs.WordPlaces

/-! Word motions: a step leads to the next place where a word starts or ends, and so `n` steps lead
to the `n`-th such place. -/

namespace ModalEdit

open Text
open Unicode (clusters)

namespace Position

instance : IsStrictTotalOrder Position (· < ·) where
  trichotomous p q hpq hqp := by
    obtain ⟨i, b⟩ := p
    obtain ⟨j, c⟩ := q
    simp only [lt_def] at hpq hqp
    obtain rfl : i = j := by omega
    obtain rfl : b = c := by omega
    rfl
  irrefl p := by
    rw [lt_def]
    omega
  trans p q r := by
    simp only [lt_def]
    omega

instance : IsStrictTotalOrder Position (· > ·) :=
  inferInstanceAs (IsStrictTotalOrder Position (Function.swap (· < ·)))

end Position

lemma Motion.iterate_eq {α : Type} [DecidableEq α] (f : α → α) (n : Nat) (x : α) :
    iterate f n x = f^[n] x := by
  induction n generalizing x with
  | zero => rfl
  | succ n ih =>
    rw [iterate, Function.iterate_succ_apply]
    split
    · rename_i hx
      rw [hx, Function.iterate_fixed hx]
    · exact ih (f x)

namespace Word

open Grapheme

abbrev IsStart (t : Text) (p : Position) : Prop := Stands StartsAt t p

abbrev IsEnd (t : Text) (p : Position) : Prop := Stands EndsAt t p

def endOf (t : Text) : Position := ⟨t.lineCount - 1, t.lineLength (t.lineCount - 1)⟩

def lastPlace (t : Text) : Position :=
  ⟨t.lineCount - 1, byteLength (clusters (t.lineAt (t.lineCount - 1))).dropLast.flatten⟩

section order

variable (S : Position → Prop) (R : Position → Position → Prop) (e p : Position)

def IsNext (q : Position) : Prop :=
  S q ∧ R p q ∧ (∀ r, S r → R p r → ¬R r q) ∨ (∀ r, S r → ¬R p r) ∧ q = e

def IsNth (n : Nat) (q : Position) : Prop :=
  S q ∧ R p q ∧ {r | S r ∧ R p r ∧ ¬R q r}.encard = n ∨ {r | S r ∧ R p r}.encard < n ∧ q = e

variable {S R e p} {q q' : Position} {n : Nat}

lemma isNth_end (h : ∀ r, S r → ¬R p r) (hn : 0 < n) : IsNth S R e p n e := by
  have hset : {r | S r ∧ R p r} = ∅ :=
    Set.eq_empty_of_forall_notMem fun r ⟨hr, hpr⟩ => h r hr hpr
  refine .inr ⟨?_, rfl⟩
  rw [hset, Set.encard_empty]
  exact_mod_cast hn

variable [IsStrictTotalOrder Position R]

lemma beyond_iff (hq : S q) (hpq : R p q) (hleast : ∀ r, S r → R p r → ¬R r q) (r : Position) :
    S r ∧ R p r ↔ r = q ∨ S r ∧ R q r := by
  constructor
  · rintro ⟨hr, hpr⟩
    by_cases hqr : R q r
    · exact .inr ⟨hr, hqr⟩
    · exact .inl (Std.Trichotomous.trichotomous r q (hleast r hr hpr) hqr)
  · rintro (rfl | ⟨hr, hqr⟩)
    · exact ⟨hq, hpq⟩
    · exact ⟨hr, trans_of R hpq hqr⟩

lemma not_rel_of_encard (hq' : S q') (hpq' : R p q')
    (hn : {r | S r ∧ R p r ∧ ¬R q r}.encard = n) (hn' : {r | S r ∧ R p r ∧ ¬R q' r}.encard = n) :
    ¬R q q' := by
  intro hqq'
  have hle : {r | S r ∧ R p r ∧ ¬R q r} ⊆ {r | S r ∧ R p r ∧ ¬R q' r} :=
    fun r ⟨hr, hpr, hqr⟩ => ⟨hr, hpr, fun hqr' => hqr (trans_of R hqq' hqr')⟩
  have hsub := (Set.ssubset_iff_of_subset hle).mpr
    ⟨q', ⟨hq', hpq', irrefl q'⟩, fun hm => hm.2.2 hqq'⟩
  have hfin : {r | S r ∧ R p r ∧ ¬R q r}.Finite :=
    Set.finite_of_encard_eq_coe hn
  have hlt := hfin.encard_lt_encard hsub
  rw [hn, hn'] at hlt
  exact lt_irrefl _ hlt

lemma IsNth.eq (h : IsNth S R e p n q) (hq' : S q') (hpq' : R p q')
    (hn' : {r | S r ∧ R p r ∧ ¬R q' r}.encard = n) : q = q' := by
  rcases h with ⟨hq, hpq, hn⟩ | ⟨hfewer, -⟩
  · exact Std.Trichotomous.trichotomous q q' (not_rel_of_encard hq' hpq' hn hn')
      (not_rel_of_encard hq hpq hn' hn)
  · rw [← hn'] at hfewer
    exact absurd hfewer (not_lt_of_ge (Set.encard_mono fun r hr => ⟨hr.1, hr.2.1⟩))

lemma isNth_one (h : IsNext S R e p q) : IsNth S R e p 1 q := by
  rcases h with ⟨hq, hpq, hleast⟩ | ⟨hnone, rfl⟩
  · have hset : {r | S r ∧ R p r ∧ ¬R q r} = {q} := by
      ext r
      rw [Set.mem_ofPred_eq, ← and_assoc, beyond_iff hq hpq hleast]
      constructor
      · rintro ⟨rfl | ⟨-, hqr⟩, hn⟩
        · rfl
        · exact absurd hqr hn
      · rintro rfl
        exact ⟨.inl rfl, irrefl r⟩
    exact .inl ⟨hq, hpq, by rw [hset]; simp⟩
  · exact isNth_end hnone Nat.one_pos

lemma IsNth.succ (hq : S q) (hpq : R p q) (hleast : ∀ r, S r → R p r → ¬R r q)
    (h : IsNth S R e q n q') : IsNth S R e p (n + 1) q' := by
  rcases h with ⟨hq', hqq', hcount⟩ | ⟨hfewer, rfl⟩
  · have hset : {r | S r ∧ R p r ∧ ¬R q' r} = insert q {r | S r ∧ R q r ∧ ¬R q' r} := by
      ext r
      simp only [Set.mem_insert_iff, Set.mem_ofPred_eq, ← and_assoc, beyond_iff hq hpq hleast,
        or_and_right]
      refine or_congr_left ⟨And.left, ?_⟩
      rintro rfl
      exact ⟨rfl, fun hn => irrefl _ (trans_of R hqq' hn)⟩
    refine .inl ⟨hq', trans_of R hpq hqq', ?_⟩
    rw [hset, Set.encard_insert_of_notMem fun hm => irrefl q hm.2.1, hcount]
    rfl
  · have hset : {r | S r ∧ R p r} = insert q {r | S r ∧ R q r} := by
      ext r
      exact beyond_iff hq hpq hleast r
    refine .inr ⟨?_, rfl⟩
    rw [hset, Set.encard_insert_of_notMem fun hm => irrefl q hm.2]
    push_cast
    exact (ENat.add_lt_add_iff_right ENat.one_ne_top).mpr hfewer

variable {D : Position → Prop} {f : Position → Position}

lemma iterate_isNth (hS : ∀ q, S q → D q) (hmax : ∀ r, S r → ¬R e r) (he : D e)
    (hf : ∀ p, D p → IsNext S R e p (f p)) (hp : D p) (hn : 0 < n) :
    IsNth S R e p n (Motion.iterate f n p) := by
  -- nothing lies beyond `e`, so that more steps do not matter there
  have hfe : f e = e := by
    rcases hf e he with ⟨hs, hr, -⟩ | ⟨-, h⟩
    · exact absurd hr (hmax _ hs)
    · exact h
  rw [Motion.iterate_eq]
  induction n, hn using Nat.le_induction generalizing p with
  | base => exact isNth_one (hf p hp)
  | succ n hn ih =>
    rw [Function.iterate_succ_apply]
    rcases hf p hp with ⟨hs, hr, hleast⟩ | ⟨hnone, h⟩
    · exact (ih (hS _ hs)).succ hs hr hleast
    · rw [h, Function.iterate_fixed hfe]
      exact isNth_end hnone (Nat.succ_pos n)

end order

section steps

variable {P : Text → Nat → Prop} {t : Text} {e p : Position} {i n : Nat} {ls : List Text}

def Passed (P : Text → Nat → Prop) (t : Text) (p : Position) (i : Nat) : Prop :=
  ∀ r, Stands P t r → p < r → i ≤ r.line

lemma passed_self (P : Text → Nat → Prop) (t : Text) (p : Position) : Passed P t p p.line := by
  intro r _ hpr
  rw [Position.lt_def] at hpr
  omega

lemma Passed.line (hp : Passed P t p i) (hi : ∀ m, P (t.lineAt i) m → ¬p < ⟨i, m⟩) :
    Passed P t p (i + 1) := by
  intro r hr hpr
  refine Nat.lt_of_le_of_ne (hp r hr hpr) ?_
  rintro rfl
  exact hi r.byte hr.2 hpr

lemma Passed.isNext (hp : Passed P t p i) (hi : i < t.lineCount) (hn : P (t.lineAt i) n)
    (hpn : p < ⟨i, n⟩) (hleast : ∀ m, P (t.lineAt i) m → p < ⟨i, m⟩ → n ≤ m) :
    IsNext (Stands P t) (· < ·) e p ⟨i, n⟩ := by
  refine .inl ⟨⟨hi, hn⟩, hpn, fun r hr hpr hrn => ?_⟩
  have hline := hp r hr hpr
  simp only [Position.lt_def] at hrn
  obtain rfl : r.line = i := by omega
  have := hleast r.byte hr.2 hpr
  omega

lemma Passed.isNext_end (hp : Passed P t p t.lineCount) :
    IsNext (Stands P t) (· < ·) e p e :=
  .inr ⟨fun r hr hpr => Nat.not_lt_of_le (hp r hr hpr) hr.1, rfl⟩

lemma eq_last_line (hi : i < t.lineCount) (h : t.lines.drop (i + 1) = []) :
    i + 1 = t.lineCount := by
  rw [List.drop_eq_nil_iff, ← lineCount_eq_length] at h
  omega

lemma forwardFrom_next (hi : i < t.lineCount) (hpi : p.line ≤ i)
    (hp : Passed StartsAt t p (i + 1)) (h : t.lines.drop (i + 1) = ls) :
    IsNext (IsStart t) (· < ·) (endOf t) p (forwardFrom i (t.lineLength i) ls) := by
  -- by induction on the lines that are left: the words of the other ones do not lie behind `p`
  induction ls generalizing i with
  | nil =>
    have hlast := eq_last_line hi h
    obtain rfl : i = t.lineCount - 1 := by omega
    rw [hlast] at hp
    exact hp.isNext_end
  | cons l ls ih =>
    obtain ⟨hi', rfl, h'⟩ := of_lines_drop h
    have hlt : ∀ n, p < ⟨i + 1, n⟩ := fun n => .inl (Nat.lt_succ_of_le hpi)
    obtain ⟨u, hu, hblank⟩ := exists_blanks (clusters (t.lineAt (i + 1)))
    have hleast := fun m (hm : StartsAt (t.lineAt (i + 1)) m) => hm.outside_blank hu hblank
    unfold forwardFrom
    split
    · rename_i hl
      exact hp.isNext hi' (.inl ⟨List.isEmpty_iff.mp hl, rfl⟩) (hlt 0) fun _ _ _ => Nat.zero_le _
    · rename_i hl
      split
      · rename_i hnil
        refine ih hi' (Nat.le_succ_of_le hpi) (hp.line fun m hm _ => ?_) h'
        have hle := hleast m hm
        rw [hnil, List.append_nil] at hu
        rw [byteLength_of_clusters hu] at hle
        exact Nat.not_lt_of_le hle (hm.onWord (by simpa using hl)).lt
      · rename_i hne
        obtain ⟨g, rest, hg⟩ := List.exists_cons_of_ne_nil hne
        have hstart := startOf_of_clusters hu
        refine hp.isNext hi' (.inr ⟨u, g, rest, hg ▸ hu, hstart.symm, ?_⟩) (hlt _)
          fun m hm _ => hstart ▸ hleast m hm
        exact begins_of_blank hblank (dropBlanks_head hg)

lemma forward_next (hp : Stands IsBoundary t p) :
    IsNext (IsStart t) (· < ·) (endOf t) p (forward t p) := by
  obtain ⟨hi, a, c, hl, hb⟩ := hp
  obtain ⟨x, hx, hjoined, hbegins⟩ := dropWord_split c
  have hl' : clusters (t.lineAt p.line) = a ++ x ++ dropBlanks (dropWord c) := by
    rw [hl, List.append_assoc, ← hx]
  have hmin : min p.byte (t.lineAt p.line).byteLength = byteLength a.flatten := by
    have := (show IsBoundary (t.lineAt p.line) p.byte from ⟨a, c, hl, hb⟩).le
    omega
  have hleast : ∀ m, StartsAt (t.lineAt p.line) m → p < ⟨p.line, m⟩ →
      byteLength (a ++ x).flatten ≤ m := by
    intro m hm hpm
    simp only [Position.lt_def] at hpm
    exact (hm.outside hl' hjoined).resolve_left (by omega)
  unfold forward
  simp only [hmin, clustersFrom_of_clusters hl]
  split
  · rename_i hnil
    refine forwardFrom_next hi (Nat.le_refl _) ((passed_self _ t p).line fun m hm hpm => ?_) rfl
    have hle := hleast m hm hpm
    rw [hnil, List.append_nil] at hl'
    rw [byteLength_of_clusters hl'] at hle
    simp only [Position.lt_def] at hpm
    have hne : t.lineAt p.line ≠ [] := by
      intro hz
      have := hm.boundary.le
      rw [hz, byteLength_nil] at this
      omega
    exact Nat.not_lt_of_le hle (hm.onWord hne).lt
  · rename_i hne
    obtain ⟨g, rest, hg⟩ := List.exists_cons_of_ne_nil hne
    have hstart := startOf_of_clusters hl'
    obtain ⟨hxn, hbegin⟩ := hbegins g rest hg
    have hlt := byteLength_lt_append hl' hxn
    rw [hstart]
    rw [hb] at hlt
    exact (passed_self _ t p).isNext hi
      (.inr ⟨a ++ x, g, rest, hg ▸ hl', rfl, (begins_behind_iff hxn).mpr hbegin⟩) (.inr ⟨rfl, hlt⟩)
      hleast

def Left (P : Text → Nat → Prop) (t : Text) (p : Position) (i : Nat) : Prop :=
  ∀ r, Stands P t r → r < p → r.line < i

lemma left_self (P : Text → Nat → Prop) (t : Text) (p : Position) : Left P t p (p.line + 1) := by
  intro r _ hrp
  rw [Position.lt_def] at hrp
  omega

lemma Left.line (hp : Left P t p (i + 1)) (hi : ∀ m, P (t.lineAt i) m → ¬(⟨i, m⟩ : Position) < p) :
    Left P t p i := by
  intro r hr hrp
  refine Nat.lt_of_le_of_ne (Nat.le_of_lt_succ (hp r hr hrp)) ?_
  rintro rfl
  exact hi r.byte hr.2 hrp

lemma Left.isNext (hp : Left P t p (i + 1)) (hi : i < t.lineCount) (hn : P (t.lineAt i) n)
    (hnp : (⟨i, n⟩ : Position) < p)
    (hmost : ∀ m, P (t.lineAt i) m → (⟨i, m⟩ : Position) < p → m ≤ n) :
    IsNext (Stands P t) (· > ·) e p ⟨i, n⟩ := by
  refine .inl ⟨⟨hi, hn⟩, hnp, fun r hr hrp hnr => ?_⟩
  have hline := hp r hr hrp
  simp only [gt_iff_lt, Position.lt_def] at hnr
  obtain rfl : r.line = i := by omega
  have := hmost r.byte hr.2 hrp
  omega

lemma backwardFrom_next (hi : i ≤ p.line) (hpl : p.line < t.lineCount) (hp : Left StartsAt t p i) :
    IsNext (IsStart t) (· > ·) .origin p (backwardFrom t i) := by
  induction i with
  | zero => exact .inr ⟨fun r hr hrp => Nat.not_lt_zero _ (hp r hr hrp), rfl⟩
  | succ i ih =>
    have hlt : ∀ n, (⟨i, n⟩ : Position) < p := fun n => .inl hi
    have hl : clusters (t.lineAt i) = clusters (t.lineAt i) ++ [] := (List.append_nil _).symm
    unfold backwardFrom
    dsimp only
    split
    · rename_i hnil
      have hnil := List.isEmpty_iff.mp hnil
      refine hp.isNext (Nat.lt_trans hi hpl) (.inl ⟨hnil, rfl⟩) (hlt 0) fun m hm _ => ?_
      simpa [hnil] using hm.boundary.le
    · rename_i hne
      have hin := fun m (hm : StartsAt (t.lineAt i) m) => (hm.onWord (by simpa using hne)).lt
      split
      · rename_i b hw
        obtain ⟨u, z, v, huv, rfl, hz, hjoined⟩ := lastWord_some hw
        refine hp.isNext (Nat.lt_trans hi hpl) (.inr ⟨u, z, v, huv, rfl, hz⟩) (hlt _)
          fun m hm _ => (hm.outside (hl.trans (by rw [huv])) hjoined).resolve_right fun hle => ?_
        rw [byteLength_of_clusters huv] at hle
        exact Nat.not_lt_of_le hle (hin m hm)
      · rename_i hw
        refine ih (Nat.le_of_succ_le hi) (hp.line fun m hm _ => ?_)
        have hle := hm.outside_blank hl (lastWord_none hw)
        rw [byteLength_of_clusters rfl] at hle
        exact Nat.not_lt_of_le hle (hin m hm)

lemma backward_next (hp : Stands IsBoundary t p) :
    IsNext (IsStart t) (· > ·) .origin p (backward t p) := by
  obtain ⟨hi, a, c, hl, hb⟩ := hp
  unfold backward
  simp only [← hb, clustersTo_of_clusters hl]
  split
  · rename_i b hw
    obtain ⟨u, z, v, rfl, rfl, hz, hjoined⟩ := lastWord_some hw
    have hlt := byteLength_lt_append hl (List.cons_ne_nil z v)
    rw [hb] at hlt
    refine (left_self _ t p).isNext hi (.inr ⟨u, z, v ++ c, by simp [hl], rfl, hz⟩)
      (.inr ⟨rfl, hlt⟩) fun m hm hmp => (hm.outside hl hjoined).resolve_right ?_
    simp only [Position.lt_def] at hmp
    omega
  · rename_i hw
    refine backwardFrom_next (Nat.le_refl _) hi ((left_self _ t p).line fun m hm hmp => ?_)
    have hle := hm.outside_blank hl (lastWord_none hw)
    simp only [Position.lt_def] at hmp
    omega

lemma normalize_last (t : Text) :
    normalize t ⟨t.lineCount - 1, t.lineLength (t.lineCount - 1)⟩ = lastPlace t := by
  unfold normalize lastPlace lineLength
  simp only [Nat.min_self, Nat.le_refl, ↓reduceIte]
  generalize t.lineAt (t.lineCount - 1) = l
  split
  · rename_i hl
    rw [List.isEmpty_iff.mp hl]
    rfl
  · rename_i hl
    rw [prevBoundary_length (by simpa using hl)]

lemma toEndFrom_next (hi : i < t.lineCount) (hpi : p.line ≤ i) (hp : Passed EndsAt t p (i + 1))
    (h : t.lines.drop (i + 1) = ls) :
    IsNext (IsEnd t) (· < ·) (lastPlace t) p (toEndFrom t i ls) := by
  induction ls generalizing i with
  | nil =>
    have hlast := eq_last_line hi h
    obtain rfl : i = t.lineCount - 1 := by omega
    rw [hlast] at hp
    rw [toEndFrom, normalize_last]
    exact hp.isNext_end
  | cons l ls ih =>
    obtain ⟨hi', rfl, h'⟩ := of_lines_drop h
    have hl : clusters (t.lineAt (i + 1)) = [] ++ clusters (t.lineAt (i + 1)) := rfl
    unfold toEndFrom
    split
    · rename_i hnil
      refine ih hi' (Nat.le_succ_of_le hpi) (hp.line fun m hm _ => ?_) h'
      exact Nat.not_lt_zero m (hm.outside_blank hl (blank_of_dropBlanks hnil))
    · rename_i hne
      obtain ⟨g, rest, hg⟩ := List.exists_cons_of_ne_nil hne
      obtain ⟨u, z, v, huv, hjoined, hz, hend⟩ := runEnd_of_clusters hl hg
      rw [hg, hend]
      refine hp.isNext hi' ⟨u, z, v, huv, rfl, hz⟩ (.inl (Nat.lt_succ_of_le hpi)) fun m hm _ => ?_
      exact (hm.outside (a := []) huv hjoined).resolve_left (Nat.not_lt_zero m)

lemma toEnd_next (hp : Stands IsBoundary t p) :
    IsNext (IsEnd t) (· < ·) (lastPlace t) p (toEnd t p) := by
  obtain ⟨hi, a, c, hl, hb⟩ := hp
  have hl' : clusters (t.lineAt p.line) = a ++ c.take 1 ++ c.drop 1 := by
    rw [hl, List.append_assoc, List.take_append_drop]
  have hnext : ∀ m, EndsAt (t.lineAt p.line) m → p < ⟨p.line, m⟩ →
      byteLength (a ++ c.take 1).flatten ≤ m := by
    intro m hm hpm
    simp only [Position.lt_def] at hpm
    exact next_le hm.onWord.boundary hl (by omega)
  unfold toEnd
  simp only [← hb, nextBoundary_of_clusters hl, clustersFrom_of_clusters hl']
  split
  · rename_i hnil
    refine toEndFrom_next hi (Nat.le_refl _) ((passed_self _ t p).line fun m hm hpm => ?_) rfl
    have hlt := hm.outside_blank hl' (blank_of_dropBlanks hnil)
    exact Nat.not_lt_of_le (hnext m hm hpm) hlt
  · rename_i hne
    obtain ⟨g, rest, hg⟩ := List.exists_cons_of_ne_nil hne
    obtain ⟨u, z, v, huv, hjoined, hz, hend⟩ := runEnd_of_clusters hl' hg
    have hc : c.take 1 ≠ [] := by
      rintro hz
      rw [(List.take_eq_nil_iff.mp hz).resolve_left Nat.one_ne_zero] at huv
      simp at huv
    have hlt := Nat.lt_of_lt_of_le (byteLength_lt_append hl' hc) (byteLength_le_append _ u)
    rw [hb] at hlt
    rw [huv, ← List.append_assoc] at hl'
    rw [hg, hend]
    refine (passed_self _ t p).isNext hi ⟨_, z, v, hl', rfl, hz⟩ (.inr ⟨rfl, hlt⟩)
      fun m hm hpm => (hm.outside hl' hjoined).resolve_left ?_
    exact Nat.not_lt_of_le (hnext m hm hpm)

end steps

section motions

variable {t : Text} {p : Position} {n : Nat}

lemma IsStart.stands (hp : IsStart t p) : Stands IsBoundary t p := ⟨hp.1, hp.2.boundary⟩

lemma IsEnd.stands (hp : IsEnd t p) : Stands IsBoundary t p := ⟨hp.1, hp.2.onWord.boundary⟩

lemma last_line_lt (t : Text) : t.lineCount - 1 < t.lineCount :=
  Nat.sub_one_lt_of_lt (lineCount_pos t)

lemma not_last_lt {P : Text → Nat → Prop}
    (hn : ∀ m, P (t.lineAt (t.lineCount - 1)) m → m ≤ n) (r : Position) (hr : Stands P t r) :
    ¬(⟨t.lineCount - 1, n⟩ : Position) < r := by
  intro hlt
  have hline := hr.1
  simp only [Position.lt_def] at hlt
  have he : r.line = t.lineCount - 1 := by omega
  have := hn r.byte (he ▸ hr.2)
  omega

section counts

variable (hp : Stands IsBoundary t p) (n : Nat) (explicit : Bool)
include hp

lemma wordForward_isNth :
    IsNth (IsStart t) (· < ·) (endOf t) p (max 1 n) (Motion.wordForward.target t p n explicit) :=
  iterate_isNth (fun _ => IsStart.stands) (not_last_lt fun _ hm => hm.boundary.le)
    ⟨last_line_lt t, isBoundary_length _⟩ (fun _ => forward_next) hp (Nat.le_max_left 1 n)

lemma wordBackward_isNth :
    IsNth (IsStart t) (· > ·) .origin p (max 1 n) (Motion.wordBackward.target t p n explicit) := by
  refine iterate_isNth (fun _ => IsStart.stands) (fun r _ hr => ?_)
    ⟨lineCount_pos t, isBoundary_zero _⟩ (fun _ => backward_next) hp (Nat.le_max_left 1 n)
  simp [Position.lt_def, Position.origin] at hr

lemma wordEnd_isNth :
    IsNth (IsEnd t) (· < ·) (lastPlace t) p (max 1 n) (Motion.wordEnd.target t p n explicit) :=
  iterate_isNth (fun _ => IsEnd.stands) (not_last_lt fun _ hm => hm.onWord.le_dropLast)
    ⟨last_line_lt t, isBoundary_dropLast _⟩ (fun _ => toEnd_next) hp (Nat.le_max_left 1 n)

end counts

lemma backward_forward (hp : IsStart t p) (hq : ∃ q, IsStart t q ∧ p < q) :
    backward t (forward t p) = p := by
  rcases forward_next hp.stands with ⟨hs, hpf, hleast⟩ | ⟨hnone, -⟩
  · rcases backward_next hs.stands with ⟨hb, hbf, hmost⟩ | ⟨hnone, -⟩
    · exact Std.Trichotomous.trichotomous (r := (· < ·)) _ _ (hmost p hp hpf)
        fun hpb => hleast _ hb hpb hbf
    · exact absurd hpf (hnone p hp)
  · obtain ⟨q, hq, hpq⟩ := hq
    exact absurd hpq (hnone q hq)

end motions

/-- Each word motion goes to the place that its count tells, and from the start of a word the way
to the next one can be gone back. -/
theorem motions_reach (t : Text) {p : Position} (hp : Stands IsBoundary t p) (n : Nat)
    (explicit : Bool) :
    IsNth (IsStart t) (· < ·) (endOf t) p (max 1 n) (Motion.wordForward.target t p n explicit) ∧
    IsNth (IsStart t) (· > ·) .origin p (max 1 n) (Motion.wordBackward.target t p n explicit) ∧
    IsNth (IsEnd t) (· < ·) (lastPlace t) p (max 1 n) (Motion.wordEnd.target t p n explicit) ∧
    (IsStart t p → (∃ q, IsStart t q ∧ p < q) →
      Motion.wordBackward.target t (Motion.wordForward.target t p 1 explicit) 1 explicit = p) := by
  refine ⟨wordForward_isNth hp n explicit, wordBackward_isNth hp n explicit,
    wordEnd_isNth hp n explicit, fun hs hq => ?_⟩
  simp only [Motion.target, Nat.max_self, Motion.iterate_eq, Function.iterate_one]
  exact backward_forward hs hq

theorem sample_motions_reach :
    let t : Text := "ab, c\n\nd".toList
    (Motion.wordForward.target t ⟨0, 1⟩ 3 true = ⟨1, 0⟩ ∧
      IsNth (IsStart t) (· < ·) (endOf t) ⟨0, 1⟩ 3 (Motion.wordForward.target t ⟨0, 1⟩ 3 true)) ∧
    (Motion.wordEnd.target t ⟨0, 1⟩ 4 true = ⟨2, 0⟩ ∧
      IsNth (IsEnd t) (· < ·) (lastPlace t) ⟨0, 1⟩ 4 (Motion.wordEnd.target t ⟨0, 1⟩ 4 true)) ∧
    Motion.wordBackward.target t (Motion.wordForward.target t ⟨0, 2⟩ 1 false) 1 false = ⟨0, 2⟩ := by
  intro t
  have hin : Stands IsBoundary t ⟨0, 1⟩ :=
    ⟨by decide +kernel, [['a']], [['b'], [','], [' '], ['c']], by decide +kernel, rfl⟩
  have hs : IsStart t ⟨0, 2⟩ := by decide +kernel
  have hnext : IsStart t ⟨1, 0⟩ := by decide +kernel
  exact ⟨⟨by decide +kernel, (motions_reach t hin 3 true).1⟩,
    ⟨by decide +kernel, (motions_reach t hin 4 true).2.2.1⟩,
    (motions_reach t hs.stands 1 false).2.2.2 hs ⟨_, hnext, by decide⟩⟩

end Word

end ModalEdit
