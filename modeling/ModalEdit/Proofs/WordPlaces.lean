import Mathlib.Data.List.Pairwise
import ModalEdit.Proofs.Resting

namespace ModalEdit

open Text
open Unicode (clusters)

namespace Grapheme

variable {l g : Text} {a c : List Text}

def IsBoundary (l : Text) (n : Nat) : Prop :=
  ∃ a c, clusters l = a ++ c ∧ byteLength a.flatten = n

lemma byteLength_of_clusters (h : clusters l = a) : byteLength a.flatten = byteLength l := by
  rw [← h, Unicode.clusters_flatten]

lemma IsBoundary.le {n : Nat} (h : IsBoundary l n) : n ≤ byteLength l := by
  obtain ⟨a, c, h, rfl⟩ := h
  rw [← byteLength_of_clusters h, List.flatten_append, byteLength_append]
  exact Nat.le_add_right ..

lemma isBoundary_length (l : Text) : IsBoundary l (byteLength l) :=
  ⟨clusters l, [], (List.append_nil _).symm, byteLength_of_clusters rfl⟩

lemma isBoundary_dropLast (l : Text) : IsBoundary l (byteLength (clusters l).dropLast.flatten) := by
  obtain ⟨c, hc⟩ := List.dropLast_prefix (clusters l)
  exact ⟨_, c, hc.symm, rfl⟩

lemma isBoundary_zero (l : Text) : IsBoundary l 0 := ⟨[], clusters l, rfl, rfl⟩

lemma byteLength_pos_of_mem (hg : g ∈ clusters l) : 0 < byteLength g :=
  Nat.pos_of_ne_zero (mt byteLength_eq_zero.mp (Unicode.clusters_ne_nil l g hg))

lemma ne_nil_of_clusters (h : clusters l = a ++ c) : ∀ g ∈ a, g ≠ [] := fun g hg =>
  Unicode.clusters_ne_nil l g (h ▸ List.mem_append_left c hg)

lemma startsFrom_append (n : Nat) (a c : List Text) :
    startsFrom n (a ++ c) = startsFrom n a ++ startsFrom (n + byteLength a.flatten) c := by
  induction a generalizing n with
  | nil => rfl
  | cons g a ih =>
    simp only [List.cons_append, startsFrom, ih, List.flatten_cons, byteLength_append,
      Nat.add_assoc]

lemma nextBoundary_of_clusters (h : clusters l = a ++ c) :
    nextBoundary l (byteLength a.flatten) = byteLength (a ++ c.take 1).flatten := by
  have hbefore : (startsFrom 0 a).find? (byteLength a.flatten < ·) = none := by
    simp only [List.find?_eq_none, decide_eq_true_eq, Nat.not_lt]
    intro x hx
    have := lt_of_mem_startsFrom (ne_nil_of_clusters h) hx
    omega
  have hl := byteLength_of_clusters h
  unfold nextBoundary starts
  rw [h, startsFrom_append, List.find?_append, hbefore, Option.none_or, Nat.zero_add]
  cases c with
  | nil => simpa [startsFrom] using hl.symm
  | cons g c =>
    have hg := byteLength_pos_of_mem (l := l) (g := g) (by simp [h])
    cases c with
    | nil => simpa [startsFrom] using hl.symm
    | cons g' c => simp [startsFrom, hg]

lemma clusters_ne_nil (hl : l ≠ []) : clusters l ≠ [] := fun h =>
  hl (by rw [← Unicode.clusters_flatten l, h]; rfl)

lemma prevBoundary_length (hl : l ≠ []) :
    prevBoundary l (byteLength l) = byteLength (clusters l).dropLast.flatten := by
  have hne := clusters_ne_nil hl
  have hall : (starts l).takeWhile (· < byteLength l) = starts l := by
    rw [List.takeWhile_eq_self_iff]
    exact fun x hx => decide_eq_true (lt_of_mem_starts hx)
  rw [prevBoundary, if_neg (Nat.lt_irrefl _), hall, starts]
  conv_lhs => rw [← List.dropLast_concat_getLast hne]
  simp [startsFrom_append, startsFrom]

end Grapheme

namespace Word

open Grapheme

variable {l g h z : Text} {a b c u v x gs rest : List Text} {n : Nat}

def Begins (a : List Text) (g : Text) : Prop :=
  classOf g ≠ .blank ∧ ∀ h ∈ a.getLast?, classOf h ≠ classOf g

def Finishes (g : Text) (b : List Text) : Prop :=
  classOf g ≠ .blank ∧ ∀ h ∈ b.head?, classOf h ≠ classOf g

def StartsAt (l : Text) (n : Nat) : Prop :=
  l = [] ∧ n = 0 ∨ ∃ a g b, clusters l = a ++ g :: b ∧ byteLength a.flatten = n ∧ Begins a g

def EndsAt (l : Text) (n : Nat) : Prop :=
  ∃ a g b, clusters l = a ++ g :: b ∧ byteLength a.flatten = n ∧ Finishes g b

def OnWord (l : Text) (n : Nat) : Prop :=
  ∃ a g b, clusters l = a ++ g :: b ∧ byteLength a.flatten = n ∧ classOf g ≠ .blank

section decidable

lemma exists_split_iff {P : List Text → Text → List Text → Prop} :
    (∃ a g b, x = a ++ g :: b ∧ P a g b) ↔
      ∃ i : Fin x.length, P (x.take i) (x.get i) (x.drop (i + 1)) := by
  constructor
  · rintro ⟨a, g, b, rfl, h⟩
    exact ⟨⟨a.length, by simp⟩, by simpa using h⟩
  · rintro ⟨i, h⟩
    exact ⟨_, _, _, by simp, h⟩

instance (a : List Text) (g : Text) : Decidable (Begins a g) := inferInstanceAs (Decidable (_ ∧ _))

instance (g : Text) (b : List Text) : Decidable (Finishes g b) :=
  inferInstanceAs (Decidable (_ ∧ _))

instance (l : Text) (n : Nat) : Decidable (StartsAt l n) :=
  have := decidable_of_iff _ (exists_split_iff (x := clusters l)
    (P := fun a g _ => byteLength a.flatten = n ∧ Begins a g)).symm
  inferInstanceAs (Decidable (_ ∨ _))

instance (l : Text) (n : Nat) : Decidable (EndsAt l n) :=
  decidable_of_iff _ (exists_split_iff (x := clusters l)
    (P := fun a g b => byteLength a.flatten = n ∧ Finishes g b)).symm

instance (l : Text) (n : Nat) : Decidable (OnWord l n) :=
  decidable_of_iff _ (exists_split_iff (x := clusters l)
    (P := fun a g _ => byteLength a.flatten = n ∧ classOf g ≠ .blank)).symm

instance {P : Text → Nat → Prop} [∀ l n, Decidable (P l n)] (t : Text) (p : Position) :
    Decidable (Stands P t p) := inferInstanceAs (Decidable (_ ∧ _))

end decidable

lemma EndsAt.onWord (hs : EndsAt l n) : OnWord l n := by
  obtain ⟨a, g, b, hab, hn, hg, -⟩ := hs
  exact ⟨a, g, b, hab, hn, hg⟩

lemma StartsAt.onWord (hs : StartsAt l n) (hl : l ≠ []) : OnWord l n := by
  obtain ⟨a, g, b, hab, hn, hg, -⟩ := hs.resolve_left fun h => hl h.1
  exact ⟨a, g, b, hab, hn, hg⟩

def Joined (h g : Text) : Prop := classOf g = .blank ∨ classOf h = classOf g

section runs

lemma exists_blanks (gs : List Text) :
    ∃ u, gs = u ++ dropBlanks gs ∧ ∀ g ∈ u, classOf g = .blank := by
  refine ⟨_, List.takeWhile_append_dropWhile.symm, fun g hg => ?_⟩
  simpa using List.mem_takeWhile_imp hg

lemma blank_of_dropBlanks (h : dropBlanks gs = []) : ∀ g ∈ gs, classOf g = .blank := by
  obtain ⟨u, hu, hb⟩ := exists_blanks gs
  rw [h, List.append_nil] at hu
  exact hu ▸ hb

def takeRun : List Text → List Text
  | [] => []
  | g :: gs => g :: gs.takeWhile (classOf · == classOf g)

lemma takeRun_append_dropRun (gs : List Text) : takeRun gs ++ dropRun gs = gs := by
  cases gs with
  | nil => rfl
  | cons g gs => exact congrArg (g :: ·) List.takeWhile_append_dropWhile

lemma classOf_of_takeRun (hh : h ∈ takeRun (g :: gs)) : classOf h = classOf g := by
  rcases List.mem_cons.mp hh with rfl | hh
  · rfl
  · simpa using List.mem_takeWhile_imp hh

lemma dropRun_head (hh : h ∈ (dropRun (g :: gs)).head?) : classOf h ≠ classOf g := by
  have := List.head?_dropWhile_not (classOf · == classOf g) gs
  rw [dropRun] at hh
  rw [Option.mem_def.mp hh] at this
  simpa using this

lemma pairwise_joined {k : Class} (hu : ∀ g ∈ u, classOf g = k)
    (hv : ∀ g ∈ v, classOf g = .blank) : (u ++ v).Pairwise Joined := by
  refine List.pairwise_append.mpr ⟨?_, ?_, fun _ _ g hg => .inl (hv g hg)⟩
  · exact List.pairwise_of_forall_mem_list fun h hh g hg => .inr ((hu h hh).trans (hu g hg).symm)
  · exact List.pairwise_of_forall_mem_list fun _ _ g hg => .inl (hv g hg)

lemma pairwise_joined_flip {k : Class} (hu : ∀ g ∈ u, classOf g = .blank)
    (hv : ∀ g ∈ v, classOf g = k) : (u ++ v).Pairwise fun h g => Joined g h := by
  have := pairwise_joined (u := v.reverse) (v := u.reverse) (k := k) (by simpa using hv)
    (by simpa using hu)
  rwa [← List.reverse_append, List.pairwise_reverse] at this

lemma begins_behind_iff (hu : u ≠ []) : Begins (a ++ u) g ↔ Begins u g := by
  rw [Begins, Begins, List.getLast?_append, List.getLast?_eq_some_getLast hu, Option.some_or]

lemma begins_of_blank (hu : ∀ h ∈ u, classOf h = .blank) (hg : classOf g ≠ .blank) : Begins u g :=
  ⟨hg, fun h hh => (hu h (List.mem_of_getLast? hh)).trans_ne hg.symm⟩

lemma not_begins (hx : (u ++ g :: v).Pairwise Joined) (hu : u ≠ []) : ¬Begins (a ++ u) g := by
  rw [begins_behind_iff hu]
  rintro ⟨hg, hb⟩
  have hne := hb (u.getLast hu) (List.getLast?_eq_some_getLast hu)
  have hj := (List.pairwise_append.mp hx).2.2 _ (u.getLast_mem hu) g List.mem_cons_self
  exact hj.elim hg hne

lemma not_finishes (hx : (u ++ g :: v).Pairwise fun h g => Joined g h) (hv : v ≠ []) :
    ¬Finishes g (v ++ b) := by
  rintro ⟨hg, hb⟩
  obtain ⟨h, v, rfl⟩ := List.exists_cons_of_ne_nil hv
  have hne := hb h rfl
  have hj := (List.pairwise_cons.mp (List.pairwise_append.mp hx).2.1).1 h List.mem_cons_self
  exact hj.elim hg hne

end runs

section cuts

lemma byteLength_le_append (a c : List Text) :
    byteLength a.flatten ≤ byteLength (a ++ c).flatten := by
  rw [List.flatten_append, byteLength_append]
  exact Nat.le_add_right ..

lemma byteLength_lt_append (hl : clusters l = a ++ x ++ c) (hx : x ≠ []) :
    byteLength a.flatten < byteLength (a ++ x).flatten := by
  obtain ⟨g, x, rfl⟩ := List.exists_cons_of_ne_nil hx
  have hg := byteLength_pos_of_mem (l := l) (g := g) (by simp [hl])
  simp only [List.flatten_append, List.flatten_cons, byteLength_append]
  omega

lemma cluster_cases (h : x ++ rest = a ++ g :: b) :
    byteLength x.flatten ≤ byteLength a.flatten ∨ ∃ y, x = a ++ g :: y ∧ b = y ++ rest := by
  rcases List.append_eq_append_iff.mp h with ⟨y, rfl, -⟩ | ⟨y, rfl, hy⟩
  · exact .inl (byteLength_le_append x y)
  · cases y with
    | nil => exact .inl (by simp)
    | cons g' y =>
      obtain ⟨rfl, rfl⟩ := List.cons.inj hy
      exact .inr ⟨y, rfl, rfl⟩

lemma cluster_within {y : List Text} (h : a ++ x = b ++ g :: y) :
    byteLength (b ++ [g]).flatten ≤ byteLength a.flatten ∨
      ∃ w, b = a ++ w ∧ x = w ++ g :: y := by
  rcases List.append_eq_append_iff.mp h with ⟨w, rfl, rfl⟩ | ⟨w, rfl, hw⟩
  · exact .inr ⟨w, rfl, rfl⟩
  · cases w with
    | nil => exact .inr ⟨[], by simp, by simpa using hw.symm⟩
    | cons g' w =>
      obtain ⟨rfl, rfl⟩ := List.cons.inj hw
      rw [List.append_cons b g w]
      exact .inl (byteLength_le_append _ w)

lemma StartsAt.cut (hs : StartsAt l n) (hl : clusters l = x ++ rest) :
    byteLength x.flatten ≤ n ∨
      ∃ a g y, x = a ++ g :: y ∧ byteLength a.flatten = n ∧ Begins a g := by
  rcases hs with ⟨rfl, rfl⟩ | ⟨a, g, b, hab, rfl, hg⟩
  · obtain ⟨rfl, -⟩ := List.append_eq_nil_iff.mp hl.symm
    exact .inl (Nat.le_refl 0)
  · rcases cluster_cases (hl.symm.trans hab) with hle | ⟨y, rfl, -⟩
    · exact .inl hle
    · exact .inr ⟨a, g, y, rfl, rfl, hg⟩

lemma EndsAt.cut (hs : EndsAt l n) (hl : clusters l = x ++ rest) :
    byteLength x.flatten ≤ n ∨
      ∃ a g y, x = a ++ g :: y ∧ byteLength a.flatten = n ∧ Finishes g (y ++ rest) := by
  obtain ⟨a, g, b, hab, rfl, hg⟩ := hs
  rcases cluster_cases (hl.symm.trans hab) with hle | ⟨y, rfl, rfl⟩
  · exact .inl hle
  · exact .inr ⟨a, g, y, rfl, rfl, hg⟩

lemma OnWord.lt (hs : OnWord l n) : n < byteLength l := by
  obtain ⟨a, g, b, hab, rfl, -⟩ := hs
  rw [← byteLength_of_clusters hab]
  exact byteLength_lt_append (c := []) (by rw [hab, List.append_nil]) (List.cons_ne_nil g b)

lemma StartsAt.boundary (hs : StartsAt l n) : IsBoundary l n := by
  rcases hs with ⟨rfl, rfl⟩ | ⟨a, g, b, hab, rfl, -⟩
  · exact isBoundary_zero []
  · exact ⟨a, g :: b, hab, rfl⟩

lemma next_le (hb : IsBoundary l n) (hl : clusters l = a ++ c) (hn : byteLength a.flatten < n) :
    byteLength (a ++ c.take 1).flatten ≤ n := by
  obtain ⟨b, d, hbd, rfl⟩ := hb
  rcases List.append_eq_append_iff.mp (hl.symm.trans hbd) with ⟨w, rfl, rfl⟩ | ⟨w, rfl, -⟩
  · cases w with
    | nil => simp at hn
    | cons g w => simp
  · exact absurd hn (Nat.not_lt_of_le (byteLength_le_append b w))

lemma OnWord.boundary (hs : OnWord l n) : IsBoundary l n := by
  obtain ⟨a, g, b, hab, rfl, -⟩ := hs
  exact ⟨a, g :: b, hab, rfl⟩

lemma OnWord.le_dropLast (hs : OnWord l n) : n ≤ byteLength (clusters l).dropLast.flatten := by
  obtain ⟨a, g, b, hab, rfl, -⟩ := hs
  rw [hab, List.dropLast_append_cons]
  exact byteLength_le_append a _

lemma StartsAt.outside (hs : StartsAt l n) (hl : clusters l = a ++ x ++ rest)
    (hx : x.Pairwise Joined) :
    n ≤ byteLength a.flatten ∨ byteLength (a ++ x).flatten ≤ n := by
  rcases hs.cut hl with hle | ⟨b, g, y, hb, rfl, hg⟩
  · exact .inr hle
  · rcases cluster_within hb with hle | ⟨w, rfl, rfl⟩
    · exact .inl (Nat.le_trans (byteLength_le_append b [g]) hle)
    · obtain rfl : w = [] := by
        by_contra hw
        exact not_begins hx hw hg
      exact .inl (by simp)

lemma StartsAt.outside_blank (hs : StartsAt l n) (hl : clusters l = x ++ rest)
    (hx : ∀ g ∈ x, classOf g = .blank) : byteLength x.flatten ≤ n := by
  rcases hs.cut hl with hle | ⟨a, g, y, rfl, rfl, hg⟩
  · exact hle
  · exact absurd (hx g (by simp)) hg.1

lemma EndsAt.outside (hs : EndsAt l n) (hl : clusters l = a ++ x ++ z :: rest)
    (hx : (x ++ [z]).Pairwise fun h g => Joined g h) :
    n < byteLength a.flatten ∨ byteLength (a ++ x).flatten ≤ n := by
  rcases hs.cut hl with hle | ⟨b, g, y, hb, rfl, hg⟩
  · exact .inr hle
  · rcases cluster_within hb with hle | ⟨w, rfl, rfl⟩
    · refine .inl (Nat.lt_of_lt_of_le ?_ hle)
      exact byteLength_lt_append (l := l) (c := y ++ z :: rest) (by simp [hl, hb]) (by simp)
    · rw [List.append_assoc, List.cons_append] at hx
      rw [List.append_cons] at hg
      exact absurd hg (not_finishes hx (by simp))

lemma EndsAt.outside_blank (hs : EndsAt l n) (hl : clusters l = a ++ x)
    (hx : ∀ g ∈ x, classOf g = .blank) : n < byteLength a.flatten := by
  obtain ⟨b, g, y, hb, rfl, hg⟩ := hs
  rcases cluster_within (hl.symm.trans hb) with hle | ⟨w, rfl, rfl⟩
  · refine Nat.lt_of_lt_of_le ?_ hle
    exact byteLength_lt_append (l := l) (c := y) (by simp [hb]) (by simp)
  · exact absurd (hx g (by simp)) hg.1

end cuts

section scans

lemma dropClusters_append (ha : ∀ g ∈ a, g ≠ []) (c : List Text) :
    dropClusters (byteLength a.flatten) (a ++ c) = c ∧
      takeClusters (byteLength a.flatten) (a ++ c) = a := by
  induction a with
  | nil => cases c <;> exact ⟨rfl, rfl⟩
  | cons g a ih =>
    obtain ⟨hg, ha⟩ := List.forall_mem_cons.mp ha
    have hpos := Nat.pos_of_ne_zero (mt byteLength_eq_zero.mp hg)
    have hne : byteLength (g :: a).flatten ≠ 0 := by
      rw [List.flatten_cons, byteLength_append]
      omega
    rw [List.cons_append, dropClusters, takeClusters, if_neg hne, if_neg hne, List.flatten_cons,
      byteLength_append, if_pos (Nat.le_add_right ..), if_pos (Nat.le_add_right ..),
      Nat.add_sub_cancel_left, (ih ha).1, (ih ha).2]
    exact ⟨rfl, rfl⟩

lemma clustersFrom_of_clusters (hl : clusters l = a ++ c) :
    clustersFrom l (byteLength a.flatten) = c := by
  rw [clustersFrom, hl, (dropClusters_append (ne_nil_of_clusters hl) c).1]

lemma clustersTo_of_clusters (hl : clusters l = a ++ c) :
    clustersTo l (byteLength a.flatten) = a := by
  rw [clustersTo, hl, (dropClusters_append (ne_nil_of_clusters hl) c).2]

lemma startOf_of_clusters (hl : clusters l = a ++ c) : startOf l c = byteLength a.flatten := by
  rw [startOf, ← byteLength_of_clusters hl, List.flatten_append, byteLength_append,
    Nat.add_sub_cancel]

lemma dropWord_split (c : List Text) :
    ∃ x, c = x ++ dropBlanks (dropWord c) ∧ x.Pairwise Joined ∧
      ∀ g rest, dropBlanks (dropWord c) = g :: rest → x ≠ [] ∧ Begins x g := by
  cases c with
  | nil => exact ⟨[], rfl, .nil, nofun⟩
  | cons g gs =>
    obtain ⟨v, hv, hblank⟩ := exists_blanks (dropWord (g :: gs))
    by_cases hg : classOf g = .blank
    · rw [dropWord, if_pos hg] at hv ⊢
      refine ⟨v, hv, pairwise_joined (u := []) (k := .blank) nofun hblank, fun k rest hk => ?_⟩
      refine ⟨?_, begins_of_blank hblank (dropBlanks_head hk)⟩
      rintro rfl
      obtain ⟨rfl, -⟩ := List.cons.inj (hv.trans hk)
      exact dropBlanks_head hk hg
    · rw [dropWord, if_neg hg] at hv ⊢
      have hrun := takeRun_append_dropRun (g :: gs)
      refine ⟨takeRun (g :: gs) ++ v, ?_,
        pairwise_joined (fun h hh => classOf_of_takeRun hh) hblank, fun k rest hk => ⟨nofun, ?_⟩⟩
      · rw [List.append_assoc, ← hv, hrun]
      · have hkb := dropBlanks_head hk
        by_cases hvn : v = []
        · -- the next word begins right behind this one, as it is of another class
          have hhead : k ∈ (dropRun (g :: gs)).head? := by
            rw [hv, hvn, hk]
            rfl
          rw [hvn, List.append_nil]
          refine ⟨hkb, fun h hh => ?_⟩
          rw [classOf_of_takeRun (List.mem_of_getLast? hh)]
          exact (dropRun_head hhead).symm
        · exact (begins_behind_iff hvn).mpr (begins_of_blank hblank hkb)

lemma lastWord_some (hw : lastWord? a.reverse = some n) :
    ∃ u z v, a = u ++ z :: v ∧ byteLength u.flatten = n ∧ Begins u z ∧
      (z :: v).Pairwise Joined := by
  unfold lastWord? at hw
  split at hw
  · cases hw
  · rename_i hne
    obtain ⟨g, gs, hg⟩ := List.exists_cons_of_ne_nil hne
    obtain ⟨bl, hbl, hblank⟩ := exists_blanks a.reverse
    rw [hg] at hw hbl
    obtain ⟨z, v, hz⟩ := List.exists_cons_of_ne_nil (l := (takeRun (g :: gs)).reverse)
      (by simp [takeRun])
    have hclass : ∀ h ∈ z :: v, classOf h = classOf g := fun h hh =>
      classOf_of_takeRun (List.mem_reverse.mp (hz ▸ hh))
    have hzg := hclass z List.mem_cons_self
    have ha : a = (dropRun (g :: gs)).reverse ++ (z :: v ++ bl.reverse) := by
      rw [← List.reverse_inj, hbl, ← hz]
      simp [takeRun_append_dropRun]
    refine ⟨_, z, v ++ bl.reverse, ha, ?_, ⟨hzg ▸ dropBlanks_head hg, fun h hh => ?_⟩, ?_⟩
    · rw [byteLength_flatten_reverse]
      exact Option.some.inj hw
    · rw [List.getLast?_reverse] at hh
      exact hzg ▸ dropRun_head hh
    · exact pairwise_joined hclass (by simpa using hblank)

lemma lastWord_none (hw : lastWord? a.reverse = none) : ∀ g ∈ a, classOf g = .blank := by
  unfold lastWord? at hw
  split at hw
  · exact fun g hg => blank_of_dropBlanks ‹_› g (List.mem_reverse.mpr hg)
  · cases hw

lemma runEnd_of_clusters (hl : clusters l = a ++ c) (hc : dropBlanks c = g :: gs) :
    ∃ u z v, c = u ++ z :: v ∧ (u ++ [z]).Pairwise (fun h g => Joined g h) ∧ Finishes z v ∧
      runEnd l (g :: gs) = byteLength (a ++ u).flatten := by
  obtain ⟨bl, hbl, hblank⟩ := exists_blanks c
  rw [hc] at hbl
  have hrun : takeRun (g :: gs) ≠ [] := nofun
  have hlast := List.dropLast_concat_getLast hrun
  have hz := classOf_of_takeRun (List.getLast_mem hrun)
  have hstart : startOf l (g :: gs) = byteLength (a ++ bl).flatten :=
    startOf_of_clusters (by rw [hl, hbl, List.append_assoc])
  refine ⟨bl ++ (takeRun (g :: gs)).dropLast, _, dropRun (g :: gs), ?_, ?_,
    ⟨hz ▸ dropBlanks_head hc, fun h hh => hz ▸ dropRun_head hh⟩, ?_⟩
  · rw [List.append_cons _ _ (dropRun (g :: gs)), List.append_assoc bl, hlast, List.append_assoc,
      takeRun_append_dropRun, ← hbl]
  · rw [List.append_assoc, hlast]
    exact pairwise_joined_flip hblank fun h hh => classOf_of_takeRun hh
  · simp only [runEnd, hstart, takeRun, ← List.append_assoc, List.flatten_append,
      byteLength_append]

end scans

end Word

end ModalEdit
