import Mathlib.Data.List.TakeWhile
import Mathlib.Tactic.Common
import ModalEdit.Command.Pending
import ModalEdit.Command.Prefix

namespace ModalEdit

namespace Prefix

lemma takeCount_append {t : Text} (ht : (takeCount t).2 ≠ []) (s : Text) :
    takeCount (t ++ s) = ((takeCount t).1, (takeCount t).2 ++ s) := by
  cases t with
  | nil => exact absurd rfl ht
  | cons c cs =>
    simp only [takeCount, List.cons_append] at ht ⊢
    by_cases hc : opensCount c = true
    · simp only [hc, ↓reduceIte] at ht ⊢
      have hd : (List.dropWhile Char.isDigit (c :: cs)).isEmpty = false := by simpa using ht
      have hl : (List.takeWhile Char.isDigit (c :: cs)).length ≠ (c :: cs).length := by
        intro hl
        have := congrArg List.length (List.takeWhile_append_dropWhile (p := Char.isDigit)
          (l := c :: cs))
        rw [List.length_append, hl] at this
        exact ht (List.length_eq_zero_iff.mp (by omega))
      rw [← List.cons_append, List.takeWhile_append, List.dropWhile_append, if_neg hl, hd]
      simp
    · simp only [hc, Bool.false_eq_true, ↓reduceIte]
      rfl

@[simp] lemma split?_quote (r : Char) (t : Text) :
    split? ('"' :: r :: t) = some (⟨some r, (takeCount t).1⟩, (takeCount t).2) := rfl

lemma split?_plain {t : Text} (ht : t.head? ≠ some '"') :
    split? t = some (⟨none, (takeCount t).1⟩, (takeCount t).2) := by
  unfold split?
  split
  · simp at ht
  · simp at ht
  · rfl

lemma quoted_cases (t : Text) : t = ['"'] ∨ (∃ r u, t = '"' :: r :: u) ∨ t.head? ≠ some '"' := by
  match t with
  | [] => simp
  | [c] => by_cases hc : c = '"' <;> simp [hc]
  | c :: r :: u => by_cases hc : c = '"' <;> simp [hc]

lemma split?_append {t : Text} {p : Prefix} {body : Text} (ht : split? t = some (p, body))
    (hb : body ≠ []) (s : Text) : split? (t ++ s) = some (p, body ++ s) := by
  rcases quoted_cases t with rfl | ⟨r, u, rfl⟩ | hq
  · cases ht
  · rw [split?_quote] at ht
    cases ht
    rw [List.cons_append, List.cons_append, split?_quote, takeCount_append hb]
  · rw [split?_plain hq] at ht
    cases ht
    have hs : (t ++ s).head? ≠ some '"' := by
      cases t with
      | nil => exact absurd rfl hb
      | cons c cs => exact hq
    rw [split?_plain hs, takeCount_append hb]

lemma isDigit_of_opensCount {c : Char} (hc : opensCount c = true) : c.isDigit = true := by
  simp only [opensCount, Bool.and_eq_true] at hc
  exact hc.1

lemma takeCount_digits {t : Text} (ht : (takeCount t).2 = []) :
    t = [] ∨ (∃ c cs, t = c :: cs ∧ opensCount c = true) ∧ ∀ c ∈ t, c.isDigit = true := by
  cases t with
  | nil => exact .inl rfl
  | cons c cs =>
    simp only [takeCount] at ht
    by_cases hc : opensCount c = true
    · simp only [hc, ↓reduceIte] at ht
      exact .inr ⟨⟨c, cs, rfl, hc⟩, List.dropWhile_eq_nil_iff.mp ht⟩
    · simp [hc] at ht

lemma takeCount_concat {t : Text} (ht : (takeCount t).2 = []) (c : Char) :
    (takeCount (t ++ [c])).2 = [] ∨ takeCount (t ++ [c]) = ((takeCount t).1, [c]) := by
  rcases takeCount_digits ht with rfl | ⟨⟨d, ds, rfl, hd⟩, hds⟩
  · simp only [List.nil_append, takeCount]
    by_cases hc : opensCount c = true
    · have hd := isDigit_of_opensCount hc
      left
      simp [hc, hd]
    · right
      simp [hc]
  · have htake : List.takeWhile Char.isDigit (d :: ds) = d :: ds :=
      List.takeWhile_eq_self_iff.mpr hds
    have hdrop : List.dropWhile Char.isDigit (d :: ds) = [] := List.dropWhile_eq_nil_iff.mpr hds
    simp only [List.cons_append, takeCount, hd, ↓reduceIte]
    rw [← List.cons_append, List.takeWhile_append, List.dropWhile_append, htake, hdrop]
    by_cases hc : c.isDigit = true
    · left
      simp [hc]
    · right
      simp [hc]

lemma split?_concat {t body : Text} {c : Char} {p : Prefix}
    (h : split? (t ++ [c]) = some (p, body)) (hb : 1 < body.length) :
    ∃ b, split? t = some (p, b) ∧ b ≠ [] ∧ body = b ++ [c] := by
  have hcount : ∀ u : Text, (takeCount (u ++ [c])).2 = body → (takeCount u).2 ≠ [] := by
    intro u hu hn
    rcases takeCount_concat hn c with hc | hc <;> rw [hc] at hu <;> simp [← hu] at hb
  rcases quoted_cases t with rfl | ⟨r, u, rfl⟩ | hq
  · cases h
    simp [takeCount] at hb
  · rw [List.cons_append, List.cons_append, split?_quote] at h
    simp only [Option.some.injEq, Prod.mk.injEq] at h
    have hn := hcount u h.2
    rw [takeCount_append hn] at h
    exact ⟨_, by rw [split?_quote, ← h.1], hn, h.2.symm⟩
  · have hs : (t ++ [c]).head? ≠ some '"' := by
      cases t with
      | nil =>
        intro hc
        obtain rfl : c = '"' := by simpa using hc
        cases h
      | cons d ds => exact hq
    rw [split?_plain hs] at h
    simp only [Option.some.injEq, Prod.mk.injEq] at h
    have hn := hcount t h.2
    rw [takeCount_append hn] at h
    exact ⟨_, by rw [split?_plain hq, ← h.1], hn, h.2.symm⟩

lemma takeCount_append_of_not_digit {t : Text} (ht : (takeCount t).2 = []) {c : Char}
    (hc : c.isDigit = false) (s : Text) : takeCount (t ++ c :: s) = ((takeCount t).1, c :: s) := by
  have ht' : takeCount (t ++ [c]) = ((takeCount t).1, [c]) := by
    refine (takeCount_concat ht c).resolve_left fun hn => ?_
    rcases takeCount_digits hn with hn | ⟨-, hd⟩
    · simp at hn
    · exact absurd (hc.symm.trans (hd c (by simp))) nofun
  have ha := takeCount_append (t := t ++ [c]) (by rw [ht']; simp) s
  rw [ht'] at ha
  simpa using ha

lemma takeCount_of_digits {c : Char} {cs : Text} (hc : opensCount c = true)
    (hd : ∀ d ∈ c :: cs, d.isDigit = true) :
    takeCount (c :: cs) = (some (min (decimal (c :: cs)) countCap), []) := by
  rw [takeCount_cons, if_pos hc, List.takeWhile_eq_self_iff.mpr hd,
    List.dropWhile_eq_nil_iff.mpr hd]

lemma exists_count (t : Text) :
    ∃ ds, t = ds ++ (takeCount t).2 ∧ takeCount ds = ((takeCount t).1, []) := by
  cases t with
  | nil => exact ⟨[], rfl, rfl⟩
  | cons c cs =>
    by_cases hc : opensCount c = true
    · have hd := isDigit_of_opensCount hc
      have htake : (c :: cs).takeWhile Char.isDigit = c :: cs.takeWhile Char.isDigit :=
        List.takeWhile_cons_of_pos hd
      have hds : ∀ d ∈ c :: cs.takeWhile Char.isDigit, d.isDigit = true := fun d hd =>
        List.mem_takeWhile_imp (htake ▸ hd)
      refine ⟨c :: cs.takeWhile Char.isDigit, ?_, ?_⟩
      · simp only [takeCount, hc, ↓reduceIte]
        rw [← htake, List.takeWhile_append_dropWhile]
      · rw [takeCount_of_digits hc hds, ← htake, takeCount_cons, if_pos hc]
    · exact ⟨[], by simp [takeCount, hc], by simp [takeCount, hc]⟩

lemma exists_header {t body : Text} {p : Prefix} (h : split? t = some (p, body)) :
    ∃ q, t = q ++ body ∧ split? q = some (p, []) := by
  rcases quoted_cases t with rfl | ⟨r, u, rfl⟩ | hq
  · cases h
  · rw [split?_quote] at h
    cases h
    obtain ⟨ds, hu, hds⟩ := exists_count u
    exact ⟨'"' :: r :: ds, congrArg (['"', r] ++ ·) hu, by rw [split?_quote, hds]⟩
  · rw [split?_plain hq] at h
    cases h
    obtain ⟨ds, hu, hds⟩ := exists_count t
    refine ⟨ds, hu, ?_⟩
    rw [split?_plain, hds]
    cases ds with
    | nil => simp
    | cons d ds =>
      rw [hu] at hq
      exact hq

lemma split?_header_append {q : Text} {p : Prefix} (h : split? q = some (p, [])) {c : Char}
    (hc : c.isDigit = false) (hc' : c ≠ '"') (s : Text) :
    split? (q ++ c :: s) = some (p, c :: s) := by
  rcases quoted_cases q with rfl | ⟨r, u, rfl⟩ | hq
  · cases h
  · rw [split?_quote] at h
    simp only [Option.some.injEq, Prod.mk.injEq] at h
    rw [List.cons_append, List.cons_append, split?_quote,
      takeCount_append_of_not_digit h.2 hc, ← h.1]
  · rw [split?_plain hq] at h
    simp only [Option.some.injEq, Prod.mk.injEq] at h
    have hs : (q ++ c :: s).head? ≠ some '"' := by
      cases q with
      | nil => simpa using hc'
      | cons d ds => exact hq
    rw [split?_plain hs, takeCount_append_of_not_digit h.2 hc, ← h.1]

lemma mem_header {q : Text} {p : Prefix} (h : split? q = some (p, [])) :
    (∀ c ∈ q, c = '"' ∨ c.isDigit = true ∨ p.register = some c) ∧
      ∀ c, p.register = some c → c ∈ q := by
  have hcount : ∀ u : Text, (takeCount u).2 = [] → ∀ c ∈ u, c.isDigit = true := by
    intro u hu
    rcases takeCount_digits hu with rfl | ⟨-, hd⟩
    · simp
    · exact hd
  rcases quoted_cases q with rfl | ⟨r, u, rfl⟩ | hq
  · cases h
  · rw [split?_quote] at h
    simp only [Option.some.injEq, Prod.mk.injEq] at h
    obtain ⟨rfl, hu⟩ := h
    refine ⟨fun c hc => ?_, fun c hc => by simp_all⟩
    rcases List.mem_cons.mp hc with rfl | hc
    · exact .inl rfl
    · rcases List.mem_cons.mp hc with rfl | hc
      · exact .inr (.inr rfl)
      · exact .inr (.inl (hcount u hu c hc))
  · rw [split?_plain hq] at h
    simp only [Option.some.injEq, Prod.mk.injEq] at h
    obtain ⟨rfl, hu⟩ := h
    exact ⟨fun c hc => .inr (.inl (hcount q hu c hc)), fun c hc => nomatch hc⟩

lemma decimal_pos {c : Char} (hc : opensCount c = true) (ds : Text) : 0 < decimal (c :: ds) := by
  -- the first digit is not zero, and later ones only add to it
  have hgrow : ∀ (ds : Text) (n : Nat), 0 < n →
      0 < ds.foldl (fun n d => n * 10 + (d.toNat - 48)) n := by
    intro ds
    induction ds with
    | nil => exact fun n hn => hn
    | cons d ds ih =>
      intro n hn
      have hd : 0 < n * 10 + (d.toNat - 48) := by omega
      exact ih _ hd
  refine hgrow ds _ ?_
  simp only [opensCount, Char.isDigit, Bool.and_eq_true, decide_eq_true_eq, bne_iff_ne] at hc
  have hle : 48 ≤ c.toNat := UInt32.le_iff_toNat_le.mp hc.1.1
  have hne : c.toNat ≠ 48 := fun h => hc.2 (Char.ext (UInt32.toNat_inj.mp h))
  change 0 < 0 * 10 + (c.toNat - 48)
  omega

lemma takeCount_pos {t : Text} {n : Nat} (h : (takeCount t).1 = some n) : 0 < n := by
  cases t with
  | nil => cases h
  | cons c cs =>
    rw [takeCount_cons] at h
    split at h
    · rename_i hc
      have hd := isDigit_of_opensCount hc
      rw [List.takeWhile_cons_of_pos hd] at h
      have := decimal_pos hc (cs.takeWhile Char.isDigit)
      simp only [Option.some.injEq] at h
      rw [← h]
      exact Nat.lt_min.mpr ⟨this, by decide⟩
    · cases h

lemma exists_takeCount {t body : Text} {p : Prefix} (h : split? t = some (p, body)) :
    ∃ u, p.count = (takeCount u).1 := by
  unfold split? at h
  split at h <;> cases h <;> exact ⟨_, rfl⟩

lemma countOrOne_pos {t body : Text} {p : Prefix} (h : split? t = some (p, body)) :
    0 < p.countOrOne := by
  obtain ⟨u, hu⟩ := exists_takeCount h
  unfold countOrOne
  cases hn : p.count with
  | none => exact Nat.one_pos
  | some n => exact takeCount_pos (hu ▸ hn)

end Prefix

def Headed (t : Text) : Prop := ∀ p body, Prefix.split? t = some (p, body) → body = []

lemma Headed.of_append {t s : Text} (h : Headed (t ++ s)) : Headed t := by
  intro p body hs
  by_contra hb
  have hn := h _ _ (Prefix.split?_append hs hb s)
  simp [hb] at hn

def macroBody? (t : Text) : Option (Text × Nat) :=
  match Prefix.split? t with
  | none => none
  | some (p, body) => if isMacroBody body then some (body, p.countOrOne) else none

lemma macroBody?_eq_some {t body : Text} {times : Nat} : macroBody? t = some (body, times) ↔
    ∃ p, Prefix.split? t = some (p, body) ∧ isMacroBody body = true ∧ p.countOrOne = times := by
  unfold macroBody?
  constructor
  · intro h
    split at h
    · cases h
    · rename_i p b hs
      split at h
      · cases h
        exact ⟨p, hs, ‹_›, rfl⟩
      · cases h
  · rintro ⟨p, hs, hb, rfl⟩
    simp [hs, hb]

lemma any_isMacroBody (t : Text) :
    ((Prefix.split? t).any fun (_, body) => isMacroBody body) = (macroBody? t).isSome := by
  unfold macroBody?
  cases Prefix.split? t with
  | none => rfl
  | some x =>
    obtain ⟨p, body⟩ := x
    cases hm : isMacroBody body <;> simp [hm]

lemma macroBody?_ne_zero {t body : Text} {times : Nat} (h : macroBody? t = some (body, times)) :
    times ≠ 0 := by
  obtain ⟨p, hs, -, rfl⟩ := macroBody?_eq_some.mp h
  exact Nat.pos_iff_ne_zero.mp (Prefix.countOrOne_pos hs)

lemma macroBody?_append {t body : Text} {times : Nat} (ht : macroBody? t = some (body, times))
    (s : Text) : macroBody? (t ++ s) = some (body ++ s, times) := by
  obtain ⟨p, hs, hb, rfl⟩ := macroBody?_eq_some.mp ht
  cases body with
  | nil => cases hb
  | cons c cs => exact macroBody?_eq_some.mpr ⟨p, Prefix.split?_append hs (by simp) s, hb, rfl⟩

lemma macroBody?_concat {t body : Text} {c : Char} {times : Nat}
    (h : macroBody? (t ++ [c]) = some (body, times)) (hb : 1 < body.length) :
    ∃ b, macroBody? t = some (b, times) ∧ body = b ++ [c] := by
  obtain ⟨p, hs, hm, rfl⟩ := macroBody?_eq_some.mp h
  obtain ⟨b, hs', hn, rfl⟩ := Prefix.split?_concat hs hb
  refine ⟨b, macroBody?_eq_some.mpr ⟨p, hs', ?_, rfl⟩, rfl⟩
  cases b with
  | nil => exact absurd rfl hn
  | cons d ds => exact hm

lemma split?_of_isLine {t : Text} (h : (CommandKind.ofText t).isLine = true) :
    Prefix.split? t = some (⟨none, none⟩, t) := by
  unfold CommandKind.ofText at h
  split at h
  · cases h
  · rfl
  · rfl
  · rfl
  · rfl
  · rfl
  · cases h

lemma macroBody?_of_isLine {t : Text} (h : (CommandKind.ofText t).isLine = true) :
    macroBody? t = none := by
  unfold macroBody?
  rw [split?_of_isLine h]
  unfold CommandKind.ofText at h
  split at h
  · cases h
  · rfl
  · rfl
  · rfl
  · rfl
  · rfl
  · cases h

lemma Headed.not_isLine {t : Text} (h : Headed t) : (CommandKind.ofText t).isLine = false := by
  rw [← Bool.not_eq_true]
  intro hl
  rw [h _ _ (split?_of_isLine hl)] at hl
  cases hl

lemma isLine_append {t : Text} (h : (CommandKind.ofText t).isLine = true) (s : Text) :
    (CommandKind.ofText (t ++ s)).isLine = true := by
  unfold CommandKind.ofText at h
  split at h
  · cases h
  · rfl
  · rfl
  · rfl
  · rfl
  · rfl
  · cases h

end ModalEdit
