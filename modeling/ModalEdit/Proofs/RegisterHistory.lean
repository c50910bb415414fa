import Mathlib.Tactic.Common
import ModalEdit.Surface.Registers

namespace ModalEdit

namespace RegisterName

variable {c l : Char} {i : Nat}

section ranges

lemma toNat_of_isLower (hc : c.isLower = true) : 97 ≤ c.toNat ∧ c.toNat ≤ 122 := by
  delta Char.isLower at hc
  simpa [UInt32.le_iff_toNat_le] using hc

lemma toNat_of_isUpper (hc : c.isUpper = true) : 65 ≤ c.toNat ∧ c.toNat ≤ 90 := by
  delta Char.isUpper at hc
  simpa [UInt32.le_iff_toNat_le] using hc

variable {P : Char → Prop} {m n : Nat}

lemma of_range (h : ∀ k ≤ n, m ≤ k → P (Char.ofNat k)) (hc : m ≤ c.toNat ∧ c.toNat ≤ n) : P c := by
  simpa using h c.toNat hc.2 hc.1

lemma of_isLower (h : ∀ k ≤ 122, 97 ≤ k → P (Char.ofNat k)) (hc : c.isLower = true) : P c :=
  of_range h (toNat_of_isLower hc)

end ranges

lemma ofChar?_digit (hi : i < 10) : ofChar? (Nat.digitChar i) = some (.digit i) := by
  have hall : ∀ i < 10, ofChar? (Nat.digitChar i) = some (.digit i) := by decide
  exact hall i hi

lemma ofChar?_lower (hl : l.isLower = true) : ofChar? l = some (.letter l) :=
  of_isLower (P := fun l => ofChar? l = some (.letter l)) (by decide) hl

lemma ofChar?_upper (hl : l.isLower = true) : ofChar? l.toUpper = some (.append l) :=
  of_isLower (P := fun l => ofChar? l.toUpper = some (.append l)) (by decide) hl

lemma ofChar?_other (hq : c ≠ '"') (hc : c.isAlphanum = false) : ofChar? c = none := by
  delta Char.isAlphanum Char.isAlpha at hc
  simp only [Bool.or_eq_false_iff] at hc
  simp [ofChar?, hq, hc]

lemma toLower_letter (hl : l.isLower = true) : l.toLower = l ∧ l.toUpper.toLower = l :=
  of_isLower (P := fun l => l.toLower = l ∧ l.toUpper.toLower = l) (by decide) hl

@[elab_as_elim]
theorem charCases {P : Char → Prop} (quote : P '"') (digit : ∀ i < 10, P (Nat.digitChar i))
    (lower : ∀ l : Char, l.isLower = true → P l)
    (upper : ∀ l : Char, l.isLower = true → P l.toUpper)
    (other : ∀ c : Char, c ≠ '"' → c.isAlphanum = false → P c) (c : Char) : P c := by
  by_cases hq : c = '"'
  · exact hq ▸ quote
  · cases hc : c.isAlphanum with
    | false => exact other c hq hc
    | true =>
      delta Char.isAlphanum Char.isAlpha at hc
      simp only [Bool.or_eq_true] at hc
      rcases hc with (hu | hl) | hd
      · obtain ⟨hl, hup⟩ : c.toLower.isLower = true ∧ c.toLower.toUpper = c :=
          of_range (P := fun c => c.toLower.isLower = true ∧ c.toLower.toUpper = c) (by decide)
            (toNat_of_isUpper hu)
        exact hup ▸ upper c.toLower hl
      · exact lower c hl
      · obtain ⟨hi, hdigit⟩ : c.toNat - 48 < 10 ∧ Nat.digitChar (c.toNat - 48) = c :=
          of_range (P := fun c => c.toNat - 48 < 10 ∧ Nat.digitChar (c.toNat - 48) = c) (by decide)
            (Char.isDigit_iff_toNat.mp hd)
        exact hdigit ▸ digit _ hi

end RegisterName

namespace Registers

open RegisterName

variable {r : Registers} {c l : Char} {i k : Nat} {t : Text} {ws : List (Char × Text)}

section one

lemma set_digit (hi : i < 10) (r : Registers) (t : Text) :
    r.set (Nat.digitChar i) t = { r.setNumbered i t with unnamed := t } := by
  rw [set, set?, ofChar?_digit hi]
  rfl

lemma set_lower (hl : l.isLower = true) (r : Registers) (t : Text) :
    r.set l t = { r.setLetter l t with unnamed := t } := by
  rw [set, set?, ofChar?_lower hl]
  rfl

lemma set_upper (hl : l.isLower = true) (r : Registers) (t : Text) :
    r.set l.toUpper t = { r.setLetter l (r.letters l ++ t) with unnamed := t } := by
  rw [set, set?, ofChar?_upper hl]
  rfl

lemma set_other (hq : c ≠ '"') (hc : c.isAlphanum = false) (r : Registers) (t : Text) :
    r.set c t = r := by
  rw [set, set?, ofChar?_other hq hc]
  rfl

lemma get?_digit (hi : i < 10) (r : Registers) : r.get? (Nat.digitChar i) = r.numbered[i]? := by
  rw [get?, ofChar?_digit hi]

lemma get?_lower (hl : l.isLower = true) (r : Registers) : r.get? l = some (r.letters l) := by
  rw [get?, ofChar?_lower hl]

lemma get?_upper (hl : l.isLower = true) (r : Registers) :
    r.get? l.toUpper = some (r.letters l) := by
  rw [get?, ofChar?_upper hl]

def isRegister (c : Char) : Bool := c == '"' || c.isAlphanum

lemma isSome_ofChar? (c : Char) : (ofChar? c).isSome = isRegister c := by
  induction c using charCases with
  | quote => rfl
  | digit i hi =>
    have hall : ∀ i < 10, (ofChar? (Nat.digitChar i)).isSome = isRegister (Nat.digitChar i) := by
      decide
    exact hall i hi
  | lower l hl => exact of_isLower (P := fun l => (ofChar? l).isSome = isRegister l) (by decide) hl
  | upper l hl =>
    exact of_isLower (P := fun l => (ofChar? l.toUpper).isSome = isRegister l.toUpper) (by decide) hl
  | other c hq hc => simp [ofChar?_other hq hc, isRegister, hq, hc]

lemma isSome_set? (r : Registers) (c : Char) (t : Text) : (r.set? c t).isSome = isRegister c := by
  rw [← isSome_ofChar?, set?]
  cases ofChar? c with
  | none => rfl
  | some name => cases name <;> rfl

lemma set_unnamed (r : Registers) (c : Char) (t : Text) :
    (r.set c t).unnamed = if isRegister c then t else r.unnamed := by
  rw [← isSome_ofChar?, set, set?]
  cases ofChar? c with
  | none => rfl
  | some name => cases name <;> rfl

lemma set_letters_of_ne (hl : c ≠ l) (hu : c ≠ l.toUpper) (r : Registers) (t : Text) :
    (r.set c t).letters l = r.letters l := by
  induction c using charCases with
  | quote => rfl
  | digit i hi => rw [set_digit hi, setNumbered]
  | lower m hm =>
    rw [set_lower hm]
    exact if_neg (Ne.symm hl)
  | upper m hm =>
    rw [set_upper hm]
    exact if_neg fun he : l = m => hu (he ▸ rfl)
  | other c hq hc => rw [set_other hq hc]

lemma set_letters (hl : l.isLower = true) (hc : c ≠ l) (r : Registers) (t : Text) :
    (r.set c t).letters l = r.letters l ++ if c == l.toUpper then t else [] := by
  by_cases hu : c = l.toUpper
  · subst hu
    simp [set_upper hl, setLetter]
  · simp [set_letters_of_ne hc hu, hu]

lemma set_numbered (hd : c.isDigit = false) (r : Registers) (t : Text) :
    (r.set c t).numbered = if c == '"' then (t :: r.numbered).take ringSize else r.numbered := by
  induction c using charCases with
  | quote => rfl
  | digit i hi =>
    rw [Nat.isDigit_digitChar, decide_eq_true hi] at hd
    cases hd
  | lower l hl =>
    have hq : l ≠ '"' := of_isLower (P := (· ≠ '"')) (by decide) hl
    rw [set_lower hl, setLetter, if_neg (by simpa using hq)]
  | upper l hl =>
    have hq : l.toUpper ≠ '"' := of_isLower (P := (·.toUpper ≠ '"')) (by decide) hl
    rw [set_upper hl, setLetter, if_neg (by simpa using hq)]
  | other c hq hc => rw [set_other hq hc, if_neg (by simpa using hq)]

lemma length_setNumbered (r : Registers) (i : Nat) (t : Text) :
    (r.setNumbered i t).numbered.length = max r.numbered.length (i + 1) := by
  simp only [setNumbered, List.length_set, List.length_append, List.length_replicate]
  omega

lemma getElem?_setNumbered (hne : i ≠ k) (hk : k < r.numbered.length) (t : Text) :
    (r.setNumbered i t).numbered[k]? = r.numbered[k]? := by
  rw [setNumbered, List.getElem?_set_ne hne, List.getElem?_append_left hk]

lemma set_length (hr : r.numbered.length ≤ ringSize) (c : Char) (t : Text) :
    (r.set c t).numbered.length ≤ ringSize := by
  induction c using charCases with
  | quote => exact List.length_take_le ..
  | digit i hi =>
    rw [set_digit hi, length_setNumbered]
    exact Nat.max_le.mpr ⟨hr, hi⟩
  | lower l hl => rwa [set_lower hl, setLetter]
  | upper l hl => rwa [set_upper hl, setLetter]
  | other c hq hc => rwa [set_other hq hc]

lemma set_getElem? (hq : c ≠ '"') (hc : c ≠ Nat.digitChar k) (hk : k < r.numbered.length)
    (t : Text) : (r.set c t).numbered[k]? = r.numbered[k]? := by
  induction c using charCases with
  | quote => exact absurd rfl hq
  | digit i hi =>
    rw [set_digit hi]
    exact getElem?_setNumbered (fun he => hc (congrArg Nat.digitChar he)) hk t
  | lower l hl => rw [set_lower hl, setLetter]
  | upper l hl => rw [set_upper hl, setLetter]
  | other c hq hc' => rw [set_other hq hc']

lemma get?_set_of_ne {d : Char} (hc : c.isAlphanum = true) (hd : d.isAlphanum = true)
    (hne : c.toLower ≠ d.toLower) (hp : (r.get? d).isSome = true) (t : Text) :
    (r.set c t).get? d = r.get? d := by
  have hcd : c ≠ d := fun he => hne (he ▸ rfl)
  induction d using charCases with
  | quote => cases hd
  | digit k hk =>
    rw [get?_digit hk] at hp ⊢
    have hq : c ≠ '"' := by
      rintro rfl
      cases hc
    rw [get?_digit hk, set_getElem? hq hcd (by simpa using hp)]
  | lower l hl =>
    have hu : c ≠ l.toUpper := by
      rintro rfl
      exact hne ((toLower_letter hl).2.trans (toLower_letter hl).1.symm)
    rw [get?_lower hl, get?_lower hl, set_letters_of_ne hcd hu]
  | upper l hl =>
    have hl' : c ≠ l := by
      rintro rfl
      exact hne ((toLower_letter hl).1.trans (toLower_letter hl).2.symm)
    rw [get?_upper hl, get?_upper hl, set_letters_of_ne hl' hcd]
  | other d hq hd' =>
    rw [hd'] at hd
    cases hd

end one

def setAll (r : Registers) (ws : List (Char × Text)) : Registers :=
  ws.foldl (fun r w => r.set w.1 w.2) r

def textsOf (p : Char → Bool) (ws : List (Char × Text)) : List Text :=
  (ws.filter fun w => p w.1).map Prod.snd

section run

lemma setAll_append (r : Registers) (ws ws' : List (Char × Text)) :
    r.setAll (ws ++ ws') = (r.setAll ws).setAll ws' := List.foldl_append

lemma textsOf_cons (p : Char → Bool) (c : Char) (t : Text) (ws : List (Char × Text)) :
    textsOf p ((c, t) :: ws) = if p c then t :: textsOf p ws else textsOf p ws := by
  cases hp : p c <;> simp [textsOf, hp]

lemma setAll_unnamed (r : Registers) (ws : List (Char × Text)) :
    (r.setAll ws).unnamed = (textsOf isRegister ws).getLast?.getD r.unnamed := by
  induction ws generalizing r with
  | nil => rfl
  | cons w ws ih =>
    obtain ⟨c, t⟩ := w
    rw [textsOf_cons]
    refine (ih (r.set c t)).trans ?_
    rw [set_unnamed]
    split
    · rw [List.getLast?_cons, Option.getD_some]
    · rfl

lemma setAll_letters (hl : l.isLower = true) (h : ∀ w ∈ ws, w.1 ≠ l) (r : Registers) :
    (r.setAll ws).letters l = r.letters l ++ (textsOf (· == l.toUpper) ws).flatten := by
  induction ws generalizing r with
  | nil => exact (List.append_nil _).symm
  | cons w ws ih =>
    obtain ⟨c, t⟩ := w
    obtain ⟨hc, hws⟩ := List.forall_mem_cons.mp h
    rw [textsOf_cons]
    refine (ih hws (r.set c t)).trans ?_
    rw [set_letters hl hc]
    split <;> simp

lemma setAll_numbered (h : ∀ w ∈ ws, w.1.isDigit = false) (hr : r.numbered.length ≤ ringSize) :
    (r.setAll ws).numbered =
      ((textsOf (· == '"') ws).reverse ++ r.numbered).take ringSize := by
  induction ws generalizing r with
  | nil => exact (List.take_of_length_le hr).symm
  | cons w ws ih =>
    obtain ⟨c, t⟩ := w
    obtain ⟨hc, hws⟩ := List.forall_mem_cons.mp h
    rw [textsOf_cons]
    refine (ih hws (set_length hr c t)).trans ?_
    rw [set_numbered hc]
    split
    · simp [List.take_append, List.take_take]
    · rfl

lemma setAll_length (hr : r.numbered.length ≤ ringSize) (ws : List (Char × Text)) :
    (r.setAll ws).numbered.length ≤ ringSize := by
  induction ws generalizing r with
  | nil => exact hr
  | cons w ws ih => exact ih (set_length hr w.1 w.2)

end run

/-- After any writes the unnamed register holds the last text that was accepted; a letter's register
the last text written under its small letter, and behind it those written since under its capital
one; a digit's register, if no digit was written itself, the text that went to the unnamed register
so many writes ago. The ring has ten entries at most, other characters are refused, and a write to a
letter or a digit leaves the others as they are. -/
theorem setAll_history (ws : List (Char × Text)) :
    let r := setAll {} ws
    r.get? '"' = some ((textsOf isRegister ws).getLast?.getD []) ∧
      (∀ l : Char, l.isLower = true →
        r.get? l.toUpper = r.get? l ∧
        ((∀ w ∈ ws, w.1 ≠ l) → r.get? l = some (textsOf (· == l.toUpper) ws).flatten) ∧
        ∀ before t after, ws = before ++ (l, t) :: after → (∀ w ∈ after, w.1 ≠ l) →
          r.get? l = some (t ++ (textsOf (· == l.toUpper) after).flatten)) ∧
      ((∀ w ∈ ws, w.1.isDigit = false) → ∀ k < 10,
        r.get? (Nat.digitChar k) = (textsOf (· == '"') ws).reverse[k]?) ∧
      r.numbered.length ≤ 10 ∧
      (∀ c t, (r.set? c t).isSome = isRegister c ∧ (isRegister c = false → r.set c t = r)) ∧
      ∀ c d t, c.isAlphanum = true → d.isAlphanum = true → c.toLower ≠ d.toLower →
        (r.get? d).isSome = true → (r.set c t).get? d = r.get? d := by
  intro r
  refine ⟨congrArg some (setAll_unnamed {} ws), fun l hl => ⟨?_, fun h => ?_, ?_⟩, fun h k hk => ?_,
    setAll_length (Nat.zero_le _) ws, fun c t => ⟨isSome_set? r c t, fun hc => ?_⟩, ?_⟩
  · rw [get?_upper hl, get?_lower hl]
  · exact (get?_lower hl r).trans (congrArg some (setAll_letters hl h {}))
  · rintro before t after rfl h
    have hr : r = ((setAll {} before).set l t).setAll after := setAll_append {} before _
    rw [get?_lower hl, hr, setAll_letters hl h, set_lower hl]
    simp [setLetter]
  · have hring := setAll_numbered (r := {}) h (Nat.zero_le _)
    rw [get?_digit hk, hring, List.append_nil]
    exact List.getElem?_take_of_lt hk
  · simp only [isRegister, Bool.or_eq_false_iff, beq_eq_false_iff_ne] at hc
    exact set_other hc.1 hc.2 r t
  · exact fun c d t hc hd hne hp => get?_set_of_ne hc hd hne hp t

theorem sample_setAll_history :
    let ws := [('B', ['u']), ('a', ['v']), ('A', ['x']), ('"', ['1']), ('%', ['z']), ('"', ['2'])]
    let r := setAll {} ws
    r.get? '"' = some ['2'] ∧ (r.get? 'B' = some ['u'] ∧ r.get? 'a' = some ['v', 'x']) ∧
      (r.get? '0' = some ['2'] ∧ r.get? '1' = some ['1'] ∧ r.get? '2' = none) ∧
      r.set '%' ['z'] = r ∧ (r.set '5' ['5']).get? '1' = some ['1'] ∧
      (r.set 'C' ['c']).get? 'a' = some ['v', 'x'] := by
  intro ws r
  obtain ⟨hlast, hletter, hdigit, -, hname, hother⟩ := setAll_history ws
  obtain ⟨hcase, hsmall, -⟩ := hletter 'b' (by decide)
  obtain ⟨-, -, hafter⟩ := hletter 'a' (by decide)
  have hb := hcase.trans (hsmall (by decide))
  have ha := hafter [('B', ['u'])] ['v'] (ws.drop 2) rfl (by decide)
  have hone := hdigit (by decide) 1 (by decide)
  refine ⟨hlast, ⟨hb, ha⟩, ⟨hdigit (by decide) 0 (by decide), hone, hdigit (by decide) 2 (by decide)⟩,
    (hname '%' ['z']).2 rfl, ?_, ?_⟩
  · exact (hother '5' '1' ['5'] rfl rfl (by decide) (Option.isSome_of_eq_some hone)).trans hone
  · exact (hother 'C' 'a' ['c'] rfl rfl (by decide) (Option.isSome_of_eq_some ha)).trans ha

end Registers

end ModalEdit
