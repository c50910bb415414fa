import Mathlib.Data.List.Infix
import ModalEdit.Proofs.Inserting

/-! Insertions with a count. What was typed is recorded beside the text and repeated at the end of
the insertion. An erasing key takes a cluster from the text, but only a character from the record. -/

namespace ModalEdit

open Text

section record

variable {s : Surface} {x y v w r : Text} {c : Char} {ks : Text} {n : Nat}

@[simp] lemma copies_nil (n : Nat) : copies n [] = [] := by simp [copies]

lemma length_copies (n : Nat) (t : Text) : (copies n t).length = n * t.length := by
  simp [copies]

lemma Surface.Between.finish_text (h : s.Between x y v) (t : Typing) :
    (t.finish .insert s).text = x ++ (v ++ (copies (t.count - 1) t.text ++ y)) := by
  rw [Typing.finish, if_neg (by decide), Surface.stepBack_text, Typing.repeatByCount]
  split
  · have hi := Surface.insert_between (s := s) (p := s.cursor) (a := x ++ v) (b := y)
      (by rw [h.text, List.append_assoc]) h.offset (copies (t.count - 1) t.text)
    rw [List.append_assoc] at hi
    exact hi
  · rename_i hc
    have hnil : copies (t.count - 1) t.text = [] := by
      by_cases ht : t.text = []
      · rw [ht, copies_nil]
      · have hone : ¬1 < t.count := fun h => hc ⟨h, ht⟩
        rw [show t.count - 1 = 0 by omega]
        rfl
    rw [h.text, hnil, List.nil_append]

namespace Surface

lemma Between.typeKey (h : s.Between x y v) (r : Text)
    (hk : ∃ u, (typeKey (s, r) c).1.text = x ++ (u ++ y)) :
    (∃ d, isErasing c = false ∧ (typeKey (s, r) c).1.Between x y (v ++ [d]) ∧
      (typeKey (s, r) c).2 = r ++ [d]) ∨
    (isErasing c = true ∧ Surface.typeKey (s, r) c = (s, r)) ∨
    (∃ u w, isErasing c = true ∧ v = u ++ w ∧ w ≠ [] ∧ (typeKey (s, r) c).1.Between x y u ∧
      (typeKey (s, r) c).2 = r.dropLast) := by
  cases hc : isErasing c with
  | false =>
    have hd : '\r' ∉ [if c = '\r' then '\n' else c] := by
      rw [List.mem_singleton]
      split_ifs with hr
      · decide
      · exact Ne.symm hr
    refine .inl ⟨_, rfl, ?_, by simp only [Surface.typeKey, hc]; rfl⟩
    simp only [Surface.typeKey, hc]
    exact h.insert hd
  | true =>
    by_cases hb : s.cursor.byte = 0
    · exact .inr (.inl ⟨rfl, by simp only [Surface.typeKey, hc, hb, ↓reduceIte]⟩)
    · obtain ⟨a, w, haw, hw, he⟩ := h.erase (Nat.pos_of_ne_zero hb)
      simp only [Surface.typeKey, hc, hb, ↓reduceIte] at hk ⊢
      obtain ⟨u, hu⟩ := hk
      have ha : a = x ++ u := by
        rw [he.text, List.nil_append, ← List.append_assoc] at hu
        exact List.append_cancel_right hu
      subst ha
      have hv : v = u ++ w := by
        rw [List.append_assoc] at haw
        exact List.append_cancel_left haw
      refine .inr (.inr ⟨u, w, trivial, hv, hw, ⟨?_, ?_, ?_⟩, trivial⟩)
      · rw [he.text, List.nil_append, List.append_assoc]
      · simpa using he.ends
      · simpa using he.plain

end Surface

end record

namespace Insertion

variable {i : Insertion} {key : Char} {s : Surface}

lemma typable_key (h : ofKey? key = some i) : Typable key := by
  unfold ofKey? at h
  split at h <;> cases h <;> decide

lemma prepare_eq (hi : i.repeats = true) (s : Surface) (count : Nat) :
    ∃ p, i.prepare s count = s.setCursor p := by
  cases i <;> cases hi <;> exact ⟨_, rfl⟩

lemma prepare_count (hi : i.repeats = true) (s : Surface) (count count' : Nat) :
    i.prepare s count = i.prepare s count' := by
  cases i <;> cases hi <;> rfl

end Insertion

lemma Command.parse_insert {i : Insertion} {key : Char} {q : Text} {p : Prefix}
    (hq : Prefix.split? q = some (p, [])) (hk : Insertion.ofKey? key = some i) :
    parse false (q ++ [key]) = .complete (.insert i p.countOrOne) := by
  have hkey : key.isDigit = false ∧ key ≠ '"' ∧
      parseBody false p [key] = .complete (.insert i p.countOrOne) := by
    unfold Insertion.ofKey? at hk
    split at hk <;> cases hk <;> exact ⟨rfl, by decide, rfl⟩
  obtain ⟨hdigit, hquote, hbody⟩ := hkey
  rw [parse_of_split (Prefix.split?_header_append hq hdigit hquote []), hbody]

namespace Engine

variable {e : Engine} {h : Host} {s : Surface} {i : Insertion} {key : Char} {q ks x y : Text}
  {p : Prefix}

lemma insert_inserts {text : Text} {count : Nat} (hm : e.mode = .normal)
    (hs : e.surface? = some s) (hu : Unlocked h s)
    (ht : Trigger.classify? .normal text = some .insert) :
    (e.insert h s i count text).1.Inserts .insert (i.prepare s count)
      { count := if i.repeats then count else 1, overwrite := i == .overwrite } := by
  have hr : e.isReadonly h = false := by simpa [isReadonly, hs, Unlocked] using hu
  have hr' : (e.putSurface (i.prepare s count)).isReadonly h = false := by
    rw [isReadonly_putSurface hs, Surface.readonly_eq (outline_prepare i s count)]
    exact hu
  have hm' : (e.putSurface (i.prepare s count)).mode ≠ .insert := by
    rw [putSurface_mode, hm]
    decide
  have hx := editor_enter_insert hm' none
  have hc : (e.putSurface (i.prepare s count)).changeMode h text none =
      ((e.putSurface (i.prepare s count)).enter .insert none, true) := by
    rw [changeMode_eq (t := .insert) (by rwa [putSurface_mode, hm]), putSurface_mode, hm, hr']
    rfl
  simp only [insert, hr, Bool.false_eq_true, ↓reduceIte, hc]
  refine ⟨congrArg Editor.mode hx, ?_, ?_⟩
  · have hsurface := congrArg Editor.surface? hx
    exact hsurface.trans (surface?_putSurface hs)
  · have htyping := congrArg Editor.typing hx
    simp only [editor, Editor.turned] at htyping
    simp [htyping]

lemma type_insert (hm : e.mode = .normal) (hs : e.surface? = some s) (hu : Unlocked h s)
    (hp : e.pending.text = []) (hq : Prefix.split? q = some (p, [])) (hk : ∀ k ∈ q, Typable k)
    (hi : Insertion.ofKey? key = some i) :
    (e.type h (q ++ [key])).1.Inserts .insert (i.prepare s p.countOrOne)
      { count := if i.repeats then p.countOrOne else 1, overwrite := i == .overwrite } := by
  have hparse := Command.parse_insert hq hi
  have hkeys : ∀ k ∈ q ++ [key], Typable k := by
    intro k hmem
    rcases List.mem_append.mp hmem with hmem | hmem
    · exact hk k hmem
    · exact List.mem_singleton.mp hmem ▸ Insertion.typable_key hi
  have heditor :=
    editor_type_of_complete (h := h) (by rw [hm]; rfl) hs (by simp [hp]) (by simp) hkeys
    (c := .insert i p.countOrOne) (by rw [hm, hp]; exact hparse)
  rw [hp] at heditor
  exact inserts_of_editor (insert_inserts (e := e.clearPending) hm hs hu
    (Command.classify?_of_parse (m := .normal) rfl hparse nofun).1) heditor.1

lemma Inserts.textAfter_eq {e' : Engine} {typing typing' : Typing}
    (he : e.Inserts .insert s typing) (he' : e'.Inserts .insert s typing')
    (ho : typing.overwrite = false) (ho' : typing'.overwrite = false)
    (ht : typing'.text = typing.text) (hx : escapeKey ∉ ks) :
    e.textAfter h ks = e'.textAfter h ks := by
  induction ks generalizing e e' s typing typing' with
  | nil =>
    change e.surface?.map _ = e'.surface?.map _
    rw [he.surface, he'.surface]
  | cons c ks ih =>
    have hc := (List.ne_of_not_mem_cons hx).symm
    have hk' := he'.key (h := h) rfl ho' hc
    rw [ht] at hk'
    simp only [Engine.textAfter, type_cons]
    exact ih (he.key rfl ho hc) hk' ho ho' rfl (List.not_mem_of_not_mem_cons hx)

/-- Between the keys, `x` and `y` stay around what was typed. -/
def ErasesWithin (e : Engine) (h : Host) (x y ks : Text) : Prop :=
  ∀ ks', ks' <+: ks → ∃ v, e.textAfter h ks' = some (x ++ (v ++ y))

def ErasesSingly (e : Engine) (h : Host) (ks : Text) : Prop :=
  ∀ ks' k t t', ks' ++ [k] <+: ks → isErasing k = true → e.textAfter h ks' = some t →
    e.textAfter h (ks' ++ [k]) = some t' → t.length ≤ t'.length + 1

lemma erasesSingly_congr {e' : Engine}
    (ht : ∀ ks', ks' <+: ks → e.textAfter h ks' = e'.textAfter h ks') :
    e.ErasesSingly h ks ↔ e'.ErasesSingly h ks := by
  refine forall₄_congr fun ks' k t t' => imp_congr_right fun hk => ?_
  rw [ht _ hk, ht _ ((List.prefix_append ..).trans hk)]

lemma ErasesWithin.back {c : Char} (hk : e.ErasesWithin h x y (ks ++ [c])) :
    e.ErasesWithin h x y ks :=
  fun ks' hks => hk ks' (hks.trans (List.prefix_append ..))

lemma erasesSingly_concat {c : Char} {t t' : Text} (ht : e.textAfter h ks = some t)
    (ht' : e.textAfter h (ks ++ [c]) = some t') :
    e.ErasesSingly h (ks ++ [c]) ↔
      e.ErasesSingly h ks ∧ (isErasing c = true → t.length ≤ t'.length + 1) := by
  constructor
  · intro hs
    exact ⟨fun ks' k u u' hk => hs ks' k u u' (hk.trans (List.prefix_append ..)),
      fun hc => hs ks c t t' List.prefix_rfl hc ht ht'⟩
  · rintro ⟨hs, hc⟩ ks' k u u' hk he hu hu'
    rcases List.prefix_concat_iff.mp hk with heq | hk
    · obtain ⟨rfl, hkc⟩ := List.append_inj' heq rfl
      obtain rfl : k = c := by simpa using hkc
      obtain rfl : t = u := Option.some.inj (ht.symm.trans hu)
      obtain rfl : t' = u' := Option.some.inj (ht'.symm.trans hu')
      exact hc he
    · exact hs ks' k u u' hk he hu hu'

lemma Inserts.type_record {typing : Typing} (he : e.Inserts .insert s typing)
    (ho : typing.overwrite = false) (ht : typing.text = []) (hb : s.Between x y [])
    (hx : escapeKey ∉ ks) (hk : e.ErasesWithin h x y ks) :
    ∃ s' v r, (e.type h ks).1.Inserts .insert s' { typing with text := r } ∧ s'.Between x y v ∧
      (e.ErasesSingly h ks → r = v) ∧ (¬e.ErasesSingly h ks → v.length < r.length) := by
  induction ks using List.reverseRecOn with
  | nil =>
    refine ⟨s, [], [], ?_, hb, fun _ => rfl, fun hn => absurd (fun ks' k _ _ hk => ?_) hn⟩
    · have hsame : { typing with text := [] } = typing := by rw [← ht]
      rw [hsame]
      exact he
    · simp at hk
  | append_singleton ks c ih =>
    rw [List.mem_append, not_or, List.mem_singleton] at hx
    obtain ⟨s', v, r, hi, hv, heq, hlt⟩ := ih hx.1 hk.back
    have hi' := hi.key (h := h) rfl ho (Ne.symm hx.2)
    rw [← type_concat] at hi'
    have hafter := hi.textAfter
    have hafter' := hi'.textAfter
    dsimp only at hi' hafter'
    obtain ⟨u, hu⟩ := hk (ks ++ [c]) List.prefix_rfl
    rw [erasesSingly_concat hafter hafter']
    have hlast := Option.some.inj (hafter'.symm.trans hu)
    rcases hv.typeKey r ⟨u, hlast⟩ with ⟨d, hc, hb, hr⟩ | ⟨hc, hsame⟩ | ⟨u, w, hc, rfl, hw, hb, hr⟩
    · rw [hr] at hi'
      refine ⟨_, v ++ [d], _, hi', hb, fun hs => by rw [heq hs.1], fun hn => ?_⟩
      have hl := hlt fun hs => hn ⟨hs, fun he => by rw [hc] at he; cases he⟩
      simpa using hl
    · rw [hsame] at hi' ⊢
      exact ⟨_, v, _, hi', hv, fun hs => heq hs.1,
        fun hn => hlt fun hs => hn ⟨hs, fun _ => Nat.le_succ _⟩⟩
    · rw [hr] at hi'
      refine ⟨_, u, _, hi', hb, ?_⟩
      have hpos := List.length_pos_of_ne_nil hw
      simp only [hc, forall_const, hv.text, hb.text, List.length_append]
      constructor
      · -- the one character that was erased is the last of the record
        rintro ⟨hs, hle⟩
        obtain ⟨d, rfl⟩ := List.length_eq_one_iff.mp (show w.length = 1 by omega)
        rw [heq hs, List.dropLast_concat]
      · intro hn
        rw [List.length_dropLast]
        by_cases hs : e.ErasesSingly h ks
        · have hle : ¬_ := fun hle => hn ⟨hs, hle⟩
          rw [heq hs, List.length_append]
          omega
        · have hl := hlt hs
          rw [List.length_append] at hl
          omega

lemma Inserts.textAfter_escape {typing : Typing} {v : Text}
    (he : (e.type h ks).1.Inserts .insert s typing) (hb : s.Between x y v) :
    e.textAfter h (ks ++ [escapeKey]) =
      some (x ++ (v ++ (copies (typing.count - 1) typing.text ++ y))) := by
  rw [Engine.textAfter, type_concat, he.escape rfl, ← hb.finish_text typing]
  rfl

/-- With a count, what was typed is there as often as the count says if and only if each erasing key
took one character only: the record loses one character, where the text loses a cluster. The keys
may be any but Esc, and may not erase what was there before. -/
theorem insert_repeated (hm : e.mode = .normal) (hp : e.pending.text = [])
    (hs : e.surface? = some s) (hu : Unlocked h s) (hi : Insertion.ofKey? key = some i)
    (hrep : i.repeats = true) (hxy : s.text = x ++ y)
    (ho : s.text.offsetOf (i.prepare s 1).cursor = byteLength x) (hr : '\r' ∉ s.text)
    (hq : Prefix.split? q = some (p, [])) (hk : ∀ k ∈ q, Typable k) (hx : escapeKey ∉ ks)
    (hkept : (e.type h [key]).1.ErasesWithin h x y ks) :
    ∃ w, e.textAfter h (key :: (ks ++ [escapeKey])) = some (x ++ (w ++ y)) ∧
      (e.textAfter h (q ++ key :: (ks ++ [escapeKey])) =
          some (x ++ (copies p.countOrOne w ++ y)) ↔
        p.countOrOne = 1 ∨ (e.type h [key]).1.ErasesSingly h ks) := by
  have hcount : 0 < p.countOrOne := Prefix.countOrOne_pos hq
  have hbetween : (i.prepare s 1).Between x y [] := by
    obtain ⟨c, hc⟩ := Insertion.prepare_eq hrep s 1
    rw [hc] at ho ⊢
    exact .of_offset hxy (Text.clamp_clamp ..) ho hr
  have hbare := type_insert (q := []) hm hs hu hp rfl (by simp) hi
  rw [List.nil_append] at hbare
  have hover : (i == .overwrite) = false := by cases i <;> cases hrep <;> rfl
  have hcounted := type_insert hm hs hu hp hq hk hi
  rw [if_pos hrep] at hbare hcounted
  rw [Insertion.prepare_count hrep s _ 1] at hcounted
  have hsame : ∀ ks', ks' <+: ks → (e.type h [key]).1.textAfter h ks' =
      (e.type h (q ++ [key])).1.textAfter h ks' := fun ks' hks =>
    hbare.textAfter_eq hcounted hover hover rfl fun hm => hx (hks.subset hm)
  obtain ⟨s₁, w, r₁, hi₁, hb₁, -, -⟩ := hbare.type_record hover rfl hbetween hx hkept
  obtain ⟨s₂, w₂, r, hi₂, hb₂, heq, hlt⟩ := hcounted.type_record hover rfl hbetween hx
    fun ks' hks => hsame ks' hks ▸ hkept ks' hks
  rw [← erasesSingly_congr hsame] at heq hlt
  -- both have typed the same
  obtain rfl : w = w₂ := by
    have ht := hsame ks List.prefix_rfl
    rw [hi₁.textAfter, hi₂.textAfter, hb₁.text, hb₂.text] at ht
    exact List.append_cancel_right (List.append_cancel_left (Option.some.inj ht))
  have htext := hi₂.textAfter_escape hb₂
  refine ⟨w, ?_, ?_⟩
  · have ht := hi₁.textAfter_escape hb₁
    rwa [← textAfter_append] at ht
  rw [← List.singleton_append, ← List.append_assoc, textAfter_append, htext]
  obtain ⟨n, hn⟩ : ∃ n, p.countOrOne = n + 1 := Nat.exists_eq_succ_of_ne_zero hcount.ne'
  simp only [hn, Nat.add_sub_cancel, copies_succ, List.append_assoc, Option.some.injEq,
    List.append_cancel_left_eq, List.append_cancel_right_eq, Nat.add_eq_right]
  constructor
  · intro hcopies
    by_contra hnot
    obtain ⟨hzero, hmany⟩ := not_or.mp hnot
    have hlen := congrArg List.length hcopies
    rw [length_copies, length_copies] at hlen
    have hrw := Nat.eq_of_mul_eq_mul_left (Nat.pos_of_ne_zero hzero) hlen
    exact absurd hrw (hlt hmany).ne'
  · rintro (rfl | hs)
    · rfl
    · rw [heq hs]

theorem sample_insert_repeated :
    (sample "ab" []).textAfter {} "3axy\x08\x1b".toList = some "axxxb".toList := by
  have hinits : ∀ ks', ks' <+: ['x', 'y', backspaceKey] → ks' = [] ∨ ks' = ['x'] ∨
      ks' = ['x', 'y'] ∨ ks' = ['x', 'y', backspaceKey] := fun ks' hks => by
    simpa [List.inits] using (List.mem_inits ..).mpr hks
  have hkept : ((sample "ab" []).type {} ['a']).1.ErasesWithin {} ['a'] ['b']
      ['x', 'y', backspaceKey] := by
    intro ks' hks
    rcases hinits ks' hks with rfl | rfl | rfl | rfl
    exacts [⟨[], by decide +kernel⟩, ⟨['x'], by decide +kernel⟩, ⟨['x', 'y'], by decide +kernel⟩,
      ⟨['x'], by decide +kernel⟩]
  have hsingly : ((sample "ab" []).type {} ['a']).1.ErasesSingly {} ['x', 'y', backspaceKey] := by
    intro ks' k t t' hks hk ht ht'
    have hlast : (ks' ++ [k]).getLast? = some k := List.getLast?_concat
    have hinit : (ks' ++ [k]).dropLast = ks' := List.dropLast_concat
    rcases hinits _ hks with h | h | h | h <;> rw [h] at hlast hinit ht' <;> cases hlast
    · cases hk
    · cases hk
    subst hinit
    have htext : ((sample "ab" []).type {} ['a']).1.textAfter {} ['x', 'y'] =
        some "axyb".toList := by decide +kernel
    have htext' : ((sample "ab" []).type {} ['a']).1.textAfter {} ['x', 'y', backspaceKey] =
        some "axb".toList := by decide +kernel
    obtain rfl := Option.some.inj (ht.symm.trans htext)
    obtain rfl := Option.some.inj (ht'.symm.trans htext')
    decide
  have hi : Insertion.ofKey? 'a' = some .append := rfl
  have hthree : Typable '3' := by decide
  obtain ⟨w, hw, hx⟩ := insert_repeated (e := sample "ab" []) (h := {}) (x := ['a']) (y := ['b'])
    (q := ['3']) (p := ⟨none, some 3⟩) rfl rfl rfl rfl hi rfl (by decide +kernel)
    (by decide +kernel) (by decide +kernel) (by decide +kernel)
    (List.forall_mem_singleton.mpr hthree) (by decide +kernel) hkept
  have hw' : (sample "ab" []).textAfter {} "axy\x08\x1b".toList = some "axb".toList := by
    decide +kernel
  obtain rfl : w = ['x'] :=
    List.append_cancel_right (List.append_cancel_left (Option.some.inj (hw.symm.trans hw')))
  exact hx.mpr (.inr hsingly)

example : (sample "" []).textAfter {} "ixe\u0301\x08\x1b".toList = some "x".toList ∧
    (sample "" []).textAfter {} "2ixe\u0301\x08\x1b".toList = some "xxe".toList := by
  decide +kernel

end Engine

end ModalEdit
