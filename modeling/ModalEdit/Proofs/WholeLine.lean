import ModalEdit.Proofs.Reissue

/-! A line given as a whole and the same line typed key by key, with Enter at its end. The typed
keys are recorded one by one before the line is carried out, the whole line at once after it. -/

namespace ModalEdit

open Macro (Control Machine)

lemma isLine_append_iff {t : Text} (ht : t ≠ []) (s : Text) :
    (CommandKind.ofText (t ++ s)).isLine = true ↔ (CommandKind.ofText t).isLine = true := by
  refine ⟨fun h => ?_, fun h => isLine_append h s⟩
  obtain ⟨c, t, rfl⟩ := List.exists_cons_of_ne_nil ht
  unfold CommandKind.ofText at h
  split at h <;> rename_i he <;> cases he <;> first | rfl | cases h

namespace Engine

variable {e : Engine} {h : Host} {body : Text}

lemma key_of_line (hi : e.mode.isInsert = false) {c : Char} (hc : Typable c)
    (hl : (CommandKind.ofText (e.pending.text ++ [c])).isLine = true) :
    e.key h c = ({ e.extend c with macros := e.macros.jot [c] }, false) := by
  obtain ⟨hx, hr, hb⟩ := hc
  have hs : e.stroke h c = (e.extend c, .handled false) := by
    have hk : (e.extend c).pending.kind.isLine = true := hl
    simp only [stroke, hi, commandKey, lineKey, hx, hr, hb, hk, Bool.false_and, Bool.false_eq_true,
      ↓reduceIte]
    split <;> rfl
  rw [key_of_handled hs rfl]
  exact congrArg (·, false) (if_pos rfl)

lemma type_line {keys : Text} (hi : e.mode.isInsert = false) (hc : ∀ c ∈ keys, Typable c)
    (hl : (CommandKind.ofText (e.pending.text ++ keys)).isLine = true) :
    (e.type h keys).1 =
      { e with pending := e.pending.append keys, macros := e.macros.jot keys } := by
  induction keys generalizing e with
  | nil => simp [type, Pending.append]
  | cons c cs ih =>
    rw [List.append_cons] at hl
    have hk := key_of_line (h := h) hi (hc c List.mem_cons_self)
      ((isLine_append_iff (by simp) cs).mp hl)
    have hcs := ih (e := { e.extend c with macros := e.macros.jot [c] }) hi
      (fun d hd => hc d (List.mem_cons_of_mem _ hd)) hl
    rw [type_cons, hk, hcs]
    simp only [extend, Pending.append, Control.jot_append, List.append_assoc, List.singleton_append]

lemma type_concat (e : Engine) (h : Host) (keys : Text) (c : Char) :
    e.type h (keys ++ [c]) = (e.type h keys).1.key h c := by
  simp only [type, List.foldl_append, List.foldl_cons, List.foldl_nil]

def Apart (m : Machine) (resolved : Option Text) (a b : Engine) : Prop :=
  b = { a with macros := { a.macros with machine := m }, resolved }

lemma apart_congruence (m : Machine) (resolved : Option Text) :
    Congruence (Apart m resolved) where
  alike := by
    rintro a _ rfl
    exact ⟨rfl, rfl, rfl, rfl, rfl, rfl, rfl⟩
  mode := by
    rintro a _ _ rfl
    rfl
  clearPending := by
    rintro a _ rfl
    rfl
  bind := by
    rintro a _ _ rfl
    rfl
  workspace := by
    rintro a _ _ rfl
    rfl
  typing := by
    rintro a _ _ rfl
    rfl
  lastPattern := by
    rintro a _ _ rfl
    rfl
  noted := by
    rintro a _ _ - rfl
    rfl

lemma runWhole_of_line (hl : (CommandKind.ofText body).isLine = true) :
    let x := finishLine { e with resolved := none, pending := e.pending.set body } h
    e.runWhole h body =
        (reportMode { x.1 with macros := e.macros.jot (body ++ ['\r']) } e.mode, x.2) ∧
      x.1.macros = e.macros ∧ x.1.resolved = none := by
  intro x
  have hs : Carries e.macros none { e with resolved := none, pending := e.pending.set body }
      { e with resolved := none, pending := e.pending.set body } := ⟨rfl, rfl, rfl⟩
  obtain ⟨-, hd, hr⟩ := ((carries_congruence e.macros none).finishLine hs h).1
  refine ⟨?_, hd, hr⟩
  rw [← record_eq_jot hd]
  simp only [runWhole, wholeStroke, recordable, hl, ↓reduceIte]
  rfl

theorem runWhole_eq_type (hi : e.mode.isInsert = false) (hp : e.pending.text = [])
    (hl : (CommandKind.ofText body).isLine = true) (hc : ∀ c ∈ body, Typable c) :
    e.runWhole h body =
      ({ (e.type h (body ++ ['\r'])).1 with resolved := none }, (e.type h (body ++ ['\r'])).2) := by
  obtain ⟨hw, hd, hr⟩ := runWhole_of_line (e := e) (h := h) hl
  have ht := type_line (e := e) (h := h) hi hc (by rw [hp]; exact hl)
  have hb : e.pending.append body = e.pending.set body := by
    rw [Pending.append, hp]
    rfl
  rw [hb] at ht
  -- before Enter the two engines differ in what was recorded so far, which no line looks at
  have hx : Apart (e.macros.jot body).machine e.resolved
      { e with resolved := none, pending := e.pending.set body } (e.type h body).1 := by
    rw [Apart, ht, ← Control.jot_eq]
  obtain ⟨hfin, hacted⟩ := (apart_congruence _ _).finishLine hx h
  have hmode : (e.type h body).1.mode = e.mode := by rw [ht]
  have hmacros : (e.type h body).1.macros = e.macros.jot body := by rw [ht]
  have hs : (e.type h body).1.stroke h '\r' = handle ((e.type h body).1.finishLine h) := by
    have hk : (e.type h body).1.pending.kind.isLine = true := by
      rw [ht]
      exact hl
    rw [stroke, hmode, hi]
    simp only [commandKey, lineKey, hk, Bool.false_eq_true, ↓reduceIte]
    rfl
  have hsame : ((e.type h body).1.finishLine h).1.macros = (e.type h body).1.macros := by
    rw [hfin, hmacros, hd, ← Control.jot_eq]
  rw [hw, type_concat, key_of_handled hs hsame, hmode, hmacros, Control.jot_append, hfin, hacted]
  generalize finishLine { e with resolved := none, pending := e.pending.set body } h = x at hr
  obtain ⟨x, acted⟩ := x
  refine Prod.ext ?_ rfl
  simp only [reportMode]
  split <;> simp only [← hr]

lemma withoutEnter_of_typable (hc : ∀ c ∈ body, Typable c) : withoutEnter body = body := by
  have hr : body.reverse.dropWhile isEnter = body.reverse := by
    rw [List.dropWhile_eq_self_iff]
    intro hlen
    exact ne_true_of_eq_false (hc _ (List.mem_reverse.mp (List.getElem_mem hlen))).2.1
  rw [withoutEnter, hr, List.reverse_reverse]

/-- Apart from the note of the last reference it makes no difference how a line was given. -/
theorem command_eq_type_line (e : Engine) (h : Host) (hi : e.mode.isInsert = false)
    (hp : e.pending.text = []) {body : Text} (hl : (CommandKind.ofText body).isLine = true)
    (hc : ∀ c ∈ body, Typable c) :
    e.command h body =
      ({ (e.type h (body ++ ['\r'])).1 with resolved := none },
        (e.type h (body ++ ['\r'])).2) := by
  have hw : (!e.mode.isInsert && isWhole body) = true := by simp [hi, isWhole, hl]
  rw [command, withoutEnter_of_typable hc, if_pos hw]
  exact runWhole_eq_type hi hp hl hc

theorem sample_command_eq_type_line :
    let e := ((sample "abc\nde" []).type {} "qav".toList).1
    let h : Host := { access := .byName }
    let typed := e.type h (":e b".toList ++ ['\r'])
    e.command h ":e b".toList = ({ typed.1 with resolved := none }, typed.2) ∧
      typed.1.pending.surface = some ['b'] ∧
      typed.1.macros.machine.recorded = "v:e b\r".toList :=
  ⟨command_eq_type_line _ _ (by decide +kernel) (by decide +kernel) (by decide +kernel)
    (by simp [Typable, isEnter, isErasing, escapeKey, backspaceKey, deleteKey]),
    by decide +kernel, by decide +kernel⟩

end Engine

end ModalEdit
