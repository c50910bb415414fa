import ModalEdit.Proofs.Editor
import ModalEdit.Proofs.Nesting

/-! The pending command after a key: it is kept, gone, or differs by one character. A `q` never
waits together with the beginning of a name, and no playback touches what is pending. -/

namespace ModalEdit.Engine

def Holds (t : Text) (a b : Engine) : Prop :=
  a = b ∧ (a.pending.text = t ∨ a.pending.text = [])

lemma holds_congruence (t : Text) : Congruence (Holds t) where
  alike := by
    rintro a _ ⟨rfl, -⟩
    exact ⟨rfl, rfl, rfl, rfl, rfl, rfl, rfl⟩
  mode := by
    rintro a _ m ⟨rfl, ht⟩
    exact ⟨rfl, ht⟩
  clearPending := by
    rintro a _ ⟨rfl, -⟩
    exact ⟨rfl, .inr rfl⟩
  bind := by
    rintro a _ s ⟨rfl, ht⟩
    exact ⟨rfl, ht⟩
  workspace := by
    rintro a _ w ⟨rfl, ht⟩
    exact ⟨rfl, ht⟩
  typing := by
    rintro a _ t ⟨rfl, ht⟩
    exact ⟨rfl, ht⟩
  lastPattern := by
    rintro a _ p ⟨rfl, ht⟩
    exact ⟨rfl, ht⟩
  noted := by
    rintro a _ _ - ⟨rfl, ht⟩
    exact ⟨rfl, ht⟩

structure Adds (t : Text) (c : Char) : Prop where
  notEscape : c ≠ escapeKey
  notEnter : isEnter c = false
  notErasing : isErasing c = true → t = []

inductive Grows (t : Text) (c : Char) : Text → Prop
  | kept : Grows t c t
  | cleared : Grows t c []
  | shrunk (hc : isErasing c = true) : Grows t c t.dropLast
  | grown (hc : Adds t c)
      (hn : ∀ name times, macroBody? (t ++ [c]) = some ('q' :: name, times) → name = []) :
      Grows t c (t ++ [c])

lemma Holds.grows {t : Text} {c : Char} {e : Engine} (h : Holds t e e) :
    Grows t c e.pending.text := by
  rcases h.2 with ht | ht
  · rw [ht]
    exact .kept
  · rw [ht]
    exact .cleared

lemma expandVariable_pending (e : Engine) (h : Host) (name : Text) (times : Nat) :
    (e.expandVariable h name times).1.pending = e.pending := by
  unfold expandVariable editedBy editable
  split
  · rfl
  · rename_i s _
    by_cases hr : (h.readonly || s.readonly) = true
    · rw [if_pos hr]
      rfl
    · rw [if_neg hr]
      dsimp only
      split
      · rfl
      · exact putSurface_pending

lemma runMacro_text (e : Engine) (h : Host) (body : Text) (times : Nat) (complete : Bool) :
    (e.runMacro h body times complete).1.pending.text = [] ∨
      complete = false ∧ (e.macros.read e.interaction body complete times).2.2 = .incomplete ∧
        (e.runMacro h body times complete).1.pending.text = e.pending.text := by
  unfold runMacro
  generalize e.macros.read e.interaction body complete times = step
  obtain ⟨d, i, o⟩ := step
  cases o with
  | incomplete =>
    cases complete with
    | false => exact .inr ⟨rfl, rfl, rfl⟩
    | true => exact .inl rfl
  | ignored => exact .inl rfl
  | cancelled => exact .inl rfl
  | notFound => exact .inl rfl
  | done k r =>
    cases r with
    | none => exact .inl rfl
    | some r =>
      cases r with
      | play => exact .inl rfl
      | expand name n => exact .inl (congrArg Pending.text (expandVariable_pending _ h name n))

lemma stroke_grows_of_reads {e : Engine} {c : Char} {body : Text} {times : Nat}
    (hr : e.reads? c = some (body, times)) (h : Host) :
    Grows e.pending.text c (e.stroke h c).1.pending.text := by
  rw [stroke_of_reads hr h]
  rcases runMacro_text (e.reader c) h body times (isEnter c) with ht | ⟨hc, ho, ht⟩
  · rw [ht]
    exact .cleared
  rw [ht]
  have hc' : ¬isEnter c = true := by simp [hc]
  simp only [reader, if_neg hc']
  unfold reads? at hr
  split_ifs at hr with _ hx _ hb
  have hadds : Adds e.pending.text c := ⟨hx, hc, fun h => by simpa [h] using hb⟩
  refine .grown hadds fun name n hq => ?_
  rw [hr] at hq
  cases hq
  unfold Macro.Control.read at ho
  split at ho
  · rename_i h0
    exact absurd h0 (macroBody?_ne_zero hr)
  · exact Macro.Control.readRecord_incomplete ho

lemma Grows.of_macroBody? {t : Text} {c : Char} (hc : Adds t c)
    (hm : macroBody? (t ++ [c]) = none) : Grows t c (t ++ [c]) := by
  refine .grown hc fun name times hq => ?_
  rw [hm] at hq
  cases hq

lemma lineKey_grows {e : Engine} {c : Char} (hx : c ≠ escapeKey)
    (hl : e.pending.kind.isLine = true) (h : Host) :
    Grows e.pending.text c (e.lineKey h c).1.pending.text := by
  unfold lineKey
  split
  · have hs : Holds e.pending.text e e := ⟨rfl, .inl rfl⟩
    exact Holds.grows ⟨rfl, ((holds_congruence _).finishLine hs h).1.2⟩
  rename_i hr
  split
  · rename_i hb
    exact .shrunk hb
  · rename_i hb
    exact .of_macroBody? ⟨hx, by simpa using hr, fun h => absurd h hb⟩
      (macroBody?_of_isLine (isLine_append hl [c]))

lemma enterKey_grows {e : Engine} (hn : macroBody? e.pending.text = none) (h : Host) (c : Char) :
    Grows e.pending.text c (e.enterKey h).1.pending.text := by
  have hc := holds_congruence e.pending.text
  have he : Holds e.pending.text e e := ⟨rfl, .inl rfl⟩
  unfold enterKey
  split
  · exact Holds.grows ⟨rfl, (runPending_plain hc he hn h true).1.1.2⟩
  · split
    · exact Holds.grows ⟨rfl, (hc.nextLine he).1.2⟩
    · exact .cleared

lemma extend_grows {e : Engine} {c : Char} (hc : Adds e.pending.text c)
    (hn : macroBody? (e.pending.text ++ [c]) = none) (h : Host) :
    Grows e.pending.text c ((e.extend c).runPending h false).1.pending.text := by
  have hs : Holds (e.pending.text ++ [c]) (e.extend c) (e.extend c) := ⟨rfl, .inl rfl⟩
  rcases (runPending_plain (holds_congruence _) hs hn h false).1.1.2 with ht | ht
  · rw [ht]
    exact .of_macroBody? hc hn
  · rw [ht]
    exact .cleared

lemma stroke_grows_of_plain {e : Engine} {c : Char} (hn : e.reads? c = none) (h : Host) :
    Grows e.pending.text c (e.stroke h c).1.pending.text := by
  have hc := holds_congruence e.pending.text
  have he : Holds e.pending.text e e := ⟨rfl, .inl rfl⟩
  unfold reads? at hn
  unfold stroke
  split at hn
  · rename_i hi
    rw [if_pos hi]
    exact Holds.grows ⟨rfl, (hc.insertKey he c).1.2⟩
  rename_i hi
  rw [if_neg hi]
  unfold commandKey
  split at hn
  · rename_i hx
    rw [if_pos hx]
    split
    · exact Holds.grows ⟨rfl, (hc.escapeMode he).1.2⟩
    · exact .cleared
  rename_i hx
  rw [if_neg hx]
  split at hn
  · rename_i hl
    rw [if_pos hl]
    exact lineKey_grows hx hl h
  rename_i hl
  rw [if_neg hl]
  split at hn
  · rename_i hr
    rw [if_pos hr]
    exact enterKey_grows hn h c
  rename_i hr
  rw [if_neg hr]
  split at hn
  · rename_i hb
    rw [if_pos hb]
    simp only [Bool.and_eq_true] at hb
    exact .shrunk hb.1
  rename_i hb
  rw [if_neg hb]
  have hadds : Adds e.pending.text c :=
    ⟨hx, by simpa using hr, fun h => by simpa [h] using hb⟩
  dsimp only
  split
  · exact .of_macroBody? hadds hn
  · exact extend_grows hadds hn h

lemma Grows.adds {t : Text} {c : Char} (hg : Grows t c (t ++ [c])) : Adds t c := by
  generalize ht : t ++ [c] = t' at hg
  have hlen := congrArg List.length ht
  simp only [List.length_append, List.length_singleton] at hlen
  cases hg with
  | kept => omega
  | cleared => simp at hlen
  | shrunk =>
    rw [List.length_dropLast] at hlen
    omega
  | grown hc => exact hc

theorem stroke_grows (e : Engine) (h : Host) (c : Char) :
    Grows e.pending.text c (e.stroke h c).1.pending.text := by
  cases hr : e.reads? c with
  | none => exact stroke_grows_of_plain hr h
  | some r => exact stroke_grows_of_reads hr h

theorem playWith_pending (h : Host) (key : KeyFunction) (e : Engine) (name : Text) (times : Nat) :
    (playWith h key e name times).1.pending = e.pending := by
  unfold playWith
  split
  · rfl
  · split <;> rfl

lemma settle_pending (h : Host) (key : KeyFunction) (x : Engine × Reply) :
    (settle h key x).1.pending = x.1.pending := by
  obtain ⟨e, r⟩ := x
  cases r with
  | handled => rfl
  | play name times => exact playWith_pending h key e name times

@[simp] lemma record_pending (e : Engine) (was : Bool) (keys : Text) :
    (e.record was keys).pending = e.pending := by
  unfold record
  split <;> rfl

@[simp] lemma reportMode_pending (e : Engine) (m : Mode) :
    (e.reportMode m).pending = e.pending := by
  unfold reportMode
  split <;> rfl

theorem key_pending (e : Engine) (h : Host) (c : Char) :
    (e.key h c).1.pending = (e.stroke h c).1.pending := by
  obtain ⟨inner, -, hk⟩ := keyAt_eq h e.macros.machine.limit
  rw [key, hk, keyWith, reportMode_pending, record_pending, settle_pending]

def Unnamed (e : Engine) : Prop :=
  ∀ name times, macroBody? e.pending.text = some ('q' :: name, times) → name = []

theorem Unnamed.key {e : Engine} (hu : e.Unnamed) (h : Host) (c : Char) :
    (e.key h c).1.Unnamed := by
  intro name times hq
  have hg := stroke_grows e h c
  rw [key_pending] at hq
  generalize (e.stroke h c).1.pending.text = t at hg hq
  -- an erased character may uncover a `q`, but a name behind it would have been there before
  cases hg with
  | kept => exact hu name times hq
  | cleared => cases hq
  | shrunk =>
    by_cases ht : e.pending.text = []
    · rw [ht] at hq
      cases hq
    · have hl := macroBody?_append hq [e.pending.text.getLast ht]
      rw [List.dropLast_concat_getLast ht] at hl
      have hn := hu _ _ hl
      simp at hn
  | grown _ hn => exact hn name times hq

end ModalEdit.Engine
