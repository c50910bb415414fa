import Mathlib.Tactic.Common
import ModalEdit.Engine.Visual

namespace ModalEdit

structure Outline where
  serial : Nat
  name : Text
  selection : Option Selection
  readonly : Bool
  focus : Bool

namespace Surface

def outline (s : Surface) : Outline := ⟨s.serial, s.name, s.selection, s.readonly, s.focus⟩

lemma selection_eq {s s' : Surface} (h : s'.outline = s.outline) : s'.selection = s.selection :=
  congrArg Outline.selection h

lemma readonly_eq {s s' : Surface} (h : s'.outline = s.outline) : s'.readonly = s.readonly :=
  congrArg Outline.readonly h

lemma outline_foldl {α : Type} {f : Surface → α → Surface}
    (hf : ∀ s a, (f s a).outline = s.outline) (l : List α) (s : Surface) :
    (l.foldl f s).outline = s.outline := by
  induction l generalizing s with
  | nil => rfl
  | cons a l ih => exact (ih (f s a)).trans (hf s a)

@[simp] lemma outline_setCursor (s : Surface) (p : Position) :
    (s.setCursor p).outline = s.outline := rfl

@[simp] lemma outline_setRegister (s : Surface) (c : Char) (t : Text) :
    (s.setRegister c t).outline = s.outline := rfl

@[simp] lemma outline_store (s : Surface) (register : Option Char) (t : Text) :
    (s.store register t).outline = s.outline := rfl

@[simp] lemma outline_insert (s : Surface) (p : Position) (t : Text) :
    (s.insert p t).1.outline = s.outline := rfl

@[simp] lemma outline_delete (s : Surface) (start stop : Position) :
    (s.delete start stop).1.outline = s.outline := rfl

@[simp] lemma outline_erase (s : Surface) (start stop : Position) :
    (s.erase start stop).outline = s.outline := rfl

@[simp] lemma outline_eraseSpan (span : Span) (s : Surface) :
    (span.erase s).outline = s.outline := by
  cases span with
  | chars start stop => rfl
  | lines first last => rfl
  | block first last left right =>
    unfold Span.erase
    generalize (Span.block first last left right).segments s.text = gs
    induction gs with
    | nil => rfl
    | cons g gs ih =>
      simp only [List.foldr_cons]
      split
      · exact ih
      · exact ih

@[simp] lemma outline_deleteSpan (span : Span) (s : Surface) :
    (span.delete s).1.outline = s.outline :=
  outline_eraseSpan span s

@[simp] lemma outline_emptyLines (s : Surface) (first last : Nat) :
    (s.emptyLines first last).1.outline = s.outline := rfl

@[simp] lemma outline_changeCase (s : Surface) (span : Span) (case : Case) :
    (s.changeCase span case).outline = s.outline := by
  refine outline_foldl (fun s g => ?_) _ s
  simp only [changeSegment]
  split <;> simp

@[simp] lemma outline_shift (s : Surface) (first last : Nat) (d : Direction) :
    (s.shift first last d).outline = s.outline := by
  refine outline_foldl (fun s i => ?_) _ s
  cases d <;> simp only [shiftLine] <;> split <;> simp

@[simp] lemma outline_joinNext (s : Surface) (i : Nat) :
    (s.joinNext i).1.outline = s.outline := by
  simp only [joinNext]
  split <;> simp

@[simp] lemma outline_joinTimes (i n : Nat) (s : Surface) (p : Position) :
    (joinTimes i n s p).1.outline = s.outline := by
  induction n generalizing s p with
  | zero => rfl
  | succ n ih => simp [joinTimes, ih]

@[simp] lemma outline_join (s : Surface) (first last : Nat) :
    (s.join first last).1.outline = s.outline :=
  outline_joinTimes ..

@[simp] lemma outline_paste (s : Surface) (p : Position) (t : Text) (side : Side) (count : Nat) :
    (s.paste p t side count).1.outline = s.outline := by
  unfold paste
  split
  · simp only [pasteLines]
    split_ifs <;> simp
  · simp [pasteChars]

lemma outline_replaceChars? {s s' : Surface} {p : Position} {c : Char} {count : Nat}
    (h : s.replaceChars? p c count = some s') : s'.outline = s.outline := by
  unfold replaceChars? at h
  split at h
  · cases h
  · cases h
    simp

@[simp] lemma outline_mapLines (s : Surface) (first last : Nat) (f : Text → Text) :
    (s.mapLines first last f).1.outline = s.outline := by
  have hl : ∀ (is : List Nat) (acc : Surface × Nat),
      (is.foldl (mapLine f) acc).1.outline = acc.1.outline := by
    intro is
    induction is with
    | nil => exact fun _ => rfl
    | cons i is ih =>
      intro acc
      rw [List.foldl_cons, ih]
      simp only [mapLine]
      split <;> simp
  exact hl _ _

end Surface

open Surface

@[simp] lemma outline_applyOperator (op : Operator) (s : Surface) (span : Span)
    (register : Option Char) : (op.apply s span register).outline = s.outline := by
  cases op with
  | delete => simp [Operator.apply]
  | shift d => simp [Operator.apply]
  | yank =>
    simp only [Operator.apply]
    split <;> simp
  | change => cases span <;> simp [Operator.apply]

@[simp] lemma outline_prepare (i : Insertion) (s : Surface) (count : Nat) :
    (i.prepare s count).outline = s.outline := by
  cases i <;> simp [Insertion.prepare]

@[simp] lemma outline_clearRegion (s : Surface) (span : Span) :
    (VisualAction.clearRegion s span).1.outline = s.outline := by
  cases span <;> simp [VisualAction.clearRegion]

lemma outline_repeat {f : Surface → Surface} (hf : ∀ s, (f s).outline = s.outline) (n : Nat)
    (s : Surface) : (n.repeat f s).outline = s.outline := by
  induction n with
  | zero => rfl
  | succ n ih => exact (hf _).trans ih

@[simp] lemma outline_applyAction (a : VisualAction) (s : Surface) (span : Span)
    (register : Option Char) (count : Nat) :
    (a.apply s span register count).1.outline = s.outline := by
  cases a <;> simp [VisualAction.apply, VisualAction.shiftTimes, outline_repeat]

end ModalEdit
