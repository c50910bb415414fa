import Mathlib.Tactic.Common
import ModalEdit.Engine.Keys

/-! Everything but a command about macros carries the macros along unread, the names of the macros
and the pane apart. So whatever holds of two engines that differ in the macros, in the note of the
last reference and in what was said, and that outlives each elementary change, outlives a key. -/

namespace ModalEdit

def Notice.textIn? (pane : Text) : Notice → Option Text
  | .status p t => if p = pane then some t else none
  | _ => none

namespace Engine

structure Alike (a b : Engine) : Prop where
  mode : a.mode = b.mode
  pending : a.pending = b.pending
  workspace : a.workspace = b.workspace
  typing : a.typing = b.typing
  lastPattern : a.lastPattern = b.lastPattern
  pane : a.macros.pane = b.macros.pane
  macros : a.macros.registry.macros = b.macros.registry.macros

def noted (e : Engine) (n : Notice) : Engine := { e with interaction := e.interaction.note n }

def Admits (e : Engine) (n : Notice) : Prop :=
  n.textIn? modePane = none ∨ e.macros.pane = modePane

structure Congruence (R : Engine → Engine → Prop) : Prop where
  alike {a b} : R a b → Alike a b
  mode {a b} (m : Mode) : R a b → R { a with mode := m } { b with mode := m }
  clearPending {a b} : R a b → R a.clearPending b.clearPending
  bind {a b} (s : Option Text) :
    R a b → R { a with pending := a.pending.bind s } { b with pending := b.pending.bind s }
  workspace {a b} (w : Workspace) : R a b → R { a with workspace := w } { b with workspace := w }
  typing {a b} (t : Typing) : R a b → R { a with typing := t } { b with typing := t }
  lastPattern {a b} (p : Option Text) :
    R a b → R { a with lastPattern := p } { b with lastPattern := p }
  noted {a b} {n : Notice} : a.Admits n → R a b → R (a.noted n) (b.noted n)

structure KeyCongruence (R : Engine → Engine → Prop) : Prop extends Congruence R where
  extend {a b} (c : Char) : R a b → R (a.extend c) (b.extend c)
  takeBack {a b} : R a b → R a.takeBack b.takeBack

def Both (R : Engine → Engine → Prop) {α : Type} (x y : Engine × α) : Prop :=
  R x.1 y.1 ∧ x.2 = y.2

lemma Both.ite {R : Engine → Engine → Prop} {α : Type} {x x' y y' : Engine × α} {p : Prop}
    [Decidable p] (hx : p → Both R x y) (hx' : ¬p → Both R x' y') :
    Both R (if p then x else x') (if p then y else y') := by
  by_cases hp : p
  · rw [if_pos hp, if_pos hp]
    exact hx hp
  · rw [if_neg hp, if_neg hp]
    exact hx' hp

def beside (e : Engine) (d : Macro.Control) (resolved : Option Text) (i : Interaction) : Engine :=
  { e with macros := d, resolved, interaction := i }

lemma Alike.eq_beside {a b : Engine} (h : Alike a b) :
    b = a.beside b.macros b.resolved b.interaction := by
  obtain ⟨hm, hp, hw, ht, hl, -, -⟩ := h
  cases b
  simp only [beside] at *
  subst hm hp hw ht hl
  rfl

section beside

variable (e : Engine) (d : Macro.Control) (r : Option Text) (i : Interaction)

@[simp] lemma beside_mode : (e.beside d r i).mode = e.mode := rfl

@[simp] lemma beside_pending : (e.beside d r i).pending = e.pending := rfl

@[simp] lemma beside_typing : (e.beside d r i).typing = e.typing := rfl

@[simp] lemma beside_surface? : (e.beside d r i).surface? = e.surface? := rfl

@[simp] lemma beside_isReadonly (h : Host) : (e.beside d r i).isReadonly h = e.isReadonly h := rfl

end beside

lemma admits_status (e : Engine) (t : Text) : e.Admits (.status e.macros.pane t) := by
  by_cases hp : e.macros.pane = modePane
  · exact .inr hp
  · exact .inl (if_neg hp)

namespace Congruence

variable {R : Engine → Engine → Prop} (hR : Congruence R) {a b : Engine} (hab : R a b)
include hR hab

lemma exists_beside : ∃ d r i, b = a.beside d r i := ⟨_, _, _, (hR.alike hab).eq_beside⟩

lemma surface?_eq : b.surface? = a.surface? := by
  obtain ⟨d, r, i, rfl⟩ := hR.exists_beside hab
  rfl

lemma say (t : Text) : R (a.say t) (b.say t) := hR.noted (.inl rfl) hab

lemma tell (t : String) : R (a.tell t) (b.tell t) := hR.say hab _

lemma sayMacro (t : Text) : R (a.sayMacro t) (b.sayMacro t) := by
  unfold Engine.sayMacro
  rw [← (hR.alike hab).pane]
  exact hR.noted (admits_status a t) hab

lemma putSurface (s : Surface) : R (a.putSurface s) (b.putSurface s) := by
  obtain ⟨d, r, i, rfl⟩ := hR.exists_beside hab
  unfold Engine.putSurface
  rw [beside_pending]
  split
  · exact hR.workspace _ hab
  · exact hab

lemma leave (m : Mode) : R (a.leave m) (b.leave m) := by
  obtain ⟨d, r, i, rfl⟩ := hR.exists_beside hab
  unfold Engine.leave
  simp only [beside_surface?, beside_typing]
  split
  · exact hab
  · split
    · exact hR.typing _ (hR.putSurface hab _)
    · exact hR.putSurface hab _

lemma enter (m : Mode) (block : Option BlockEdge) : R (a.enter m block) (b.enter m block) := by
  obtain ⟨d, r, i, rfl⟩ := hR.exists_beside hab
  have hm := hR.mode m hab
  unfold Engine.enter
  simp only [beside_mode]
  split
  · exact hR.typing _ hm
  · exact hR.leave hm _
  · exact hm

lemma changeMode (h : Host) (text : Text) (block : Option BlockEdge) :
    Both R (a.changeMode h text block) (b.changeMode h text block) := by
  obtain ⟨d, r, i, rfl⟩ := hR.exists_beside hab
  unfold Engine.changeMode
  simp only [beside_mode, beside_isReadonly]
  split
  · exact ⟨hR.enter hab _ _, rfl⟩
  · exact ⟨hab, rfl⟩

lemma escapeMode : Both R a.escapeMode b.escapeMode := by
  refine ⟨hR.enter hab _ _, ?_⟩
  obtain ⟨d, r, i, rfl⟩ := hR.exists_beside hab
  rfl

lemma eraseBack (s : Surface) : Both R (a.eraseBack s) (b.eraseBack s) := by
  obtain ⟨d, r, i, rfl⟩ := hR.exists_beside hab
  unfold Engine.eraseBack
  dsimp only
  split
  · exact ⟨hab, rfl⟩
  · have hp := hR.putSurface hab
      ((s.erase ⟨s.cursor.line, Grapheme.prevBoundary s.currentLine s.cursor.byte⟩
        s.cursor).setCursor ⟨s.cursor.line, Grapheme.prevBoundary s.currentLine s.cursor.byte⟩)
    rw [← (hR.alike hp).typing]
    exact ⟨hR.typing _ hp, rfl⟩

lemma typeChar (s : Surface) (c : Char) : R (a.typeChar s c) (b.typeChar s c) := by
  obtain ⟨d, r, i, rfl⟩ := hR.exists_beside hab
  unfold Engine.typeChar
  dsimp only
  rw [beside_typing]
  have hp := hR.putSurface hab (((if a.typing.overwrite = true ∧ c ≠ '\n' ∧
      s.cursor.byte < s.currentLine.byteLength then
        s.erase s.cursor ⟨s.cursor.line, Grapheme.nextBoundary s.currentLine s.cursor.byte⟩
      else s).insert s.cursor [c]).1.setCursor ((if a.typing.overwrite = true ∧ c ≠ '\n' ∧
      s.cursor.byte < s.currentLine.byteLength then
        s.erase s.cursor ⟨s.cursor.line, Grapheme.nextBoundary s.currentLine s.cursor.byte⟩
      else s).insert s.cursor [c]).2)
  rw [← (hR.alike hp).typing]
  exact hR.typing _ hp

lemma insertKey (c : Char) : Both R (a.insertKey c) (b.insertKey c) := by
  unfold Engine.insertKey
  rw [hR.surface?_eq hab]
  refine .ite (fun _ => hR.escapeMode hab) fun _ => ?_
  split
  · exact ⟨hab, rfl⟩
  · exact .ite (fun _ => hR.eraseBack hab _) fun _ => ⟨hR.typeChar hab _ _, rfl⟩

lemma clearSelection : R a.clearSelection b.clearSelection := by
  unfold Engine.clearSelection
  rw [hR.surface?_eq hab]
  split
  · exact hR.putSurface hab _
  · exact hab

lemma giveUp : Both R a.giveUp b.giveUp := ⟨(hR.escapeMode hab).1, rfl⟩

lemma editedBy (h : Host) (s : Surface) {f : Engine → Engine × Bool}
    (hf : ∀ {a b}, R a b → Both R (f a) (f b)) :
    Both R (a.editedBy h s f) (b.editedBy h s f) := by
  unfold Engine.editedBy Engine.editable
  split_ifs
  · exact ⟨hR.tell hab _, rfl⟩
  · exact hf hab

lemma goToLine (s : Surface) (line : Nat) : R (a.goToLine s line) (b.goToLine s line) :=
  hR.putSurface hab _

lemma nextLine : Both R a.nextLine b.nextLine := by
  unfold Engine.nextLine
  rw [hR.surface?_eq hab]
  split
  · exact ⟨hab, rfl⟩
  · exact .ite (fun _ => ⟨hab, rfl⟩) fun _ => ⟨hR.goToLine hab _ _, rfl⟩

end Congruence

end Engine

end ModalEdit
