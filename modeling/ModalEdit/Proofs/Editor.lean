import ModalEdit.Engine.Keys
import ModalEdit.Proofs.Tables

/-! The mode, the insertion and the surfaces of an engine, and how one turn changes them. Messages,
macros and the pending text are left out. -/

namespace ModalEdit

lemma Workspace.get?_activate {w : Workspace} {name : Text} {s : Surface}
    (hw : w.get? name = some s) (other : Text) : (w.activate other).get? name = some s := by
  unfold activate insert get? Table.contains at *
  dsimp only
  split
  · exact hw
  · rename_i hc
    have hn : name ≠ other := by
      rintro rfl
      simp [hw] at hc
    exact (Table.get?_insert_of_ne hn _ _).trans hw

structure Editor where
  mode : Mode
  typing : Typing
  bound : Option Text
  workspace : Workspace

namespace Editor

def surface? (x : Editor) : Option Surface := x.bound.bind x.workspace.get?

def put (x : Editor) (s : Surface) : Editor :=
  match x.bound with
  | some name => { x with workspace := x.workspace.update name s }
  | none => x

def turned (x : Editor) (mode : Mode) (typing : Typing) : Editor := { x with mode, typing }

def rebound (x : Editor) (name : Option Text) : Editor := { x with bound := name }

variable {x : Editor} {s s' : Surface}

@[simp] lemma put_mode : (x.put s).mode = x.mode := by
  unfold put
  split <;> rfl

@[simp] lemma put_typing : (x.put s).typing = x.typing := by
  unfold put
  split <;> rfl

@[simp] lemma put_bound : (x.put s).bound = x.bound := by
  unfold put
  split
  · rename_i hb
    exact hb.symm ▸ rfl
  · rfl

@[simp] lemma put_put : (x.put s).put s' = x.put s' := by
  obtain ⟨mode, typing, bound, workspace⟩ := x
  cases bound with
  | none => rfl
  | some name => simp [put, Workspace.update, Table.insert_insert]

@[simp] lemma put_turned (m : Mode) (typing : Typing) :
    (x.turned m typing).put s = (x.put s).turned m typing := by
  cases hb : x.bound <;> simp [put, turned, hb]

lemma put_turned_self : (x.put s).turned x.mode x.typing = x.put s := by
  obtain ⟨mode, typing, - | name, workspace⟩ := x <;> rfl

lemma exists_bound (hs : x.surface? = some s) :
    ∃ name, x.bound = some name ∧ x.workspace.get? name = some s :=
  Option.bind_eq_some_iff.mp hs

lemma put_workspace {name : Text} (hb : x.bound = some name) :
    (x.put s).workspace = x.workspace.update name s := by
  simp [put, hb]

lemma surface?_put (hs : x.surface? = some s) : (x.put s').surface? = some s' := by
  obtain ⟨name, hb, -⟩ := exists_bound hs
  simp [surface?, hb, put_workspace hb, Workspace.get?, Workspace.update, Table.get?_insert_self]

lemma get?_put {name : Text} (hb : x.bound ≠ some name) :
    (x.put s).workspace.get? name = x.workspace.get? name := by
  unfold put
  split
  · rename_i other ho
    have hn : name ≠ other := fun h => hb (h ▸ ho)
    exact Table.get?_insert_of_ne hn _ _
  · rfl

end Editor

lemma Mode.isInsert_of_isVisual {m : Mode} (hv : m.isVisual = true) : m.isInsert = false := by
  cases m <;> cases hv <;> rfl

lemma Mode.isVisual_of_isInsert {m : Mode} (hm : m.isInsert = true) : m.isVisual = false := by
  cases m <;> cases hm <;> rfl

lemma Mode.ne_normal_of_isVisual {m : Mode} (hv : m.isVisual = true) : m ≠ .normal := by
  rintro rfl
  cases hv

def Unlocked (h : Host) (s : Surface) : Prop := (h.readonly || s.readonly) = false

namespace Engine

def editor (e : Engine) : Editor := ⟨e.mode, e.typing, e.pending.surface, e.workspace⟩

variable {e : Engine} {s : Surface}

lemma editor_surface? : e.editor.surface? = e.surface? := rfl

@[simp] lemma editor_clearPending : e.clearPending.editor = e.editor := rfl

@[simp] lemma editor_putSurface : (e.putSurface s).editor = e.editor.put s := by
  unfold putSurface Editor.put editor
  split <;> simp_all

lemma surface?_putSurface {s' : Surface} (hs : e.surface? = some s) :
    (e.putSurface s').surface? = some s' := by
  rw [← editor_surface?, editor_putSurface]
  exact Editor.surface?_put hs

@[simp] lemma putSurface_mode : (e.putSurface s).mode = e.mode := by
  unfold putSurface
  split <;> rfl

@[simp] lemma putSurface_typing : (e.putSurface s).typing = e.typing := by
  unfold putSurface
  split <;> rfl

@[simp] lemma putSurface_pending : (e.putSurface s).pending = e.pending := by
  unfold putSurface
  split <;> rfl

lemma leave_mode_pending (before : Mode) :
    (e.leave before).mode = e.mode ∧ (e.leave before).pending = e.pending := by
  unfold leave
  split
  · exact ⟨rfl, rfl⟩
  · split <;> simp

section enter

variable {m : Mode} {block : Option BlockEdge}

lemma enter_mode_pending :
    (e.enter m block).mode = m ∧ (e.enter m block).pending = e.pending := by
  simp only [enter]
  split
  · exact ⟨rfl, rfl⟩
  · exact leave_mode_pending _
  · exact ⟨rfl, rfl⟩

lemma enter_insert (hm : m.isInsert = true) (he : e.mode.isInsert = false) :
    ∃ typing, (e.enter m block).editor = e.editor.turned m typing := by
  have hne : e.mode ≠ m := by
    rintro rfl
    exact absurd hm (he ▸ Bool.false_ne_true)
  cases m <;> cases hm <;> exact ⟨_, by simp only [enter, ModeChange.between?, if_neg hne]; rfl⟩

lemma enter_visual (hm : m.isVisual = true) :
    (e.enter m block).editor = e.editor.turned m e.typing := by
  simp only [enter, ModeChange.between?]
  split_ifs with he
  · rfl
  · cases m <;> cases hm <;> rfl

lemma enter_normal (he : e.mode ≠ .normal) (hs : e.surface? = some s) :
    (e.enter .normal block).editor =
      if e.mode.isInsert then
        (e.editor.put { e.typing.finish e.mode s with selection := none }).turned .normal {}
      else (e.editor.put { s with selection := none }).turned .normal e.typing := by
  obtain ⟨name, hb : e.pending.surface = some name, -⟩ := Editor.exists_bound (x := e.editor) hs
  have hs' : ({ e with mode := .normal } : Engine).surface? = some s := hs
  simp only [enter, ModeChange.between?, if_neg he, leave, hs']
  split <;> simp [editor, putSurface, Editor.put, Editor.turned, hb]

lemma enter_normal_of_normal (he : e.mode = .normal) :
    (e.enter .normal block).editor = e.editor := by
  simp [enter, ModeChange.between?, he, editor]

lemma enter_normal_unbound (hs : e.surface? = none) :
    (e.enter .normal block).editor = e.editor.turned .normal e.typing := by
  have hs' : ({ e with mode := .normal } : Engine).surface? = none := hs
  by_cases hn : e.mode = .normal
  · rw [enter_normal_of_normal hn]
    simp [editor, Editor.turned, hn]
  · simp only [enter, ModeChange.between?, if_neg hn, leave, hs']
    rfl

end enter

end Engine

namespace Surface

def landed (r : Surface × Position) : Surface := r.1.setCursor r.2

inductive Types (s : Surface) : Surface → Prop
  | erase (joint : Position)
      (hj : joint = ⟨s.cursor.line, Grapheme.prevBoundary s.currentLine s.cursor.byte⟩) :
      Types s ((s.erase joint s.cursor).setCursor joint)
  | insert (c : Char) : Types s (landed (s.insert s.cursor [c]))
  | overwrite (c : Char) (stop : Position)
      (hs : stop = ⟨s.cursor.line, Grapheme.nextBoundary s.currentLine s.cursor.byte⟩) :
      Types s (landed ((s.erase s.cursor stop).insert s.cursor [c]))

end Surface

inductive Surface.Picks (s : Surface) (before : Mode) : Selection → Prop
  | again {selection : Selection} (hv : before.isVisual = true)
      (hs : s.selection = some selection) (kind : SelectionKind) :
      Picks s before { selection with kind }
  | anew (kind : SelectionKind) : Picks s before ⟨s.cursor, s.cursor, kind⟩

inductive Editor.Goes (h : Host) (K : Mode → Surface → Surface → Prop) (x : Editor) : Editor → Prop
  | kept : Goes h K x x
  | unbound (hs : x.surface? = none) : Goes h K x (x.turned .normal x.typing)
  | opened (name : Text) (hm : x.mode.isInsert = false) :
      Goes h K x { x with bound := some name, workspace := x.workspace.activate name }
  | put {s s' : Surface} (hm : x.mode.isInsert = false) (hs : x.surface? = some s)
      (hk : K x.mode s s') : Goes h K x (x.put s')
  | selected {s : Surface} {selection : Selection} {m : Mode} (hm : x.mode.isInsert = false)
      (hs : x.surface? = some s) (hk : m.selectionKind? = some selection.kind)
      (hp : s.Picks x.mode selection) :
      Goes h K x ((x.put { s with selection := some selection }).turned m x.typing)
  | deselected {s s' : Surface} (hm : x.mode.isVisual = true) (hs : x.surface? = some s)
      (hk : s' = s ∨ K .normal s s') :
      Goes h K x ((x.put { s' with selection := none }).turned .normal x.typing)
  | begun {s s' : Surface} {typing : Typing} (hm : x.mode = .normal) (hs : x.surface? = some s)
      (hu : Unlocked h s) (hk : K .insert s s') (hr : s'.readonly = s.readonly) :
      Goes h K x ((x.put s').turned .insert typing)
  | changed {s s' : Surface} {typing : Typing} {m : Mode} (hm : x.mode.isVisual = true)
      (hi : m.isInsert = true) (hs : x.surface? = some s) (hu : Unlocked h s) (hk : K m s s')
      (hr : s'.readonly = s.readonly) :
      Goes h K x ((x.put { s' with selection := none }).turned m typing)
  | typed {s s' : Surface} {typing : Typing} (hm : x.mode.isInsert = true)
      (hs : x.surface? = some s) (ht : s.Types s') : Goes h K x ((x.put s').turned x.mode typing)
  | finished {s : Surface} (hm : x.mode.isInsert = true) (hs : x.surface? = some s) :
      Goes h K x
        ((x.put { x.typing.finish x.mode s with selection := none }).turned .normal {})

lemma Editor.Goes.mono {h : Host} {K K' : Mode → Surface → Surface → Prop} {x x' : Editor}
    (hx : Goes h K x x') (hk : ∀ m s s', x.surface? = some s → K m s s' → K' m s s') :
    Goes h K' x x' := by
  cases hx with
  | kept => exact .kept
  | unbound hs => exact .unbound hs
  | opened name hm => exact .opened name hm
  | put hm hs h₁ => exact .put hm hs (hk _ _ _ hs h₁)
  | selected hm hs h₁ hp => exact .selected hm hs h₁ hp
  | deselected hm hs h₁ => exact .deselected hm hs (h₁.imp_right (hk _ _ _ hs))
  | begun hm hs hu h₁ hr => exact .begun hm hs hu (hk _ _ _ hs h₁) hr
  | changed hm hi hs hu h₁ hr => exact .changed hm hi hs hu (hk _ _ _ hs h₁) hr
  | typed hm hs ht => exact .typed hm hs ht
  | finished hm hs => exact .finished hm hs

lemma Editor.Goes.exists_surface {h : Host} {K : Mode → Surface → Surface → Prop} {x y : Editor}
    {name : Text} {s : Surface} (hg : x.Goes h K y) (hi : x.mode.isInsert = false)
    (hb : x.bound = some name) (hs : x.workspace.get? name = some s) :
    ∃ m s' selection, y.workspace.get? name = some { s' with selection } ∧ (s' = s ∨ K m s s') := by
  have hx : x.surface? = some s := by rwa [surface?, hb]
  have hsame : ∀ {s₁ : Surface}, x.surface? = some s₁ → s₁ = s := fun h₁ =>
    Option.some.inj (h₁.symm.trans hx)
  have hput : ∀ s', (x.put s').workspace.get? name = some s' := fun s' => by
    rw [put_workspace hb]
    exact Table.get?_insert_self ..
  cases hg with
  | kept => exact ⟨x.mode, s, _, hs, .inl rfl⟩
  | unbound => exact ⟨x.mode, s, _, hs, .inl rfl⟩
  | opened other => exact ⟨x.mode, s, _, Workspace.get?_activate hs other, .inl rfl⟩
  | put _ h₁ hk => exact ⟨_, _, _, hput _, .inr (hsame h₁ ▸ hk)⟩
  | selected _ h₁ =>
    obtain rfl := hsame h₁
    exact ⟨x.mode, _, _, hput _, .inl rfl⟩
  | deselected _ h₁ hk => exact ⟨_, _, _, hput _, hsame h₁ ▸ hk⟩
  | begun _ h₁ _ hk => exact ⟨_, _, _, hput _, .inr (hsame h₁ ▸ hk)⟩
  | changed _ _ h₁ _ hk => exact ⟨_, _, _, hput _, .inr (hsame h₁ ▸ hk)⟩
  | typed hm => cases hi.symm.trans hm
  | finished hm => cases hi.symm.trans hm

namespace Editor

structure Holds (name : Text) (P : Mode → Surface → Prop) (x : Editor) : Prop where
  bound : x.bound = some name
  surface : ∃ s, x.workspace.get? name = some s ∧ P x.mode s

namespace Holds

variable {h : Host} {K : Mode → Surface → Surface → Prop} {P : Mode → Surface → Prop}
  {name : Text} {x y : Editor} {s : Surface}

lemma of_surface? (hx : x.Holds name P) (hs : x.surface? = some s) : P x.mode s := by
  obtain ⟨s', hg, hp⟩ := hx.surface
  rw [surface?, hx.bound] at hs
  obtain rfl : s' = s := Option.some.inj (hg.symm.trans hs)
  exact hp

lemma put (hx : x.Holds name P) {m : Mode} {typing : Typing} (hp : P m s) :
    ((x.put s).turned m typing).Holds name P := by
  refine ⟨?_, s, ?_, hp⟩
  · simp [turned, hx.bound]
  · simp [turned, put_workspace hx.bound, Workspace.get?, Workspace.update, Table.get?_insert_self]

lemma rebound (hx : x.Holds name P) (hy : y.Holds name P) : (y.rebound x.bound).Holds name P := by
  rw [hx.bound, ← hy.bound]
  exact hy

lemma goes (hx : x.Holds name P) (hg : x.Goes h K y) (hb : y.bound = some name)
    (hput : ∀ s s', x.surface? = some s → y.surface? = some s' → y.mode = x.mode →
      x.mode.isInsert = false → K x.mode s s' → P x.mode s → P x.mode s')
    (hselect : ∀ s selection m, x.mode.isInsert = false → s.Picks x.mode selection →
      P x.mode s → P m { s with selection := some selection })
    (hleave : ∀ m s s' selection, x.surface? = some s → x.mode.isInsert = false →
      m.isVisual = false → K m s s' → P x.mode s → P m { s' with selection })
    (hdrop : ∀ s, x.mode.isVisual = true → P x.mode s → P .normal { s with selection := none })
    (htype : ∀ s s', x.mode.isInsert = true → s.Types s' → P x.mode s → P x.mode s')
    (hfinish : ∀ s, x.mode.isInsert = true → P x.mode s →
      P .normal { x.typing.finish x.mode s with selection := none }) : y.Holds name P := by
  cases hg with
  | kept => exact hx
  | unbound hs =>
    obtain ⟨s, hget, -⟩ := hx.surface
    rw [surface?, hx.bound] at hs
    cases hs.symm.trans hget
  | opened other =>
    obtain ⟨s, hget, hp⟩ := hx.surface
    exact ⟨hb, s, Workspace.get?_activate hget other, hp⟩
  | put hm hs hk =>
    have hp := hput _ _ hs (surface?_put hs) put_mode hm hk (hx.of_surface? hs)
    exact put_turned_self ▸ hx.put hp
  | selected hm hs _ hk => exact hx.put (hselect _ _ _ hm hk (hx.of_surface? hs))
  | deselected hm hs hk =>
    have hp := hx.of_surface? hs
    rcases hk with rfl | hk
    · exact hx.put (hdrop _ hm hp)
    · exact hx.put (hleave _ _ _ _ hs (Mode.isInsert_of_isVisual hm) rfl hk hp)
  | begun hm hs _ hk =>
    exact hx.put (hleave _ _ _ _ hs (by rw [hm]; rfl) rfl hk (hx.of_surface? hs))
  | changed hm hi hs _ hk =>
    have hv := Mode.isVisual_of_isInsert hi
    exact hx.put (hleave _ _ _ _ hs (Mode.isInsert_of_isVisual hm) hv hk (hx.of_surface? hs))
  | typed hm hs hk => exact hx.put (htype _ _ hm hk (hx.of_surface? hs))
  | finished hm hs => exact hx.put (hfinish _ hm (hx.of_surface? hs))

end Holds

end Editor

end ModalEdit
