import ModalEdit.Proofs.MotionTargets
import ModalEdit.Proofs.Turns

/-! A command that fails has edited nothing: each surface has the text, the cursor and the registers
that it had before. -/

namespace ModalEdit

open Text

namespace Surface

def content (s : Surface) : Text × Position × Registers := (s.text, s.cursor, s.registers)

lemma foldl_mapLine (f : Text → Text) (is : List Nat) (acc : Surface × Nat) :
    acc.2 ≤ (is.foldl (mapLine f) acc).2 ∧
      ((is.foldl (mapLine f) acc).2 = acc.2 → is.foldl (mapLine f) acc = acc) := by
  induction is generalizing acc with
  | nil => exact ⟨Nat.le_refl _, fun _ => rfl⟩
  | cons i is ih =>
    obtain ⟨hle, heq⟩ := ih (mapLine f acc i)
    rw [List.foldl_cons]
    by_cases hf : f (acc.1.lineAt i) = acc.1.lineAt i
    · have ha : mapLine f acc i = acc := if_pos hf
      rw [ha] at hle heq ⊢
      exact ⟨hle, heq⟩
    · have ha : (mapLine f acc i).2 = acc.2 + 1 := by simp [mapLine, hf]
      exact ⟨by omega, fun h => by omega⟩

lemma mapLines_of_zero {s s' : Surface} {first last : Nat} {f : Text → Text}
    (h : s.mapLines first last f = (s', 0)) : s' = s := by
  have hf := (foldl_mapLine f (lineRange first last) (s, 0)).2 (congrArg (·.2) h)
  exact congrArg (·.1) (h.symm.trans hf)

end Surface

structure Editor.Unedited (x x' : Editor) : Prop where
  bound : x'.bound = x.bound
  content name : (x'.workspace.get? name).map Surface.content =
    (x.workspace.get? name).map Surface.content

namespace Editor.Unedited

variable {x x' : Editor} {s s' : Surface}

protected lemma refl (x : Editor) : x.Unedited x := ⟨rfl, fun _ => rfl⟩

lemma turned (hx : x.Unedited x') (m : Mode) (typing : Typing) :
    x.Unedited (x'.turned m typing) :=
  ⟨hx.bound, hx.content⟩

lemma put (hs : x.surface? = some s) (hc : s'.content = s.content) : x.Unedited (x.put s') := by
  refine ⟨put_bound, fun name => ?_⟩
  by_cases hb : x.bound = some name
  · have hx : (x.put s').surface? = some s' := surface?_put hs
    simp only [surface?, put_bound, hb, Option.bind_some] at hs hx
    rw [hs, hx]
    exact congrArg some hc
  · rw [get?_put hb]

end Editor.Unedited

namespace Engine

variable {e : Engine} {h : Host} {s : Surface}

lemma enter_unedited (hi : e.mode.isInsert = false) (m : Mode) (block : Option BlockEdge) :
    e.editor.Unedited (e.enter m block).editor := by
  have hturned : ∀ typing, e.editor.Unedited (e.editor.turned m typing) :=
    (Editor.Unedited.refl _).turned m
  cases hm : m.isInsert with
  | true =>
    obtain ⟨typing, hx⟩ : ∃ typing, (e.enter m block).editor = e.editor.turned m typing :=
      enter_insert hm hi
    rw [hx]
    exact hturned typing
  | false =>
    by_cases hn : m = .normal
    · subst hn
      by_cases he : e.mode = .normal
      · rw [enter_normal_of_normal he]
        exact .refl _
      · cases hs : e.surface? with
        | none =>
          rw [enter_normal_unbound hs]
          exact hturned _
        | some s =>
          have hp : e.editor.Unedited (e.editor.put { s with selection := none }) := .put hs rfl
          rw [enter_normal he hs, hi, if_neg Bool.false_ne_true]
          exact hp.turned _ _
    · have hv : m.isVisual = true := by
        cases m <;> simp_all [Mode.isVisual, Mode.isInsert]
      rw [enter_visual hv]
      exact hturned _

lemma changeMode_unedited (hi : e.mode.isInsert = false) (text : Text)
    (block : Option BlockEdge) : e.editor.Unedited (e.changeMode h text block).1.editor := by
  unfold changeMode
  split
  · exact enter_unedited hi _ _
  · exact .refl _

def Harmless (e : Engine) (x : Engine × Bool) : Prop := x.2 = false → e.editor.Unedited x.1.editor

lemma harmless_true (e' : Engine) : e.Harmless (e', true) := nofun

lemma harmless_of_editor {e' : Engine} (he : e'.editor = e.editor) (acted : Bool) :
    e.Harmless (e', acted) :=
  fun _ => he ▸ .refl _

lemma editedBy_harmless {f : Engine → Engine × Bool} (hf : e.Harmless (f e)) :
    e.Harmless (e.editedBy h s f) := by
  unfold editedBy editable
  by_cases hu : (h.readonly || s.readonly) = true
  · rw [if_pos hu]
    exact harmless_of_editor rfl _
  · rw [if_neg hu]
    exact hf

section command

variable {text : Text} {register : Option Char} {count : Nat}

lemma operate_harmless (op : Operator) (span : Span) :
    e.Harmless (e.operate h s op span register text) := by
  unfold operate
  dsimp only
  split
  · exact editedBy_harmless (harmless_true _)
  · exact harmless_true _

lemma move_harmless (hs : e.surface? = some s) (m : Motion) (explicit : Bool) :
    e.Harmless (e.move s m count explicit) := by
  intro hf
  unfold move at hf ⊢
  dsimp only at hf ⊢
  have hc : normalize s.text (m.target s.text s.cursor count explicit) = s.cursor := by
    simpa using hf
  rw [editor_putSurface]
  refine .put (x := e.editor) hs ?_
  have hn := clamp_normalize s.text (m.target s.text s.cursor count explicit)
  rw [hc] at hn ⊢
  simp only [Surface.content, Surface.setCursor, hn]

lemma runSimple_harmless (c : Simple) : e.Harmless (e.runSimple h s c count register text) := by
  unfold runSimple
  cases c with
  | yankLines => exact operate_harmless _ _
  | deleteForward =>
    refine editedBy_harmless ?_
    dsimp only
    split
    · exact harmless_of_editor rfl _
    · exact operate_harmless _ _
  | deleteBackward =>
    refine editedBy_harmless ?_
    dsimp only
    split
    · exact harmless_of_editor rfl _
    · exact operate_harmless _ _
  | deleteToEnd => exact editedBy_harmless (operate_harmless _ _)
  | changeToEnd => exact editedBy_harmless (operate_harmless _ _)
  | paste side =>
    refine editedBy_harmless ?_
    dsimp only [pasteRegister]
    split
    · exact harmless_true _
    · exact harmless_of_editor rfl _
  | joinLines =>
    refine editedBy_harmless ?_
    dsimp only [joinBelow]
    split
    · exact harmless_of_editor rfl _
    · exact harmless_true _
  | toggleCase =>
    refine editedBy_harmless ?_
    dsimp only [toggleAhead]
    split
    · exact harmless_of_editor rfl _
    · exact harmless_true _

lemma replace_harmless (c : Char) : e.Harmless (e.replace h s c count) := by
  refine editedBy_harmless ?_
  split
  · exact harmless_of_editor rfl _
  · exact harmless_true _

lemma insert_harmless (hi : e.mode.isInsert = false) (i : Insertion) :
    e.Harmless (e.insert h s i count text) := by
  unfold insert
  split
  · exact fun _ => changeMode_unedited hi text none
  · exact harmless_true _

lemma select_harmless : e.Harmless (e.select h s text) := by
  unfold select changeMode
  cases e.mode.afterText? text (e.isReadonly h) with
  | none => exact harmless_of_editor rfl _
  | some m =>
    dsimp only
    split <;> exact harmless_true _

lemma giveUp_harmless (hi : e.mode.isInsert = false) : e.Harmless e.giveUp :=
  fun _ => enter_unedited hi _ _

lemma useRegion_harmless (a : VisualAction) (span : Span) :
    e.Harmless (e.useRegion h s a span register count text) := by
  unfold useRegion
  dsimp only
  split
  · exact harmless_of_editor rfl _
  · exact harmless_true _

lemma useSelection_harmless (hi : e.mode.isInsert = false) (a : VisualAction) :
    e.Harmless (e.useSelection h s a register count text) := by
  unfold useSelection
  split
  · exact harmless_of_editor rfl _
  · split
    · exact giveUp_harmless hi
    · dsimp only
      split
      · unfold editable
        by_cases hu : (h.readonly || s.readonly) = true
        · rw [if_pos hu]
          exact giveUp_harmless (e := e.tell "readonly") hi
        · rw [if_neg hu]
          exact useRegion_harmless _ _
      · exact useRegion_harmless _ _

lemma escapeMode_harmless : e.Harmless e.escapeMode := by
  intro hf
  have hn : e.mode = .normal := by simpa [escapeMode] using hf
  exact harmless_of_editor (enter_normal_of_normal hn) false rfl

lemma runCommand_harmless (hi : e.mode.isInsert = false) (hs : e.surface? = some s) (c : Command) :
    e.Harmless (e.runCommand h s text c) := by
  cases c with
  | escape => exact escapeMode_harmless
  | move m count explicit => exact move_harmless hs m explicit
  | operate => exact operate_harmless _ _
  | operateLines => exact operate_harmless _ _
  | simple c => exact runSimple_harmless c
  | replace c => exact replace_harmless c
  | insert i => exact insert_harmless hi i
  | visual => exact select_harmless
  | visualAction a => exact useSelection_harmless hi a

lemma execute_harmless (hi : e.mode.isInsert = false) (c : Command) :
    e.Harmless (e.execute h text c) := by
  unfold execute
  split
  · exact harmless_of_editor rfl _
  · exact runCommand_harmless hi ‹_› c

end command

section line

lemma substitute_harmless (hs : e.surface? = some s) (r : LineRange) (pattern replacement : Text)
    (all : Bool) : e.Harmless (e.substitute s r pattern replacement all) := by
  unfold substitute
  split
  · exact harmless_of_editor rfl _
  · dsimp only
    split
    · rename_i hz
      obtain rfl := Surface.mapLines_of_zero hz
      refine fun _ => ?_
      change e.editor.Unedited (e.putSurface _).editor
      rw [editor_putSurface]
      exact .put (x := e.editor) hs rfl
    · exact harmless_true _

lemma runLineCommand_harmless (hs : e.surface? = some s) (c : LineCommand) :
    e.Harmless (e.runLineCommand h s c) := by
  cases c with
  | goTo => exact harmless_true _
  | delete => exact editedBy_harmless (harmless_true _)
  | yank => exact harmless_true _
  | substitute r pattern replacement all =>
    exact editedBy_harmless (substitute_harmless hs r pattern replacement all)
  | edit name =>
    dsimp only [runLineCommand, openSurface]
    split
    · exact harmless_of_editor rfl _
    · exact harmless_of_editor rfl _
    · exact harmless_true _
  | setOption option =>
    dsimp only [runLineCommand, setOption]
    split
    · exact harmless_true _
    · exact harmless_true _
    · exact harmless_true _
    · exact harmless_true _
    · exact harmless_of_editor rfl _
  | registers => exact harmless_true _
  | macros => exact harmless_true _
  | unknown => exact harmless_of_editor rfl _

lemma search_harmless (d : SearchDirection) (pattern : Text) :
    e.Harmless (e.search s d pattern) := by
  unfold search
  split
  · exact harmless_of_editor rfl _
  · split
    · exact harmless_of_editor rfl _
    · dsimp only
      split
      · exact harmless_true _
      · exact harmless_of_editor rfl _

lemma finishLine_harmless : e.Harmless (e.finishLine h) := by
  unfold finishLine
  split
  · exact harmless_of_editor rfl _
  · rename_i s hs
    change e.Harmless (e.runLine h s)
    unfold runLine
    dsimp only
    split
    · exact runLineCommand_harmless hs _
    · exact search_harmless _ _
    · exact harmless_of_editor (calculate_editor _) _
    · exact harmless_of_editor (runShell_editor _) _
    · exact harmless_of_editor rfl _
    · exact harmless_of_editor rfl _

end line

lemma insertKey_harmless (c : Char) : e.Harmless (e.insertKey c) := by
  unfold insertKey
  split
  · exact escapeMode_harmless
  · split
    · exact harmless_of_editor rfl _
    · split
      · dsimp only [eraseBack]
        split
        · exact harmless_of_editor rfl _
        · exact harmless_true _
      · exact harmless_true _

lemma expandVariable_harmless (name : Text) (times : Nat) :
    e.Harmless (e.expandVariable h name times) := by
  unfold expandVariable
  split
  · exact harmless_of_editor rfl _
  · refine editedBy_harmless ?_
    dsimp only
    split
    · exact harmless_of_editor rfl _
    · exact harmless_true _

lemma nextLine_harmless : e.Harmless e.nextLine := by
  unfold nextLine
  split
  · exact harmless_of_editor rfl _
  · split
    · exact harmless_of_editor rfl _
    · exact harmless_true _

def HarmlessUnlessActed (e : Engine) (x : Engine × Reply) : Prop :=
  x.2 ≠ .handled true → e.editor.Unedited x.1.editor

lemma Harmless.handle {x : Engine × Bool} (hx : e.Harmless x) :
    e.HarmlessUnlessActed (handle x) := by
  intro hn
  obtain ⟨e', acted⟩ := x
  cases acted with
  | true => exact absurd rfl hn
  | false => exact hx rfl

lemma harmlessUnlessActed_of_editor {e' : Engine} (he : e'.editor = e.editor) (r : Reply) :
    e.HarmlessUnlessActed (e', r) :=
  fun _ => he ▸ .refl _

lemma runMacro_harmless (body : Text) (times : Nat) (complete : Bool) :
    e.HarmlessUnlessActed (e.runMacro h body times complete) := by
  unfold runMacro
  obtain ⟨macros, interaction, outcome⟩ := e.macros.read e.interaction body complete times
  dsimp only
  split
  · refine harmlessUnlessActed_of_editor ?_ _
    split <;> rfl
  · exact harmlessUnlessActed_of_editor rfl _
  · exact harmlessUnlessActed_of_editor rfl _
  · exact harmlessUnlessActed_of_editor rfl _
  · exact harmlessUnlessActed_of_editor rfl _
  · exact harmlessUnlessActed_of_editor rfl _
  · exact (expandVariable_harmless
      (e := (clearPending { e with macros, interaction }).noteResolved _)
      _ _).handle

lemma runPending_harmless (hi : e.mode.isInsert = false) (complete : Bool) :
    e.HarmlessUnlessActed (e.runPending h complete) := by
  unfold runPending
  dsimp only
  split
  · exact harmlessUnlessActed_of_editor rfl _
  · split
    · exact runMacro_harmless _ _ _
    · split
      · refine harmlessUnlessActed_of_editor ?_ _
        split <;> rfl
      · exact harmlessUnlessActed_of_editor rfl _
      · exact (execute_harmless (e := e.clearPending) hi _).handle

lemma commandKey_harmless (hi : e.mode.isInsert = false) (c : Char) :
    e.HarmlessUnlessActed (e.commandKey h c) := by
  unfold commandKey
  split
  · split
    · exact escapeMode_harmless.handle
    · exact harmlessUnlessActed_of_editor rfl _
  · split
    · refine Harmless.handle ?_
      unfold lineKey
      split
      · exact finishLine_harmless
      · split <;> exact harmless_of_editor rfl _
    · split
      · unfold enterKey
        split
        · exact runPending_harmless hi true
        · split
          · exact nextLine_harmless.handle
          · exact harmlessUnlessActed_of_editor rfl _
      · split
        · exact harmlessUnlessActed_of_editor rfl _
        · dsimp only
          split
          · exact harmlessUnlessActed_of_editor rfl _
          · exact runPending_harmless (e := e.extend c) hi false

theorem stroke_harmless (e : Engine) (h : Host) (c : Char) :
    e.HarmlessUnlessActed (e.stroke h c) := by
  unfold stroke
  split
  · exact (insertKey_harmless c).handle
  · exact commandKey_harmless ((Bool.not_eq_true _).mp ‹_›) c

def starts : Engine × Reply → Bool
  | (_, .handled _) => false
  | (e, .play name times) => times != 0 && (e.macros.beginPlayback e.interaction name).2.2.isSome

lemma playWith_editor {name : Text} {times : Nat} (hs : starts (e, .play name times) = false)
    (h : Host) (key : KeyFunction) : (playWith h key e name times).1.editor = e.editor := by
  simp only [starts, Bool.and_eq_false_iff, bne_eq_false_iff_eq] at hs
  unfold playWith
  split
  · rfl
  · rename_i ht
    replace hs := hs.resolve_left ht
    generalize e.macros.beginPlayback e.interaction name = r at hs ⊢
    obtain ⟨macros, interaction, - | keys⟩ := r
    · rfl
    · cases hs

lemma settle_harmless {x : Engine × Reply} (hx : e.HarmlessUnlessActed x) (hs : starts x = false)
    (h : Host) (key : KeyFunction) : e.Harmless (settle h key x) := by
  obtain ⟨e', acted | ⟨name, times⟩⟩ := x
  · rintro rfl
    exact hx nofun
  · intro _
    change e.editor.Unedited (playWith h key e' name times).1.editor
    rw [playWith_editor hs]
    exact hx nofun

theorem key_harmless (e : Engine) (h : Host) (c : Char) (hs : starts (e.stroke h c) = false) :
    e.Harmless (e.key h c) := by
  obtain ⟨inner, -, hk⟩ := keyAt_eq h e.macros.machine.limit
  have hx := settle_harmless (stroke_harmless e h c) hs h inner
  unfold key
  rw [hk]
  intro hf
  simp only [keyWith, reportMode_editor, record_editor]
  exact hx hf

theorem command_harmless (hi : e.mode.isInsert = false) (h : Host) (t : Text)
    (ht : (CommandKind.ofText (withoutEnter t)).isLine = true) : e.Harmless (e.command h t) := by
  have hw : (!e.mode.isInsert && isWhole (withoutEnter t)) = true := by simp [hi, isWhole, ht]
  intro hf
  unfold command runWhole wholeStroke at hf ⊢
  rw [if_pos hw] at hf ⊢
  simp only [ht, ↓reduceIte, reportMode_editor, record_editor] at hf ⊢
  exact finishLine_harmless hf

/-- Neither a key that starts no playback nor a line edits a surface and fails. -/
theorem failure_edits_nothing (e : Engine) (h : Host) :
    (∀ c, starts (e.stroke h c) = false → (e.key h c).2 = false →
      e.editor.Unedited (e.key h c).1.editor) ∧
    ∀ t, e.mode.isInsert = false → (CommandKind.ofText (withoutEnter t)).isLine = true →
      (e.command h t).2 = false → e.editor.Unedited (e.command h t).1.editor :=
  ⟨fun c hs => key_harmless e h c hs, fun t hi ht => command_harmless hi h t ht⟩

theorem sample_failure_edits_nothing :
    let e := ((sample "abc\nde" []).type {} "ylj5r".toList).1
    e.editor.Unedited (e.key {} 'z').1.editor ∧
      e.editor.Unedited (e.command {} ":s/x/y/\r".toList).1.editor :=
  ⟨(failure_edits_nothing _ {}).1 'z' (by decide +kernel) (by decide +kernel),
    (failure_edits_nothing _ {}).2 _ (by decide +kernel) (by decide +kernel) (by decide +kernel)⟩

end Engine

end ModalEdit
