import ModalEdit.Proofs.OnLine
import ModalEdit.Proofs.Spelling

namespace ModalEdit

open Text
open Surface (landed)

lemma Selection.lines_of_le (selection : Selection)
    (hle : selection.anchor.line ≤ selection.head.line) :
    selection.start.line = selection.anchor.line ∧ selection.stop.line = selection.head.line := by
  unfold start stop Position.first Position.last
  split
  · exact ⟨rfl, rfl⟩
  · rename_i hlt
    rw [Position.le_def] at hlt
    exact ⟨by omega, by omega⟩

namespace Surface

variable {s : Surface}

lemma shiftLine_with (s : Surface) (p : Position) (selection : Option Selection) (d : Direction)
    (i : Nat) :
    ∃ p', shiftLine d { s with cursor := p, selection } i =
      { shiftLine d s i with cursor := p', selection } := by
  cases d with
  | right =>
    by_cases hl : (s.lineAt i).isEmpty = true
    · exact ⟨p, by simp only [shiftLine, if_pos hl]; exact if_pos hl⟩
    · exact ⟨p, by simp only [shiftLine, if_neg hl]; exact if_neg hl⟩
  | left =>
    by_cases hl : outdent (s.lineAt i) = 0
    · exact ⟨p, by simp only [shiftLine, if_pos hl]; exact if_pos hl⟩
    · exact ⟨_, by simp only [shiftLine, if_neg hl]; exact if_neg hl⟩

lemma shift_with (s : Surface) (p : Position) (selection : Option Selection) (first last : Nat)
    (d : Direction) :
    ∃ p', ({ s with cursor := p, selection } : Surface).shift first last d =
      { s.shift first last d with cursor := p', selection } := by
  simp only [shift, lastLine]
  generalize lineRange first _ = is
  induction is generalizing s p with
  | nil => exact ⟨p, rfl⟩
  | cons i is ih =>
    obtain ⟨p', hp'⟩ := shiftLine_with s p selection d i
    rw [List.foldl_cons, List.foldl_cons, hp']
    exact ih (shiftLine d s i) p'

lemma emptyLines_firstNonBlank {first last : Nat} (hs : ∀ l ∈ s.text.lines, Unbroken l)
    (hle : first ≤ last) (hl : last < s.lineCount) :
    firstNonBlankOf (s.emptyLines first last).1.text first = 0 := by
  obtain ⟨n, rfl⟩ : ∃ n, last = first + n := ⟨last - first, by omega⟩
  obtain ⟨a, b, -, ht, hempty⟩ := Span.emptyLines_between hs hl
  rw [firstNonBlankOf, ht, hempty]
  rfl

end Surface

namespace Operator

variable {s : Surface}

def onSelection : Operator → VisualAction
  | delete => .delete
  | yank => .yank
  | change => .change
  | shift d => .shift d

lemma landed_onSelection (op : Operator) (ho : op.edits = true) {first last : Nat}
    (hs : ∀ l ∈ s.text.lines, Unbroken l) (hle : first ≤ last) (hl : last < s.lineCount)
    (p : Position) (selection : Option Selection) (register : Option Char) :
    landed (op.onSelection.apply { s with cursor := p, selection } (.lines first last) register 1) =
      { op.apply s (.lines first last) register with selection } := by
  cases op with
  | yank => cases ho
  | delete => rfl
  | change =>
    have hz := Surface.emptyLines_firstNonBlank hs hle hl
    exact congrArg (fun byte => { ((s.emptyLines first last).1.setCursor ⟨first, byte⟩).store register
      (s.emptyLines first last).2 with selection }) hz
  | shift d =>
    obtain ⟨p', hp'⟩ := Surface.shift_with s p selection first last d
    exact congrArg (fun s : Surface => s.setCursor ⟨first, firstNonBlankOf s.text first⟩) hp'

end Operator

namespace Command

variable {q : Text} {p : Prefix}

lemma parse_down (visual : Bool) (hq : Prefix.split? q = some (p, [])) :
    parse visual (q ++ ['j']) = .complete (.move .down p.countOrOne p.count.isSome) := by
  rw [parse_of_split (Prefix.split?_header_append hq (by decide) (by decide) [])]
  rfl

lemma parse_onSelection {op : Operator} {key : Char} (hq : Prefix.split? q = some (p, []))
    (ho : Operator.ofKey? key = some op) :
    parse true (q ++ [key]) = .complete (.visualAction op.onSelection p.register p.countOrOne) := by
  refine parse_visualAction hq ?_
  unfold Operator.ofKey? at ho
  split at ho <;> cases ho <;> rfl

end Command

namespace Prefix

def typedRegister (register : Option Char) : Option Char :=
  register.filter fun c => decide (Typable c)

lemma typable_registerKeys {register : Option Char} :
    ∀ k ∈ registerKeys (typedRegister register), Typable k := by
  cases hr : typedRegister register with
  | none => exact fun _ hk => nomatch hk
  | some c =>
    have hc : Typable c := by simpa using (Option.filter_eq_some_iff.mp hr).2
    exact List.forall_mem_cons.mpr ⟨by decide, List.forall_mem_singleton.mpr hc⟩

end Prefix

namespace Engine

variable {e : Engine} {h : Host} {s : Surface} {text : Text} {register : Option Char} {n : Nat}

lemma editor_select (hm : e.mode = .normal)
    (ht : Trigger.classify? .normal text = some (.visual .lines)) :
    (e.select h s text).1.editor =
      (e.editor.put { s with selection := some ⟨s.cursor, s.cursor, .linewise⟩ }).turned
        .visualLine e.typing := by
  have hx : (e.enter .visualLine none).editor = e.editor.turned .visualLine e.typing :=
    enter_visual rfl
  have hmode : (e.enter .visualLine none).mode = .visualLine := congrArg Editor.mode hx
  have hstep : e.mode.step (.visual .lines) (e.isReadonly h) = .visualLine := by
    rw [hm]
    rfl
  simp only [select, changeMode_eq (hm ▸ ht), hstep, hmode, Mode.selectionKind?, editor_putSurface,
    hx, Editor.put_turned]
  rw [hm]
  cases s.selection <;> rfl

lemma editor_type_select (hm : e.mode = .normal) (hs : e.surface? = some s)
    (hp : e.pending.text = []) :
    (e.type h ['V']).1.editor =
        (e.editor.put { s with selection := some ⟨s.cursor, s.cursor, .linewise⟩ }).turned
          .visualLine e.typing ∧
      (e.type h ['V']).1.pending.text = [] := by
  have hkey : Typable 'V' := by decide
  have hparse : Command.parse false ['V'] = .complete (.visual .lines) := rfl
  obtain ⟨heditor, hpend⟩ := editor_type_of_complete (h := h) (by rw [hm]; rfl) hs (by simp [hp])
    (List.cons_ne_nil _ _) (List.forall_mem_singleton.mpr hkey) (by rwa [hp, hm])
  have hm' : e.clearPending.mode = .normal := hm
  rw [hp] at heditor
  exact ⟨heditor.trans (editor_select hm' rfl), hpend⟩

lemma editor_move {m : Motion} {selection : Selection} {explicit : Bool}
    (hv : e.mode.isVisual = true) (hsel : s.selection = some selection) {target : Position}
    (ht : normalize s.text (m.target s.text s.cursor n explicit) = target) :
    (e.move s m n explicit).1.editor = e.editor.put { s.setCursor target with
      selection := some { selection with head := target } } := by
  simp only [move, hv, hsel, ht, editor_putSurface, Option.map_some, ↓reduceIte]

lemma editor_type_down {selection : Selection} (hm : e.mode = .visualLine)
    (hs : e.surface? = some s) (hsel : s.selection = some selection) (hp : e.pending.text = [])
    (hn : 0 < n) (hcap : n ≤ countCap) {target : Position}
    (ht : normalize s.text (Motion.down.target s.text s.cursor n true) = target) :
    (e.type h (Nat.toDigits 10 n ++ ['j'])).1.editor = e.editor.put { s.setCursor target with
        selection := some { selection with head := target } } ∧
      (e.type h (Nat.toDigits 10 n ++ ['j'])).1.pending.text = [] := by
  have hj : Typable 'j' := by decide
  have hparse := Command.parse_down true (Prefix.split?_count (q := []) rfl hn hcap)
  rw [List.nil_append] at hparse
  obtain ⟨heditor, hpend⟩ := editor_type_of_complete (h := h) (by rw [hm]; rfl) hs (by simp [hp])
    (by simp) (List.forall_mem_append.mpr
      ⟨Prefix.typable_toDigits, List.forall_mem_singleton.mpr hj⟩) (by rwa [hp, hm])
  have hv : e.clearPending.mode.isVisual = true := by
    change e.mode.isVisual = true
    rw [hm]
    rfl
  exact ⟨heditor.trans (editor_move hv hsel ht), hpend⟩

lemma editor_useSelection {op : Operator} {selection : Selection} {first last : Nat}
    (hm : e.mode = .visualLine) (hs : e.surface? = some s) (hu : Unlocked h s)
    (hsel : s.selection = some selection)
    (hspan : Span.ofSelection s.text selection = .lines first last)
    (ht : Trigger.classify? .visualLine text = op.onSelection.trigger? .visualLine) {s' : Surface}
    (hs' : landed (op.onSelection.apply s (.lines first last) register 1) = s') :
    (e.useSelection h s op.onSelection register 1 text).1.editor =
      e.editor.operated op { s' with selection := none } := by
  have hblock : op.onSelection.isForBlock ≠ true := by cases op <;> exact Bool.false_ne_true
  have hput : (e.putSurface s').surface? = some s' := surface?_putSurface hs
  have hmode : (e.putSurface s').mode = .visualLine := by rw [putSurface_mode, hm]
  rw [Editor.operated]
  split
  · rename_i hc
    subst hc
    rw [useSelection_eq (t := .change) (absurd · hblock) hs hu hsel hspan (by rw [hm]; exact ht) hs',
      hm]
    have hne : (e.putSurface s').mode ≠ .insert := by
      rw [hmode]
      decide
    have hx := editor_useUp_insert rfl hput (editor_enter_insert hne none)
    rw [editor_putSurface, putSurface_typing, Editor.put_put] at hx
    exact hx
  · rename_i hc
    have htr : op.onSelection.trigger? .visualLine = some .operate := by
      cases op <;> first | rfl | exact absurd rfl hc
    rw [useSelection_eq (t := .operate) (absurd · hblock) hs hu hsel hspan (by rw [hm, ht, htr]) hs',
      hm]
    have hv : (e.putSurface s').mode.isVisual = true := by
      rw [hmode]
      rfl
    have hx :
        ((e.putSurface s').useUp .normal (op.onSelection.edge? (.lines first last))).editor = _ :=
      editor_useUp_normal hv hput
    rw [editor_putSurface, putSurface_typing, Editor.put_put] at hx
    exact hx

lemma editor_type_onSelection {op : Operator} {key : Char} {q : Text} {p : Prefix}
    {selection : Selection} {first last : Nat} (hm : e.mode = .visualLine)
    (hs : e.surface? = some s) (hu : Unlocked h s) (hp : e.pending.text = [])
    (hkey : Operator.ofKey? key = some op) (hsel : s.selection = some selection)
    (hspan : Span.ofSelection s.text selection = .lines first last)
    (hq : Prefix.split? q = some (p, [])) (hone : p.countOrOne = 1) (hk : ∀ k ∈ q, Typable k)
    {s' : Surface}
    (hs' : landed (op.onSelection.apply s (.lines first last) p.register 1) = s') :
    (e.type h (q ++ [key])).1.editor = e.editor.operated op { s' with selection := none } := by
  have hparse := Command.parse_onSelection hq hkey
  rw [hone] at hparse
  obtain ⟨heditor, -⟩ := editor_type_of_complete (h := h) (t := q ++ [key]) (by rw [hm]; rfl) hs
    (by simp [hp]) (by simp) (List.forall_mem_append.mpr
      ⟨hk, List.forall_mem_singleton.mpr (Operator.typable_key hkey)⟩) (by rwa [hp, hm])
  have hm' : e.clearPending.mode = .visualLine := hm
  rw [heditor, hp]
  exact editor_useSelection hm' hs hu hsel hspan
    (Command.classify?_of_parse (m := .visualLine) rfl hparse (by rintro ⟨⟩)).1 hs'

section registerKeys

open Prefix (registerKeys typedRegister)

lemma stroke_after_quote {c : Char} (hi : e.mode.isInsert = false) (hp : e.pending.text = ['"'])
    (hc : ¬Typable c) : ∃ acted, e.stroke h c = (e.clearPending, .handled acted) := by
  have hl : e.pending.kind.isLine = false := by
    rw [Pending.kind, hp]
    rfl
  have hmacro : e.pendingIsMacro = false := by
    rw [pendingIsMacro, hp]
    rfl
  have hpop : e.takeBack = e.clearPending := by
    rw [takeBack, clearPending, Pending.pop, Pending.clear, hp]
    rfl
  simp only [stroke, hi, commandKey, hl, hp, enterKey, hmacro, hpop]
  -- Esc and Enter give the command up, and an erasing key takes its only character
  by_cases hx : c = escapeKey
  · exact ⟨true, if_pos hx⟩
  · by_cases hr : isEnter c = true
    · exact ⟨false, by simp [hx, hr]⟩
    · have hb : isErasing c = true := by simpa [Typable, hx, hr] using hc
      exact ⟨true, by simp [hx, hr, hb]⟩

lemma type_registerKeys (hi : e.mode.isInsert = false) (hp : e.pending.text = [])
    (register : Option Char) :
    ∃ e₀ : Engine, e₀.editor = e.editor ∧ e₀.pending.text = [] ∧
      ∀ t, (e.type h (registerKeys register ++ t)).1 =
        (e₀.type h (registerKeys (typedRegister register) ++ t)).1 := by
  cases register with
  | none => exact ⟨e, rfl, hp, fun _ => rfl⟩
  | some c =>
    by_cases hc : Typable c
    · have ht : typedRegister (some c) = some c := if_pos (decide_eq_true hc)
      exact ⟨e, rfl, hp, fun _ => by rw [ht]⟩
    · have hquote : (e.type h ['"']).1 =
          { e with pending := e.pending.append ['"'], macros := e.macros.jot ['"'] } := by
        have hkey : Typable '"' := by decide
        refine type_of_incomplete hi (List.forall_mem_singleton.mpr hkey) fun s hs => ?_
        rw [hp, List.nil_append]
        obtain rfl | ⟨t, rfl, ht⟩ := List.prefix_cons_iff.mp hs
        · rfl
        · rw [List.prefix_nil.mp ht]
          rfl
      generalize hw : (e.type h ['"']).1 = w at hquote
      obtain ⟨acted, hs⟩ : ∃ acted, w.stroke h c = (w.clearPending, .handled acted) :=
        stroke_after_quote (by rw [hquote, hi]) (by rw [hquote, Pending.append, hp]; rfl) hc
      have hkey := key_of_handled hs rfl
      refine ⟨(w.key h c).1, ?_, ?_, fun t => ?_⟩
      · rw [hkey, reportMode_editor, hquote]
        rfl
      · rw [hkey, reportMode_pending]
        rfl
      · have ht : typedRegister (some c) = none := if_neg (by simpa using hc)
        rw [ht, ← hw, ← type_concat, ← type_append]
        rfl

end registerKeys

section lines

open Prefix (registerKeys typedRegister)

lemma ofSelection_down (hc : s.OnLine) (hn : 0 < n) {target : Position}
    (ht : normalize s.text (Motion.down.target s.text s.cursor n true) = target) :
    Span.ofSelection s.text ⟨s.cursor, target, .linewise⟩ = Operator.lineRegion s (n + 1) := by
  have hline : target.line = min (s.cursor.line + n) s.lastLine := by
    rw [← ht]
    simp only [normalize, Motion.target, Motion.sameColumn, Nat.max_eq_right hn, Surface.lastLine]
    omega
  have hlast : s.cursor.line ≤ s.lastLine := Nat.le_sub_one_of_lt hc
  obtain ⟨hstart, hstop⟩ := Selection.lines_of_le ⟨s.cursor, target, .linewise⟩
    (hline ▸ Nat.le_min.mpr ⟨Nat.le_add_right .., hlast⟩)
  simp only [Span.ofSelection, hstart, hstop, hline, Operator.lineRegion]
  rfl

lemma editor_doubled {op : Operator} {key : Char} (hm : e.mode = .normal)
    (hp : e.pending.text = []) (hs : e.surface? = some s) (hu : Unlocked h s)
    (hkey : Operator.ofKey? key = some op) (ho : op.edits = true) (hn : 0 < n)
    (hcap : n ≤ countCap) :
    (e.type h (registerKeys register ++ (Nat.toDigits 10 n ++ [key, key]))).1.editor =
      e.editor.operated op
        (op.apply s (Operator.lineRegion s n) (typedRegister register)) := by
  obtain ⟨e₀, heditor, hp₀, htype⟩ := type_registerKeys (h := h) (by rw [hm]; rfl) hp register
  have hq := Prefix.split?_count (Prefix.split?_registerKeys (typedRegister register)) hn hcap
  have hm₀ : e₀.mode = .normal := (congrArg Editor.mode heditor).trans hm
  have hs₀ : e₀.surface? = some s := (congrArg Editor.surface? heditor).trans hs
  have hkeys : ∀ k ∈ registerKeys (typedRegister register) ++ Nat.toDigits 10 n, Typable k :=
    List.forall_mem_append.mpr ⟨Prefix.typable_registerKeys, Prefix.typable_toDigits⟩
  have hdoubled := (editor_type_doubled (h := h) hm₀ hs₀ hu hkey ho (by rw [hp₀]; exact hq)
    (by simp [hp₀]) hkeys).1
  simp only [Prefix.countOrOne, Option.getD_some, Nat.min_eq_left hcap] at hdoubled
  rw [htype, ← List.append_assoc, hdoubled, heditor]

lemma editor_visual {op : Operator} {key : Char} (hm : e.mode = .normal)
    (hp : e.pending.text = []) (hs : e.surface? = some s) (hu : Unlocked h s) (hc : s.OnLine)
    (ht : FeedsOnly s.text) (hkey : Operator.ofKey? key = some op) (ho : op.edits = true)
    (hn : 0 < n) (hcap : n ≤ countCap) :
    (e.type h ('V' :: (Nat.toDigits 10 n ++ 'j' :: (registerKeys register ++ [key])))).1.editor =
      e.editor.operated op
        { op.apply s (Operator.lineRegion s (n + 1)) (typedRegister register) with
          selection := none } := by
  have hkeys : 'V' :: (Nat.toDigits 10 n ++ 'j' :: (registerKeys register ++ [key])) =
      ['V'] ++ ((Nat.toDigits 10 n ++ ['j']) ++ (registerKeys register ++ [key])) := by simp
  rw [hkeys, type_append, type_append]
  -- the line of the cursor is selected, and then the lines below it
  obtain ⟨heditor₁, hp₁⟩ := editor_type_select (h := h) hm hs hp
  generalize (e.type h ['V']).1 = e₁ at heditor₁ hp₁ ⊢
  obtain ⟨target, htarget⟩ : ∃ target,
    normalize s.text (Motion.down.target s.text s.cursor n true) = target := ⟨_, rfl⟩
  have hs₁ : e₁.surface? = _ := (congrArg Editor.surface? heditor₁).trans (Editor.surface?_put hs)
  obtain ⟨heditor₂, hp₂⟩ :=
    editor_type_down (h := h) (congrArg Editor.mode heditor₁) hs₁ rfl hp₁ hn hcap htarget
  generalize (e₁.type h (Nat.toDigits 10 n ++ ['j'])).1 = e₂ at heditor₂ hp₂ ⊢
  have hm₂ : e₂.mode = .visualLine := by
    have hmode := congrArg Editor.mode heditor₂
    rw [Editor.put_mode, heditor₁] at hmode
    exact hmode
  -- the operator then finds the lines of the doubled key
  obtain ⟨e₃, heditor₃, hp₃, htype⟩ := type_registerKeys (h := h) (by rw [hm₂]; rfl) hp₂ register
  have hm₃ : e₃.mode = .visualLine := (congrArg Editor.mode heditor₃).trans hm₂
  have hs₃ : e₃.surface? = _ :=
    (congrArg Editor.surface? (heditor₃.trans heditor₂)).trans (Editor.surface?_put hs₁)
  have hlast : s.cursor.line ≤ s.lastLine := Nat.le_sub_one_of_lt hc
  have hland := Operator.landed_onSelection op ho ht.unbroken
    (Nat.le_min.mpr ⟨Nat.le_add_right .., hlast⟩)
    (Nat.lt_of_le_of_lt (Nat.min_le_right (s.cursor.line + n) _)
      (Nat.sub_one_lt_of_lt (lineCount_pos s.text)))
    (s.text.clamp target) (some ⟨s.cursor, target, .linewise⟩) (typedRegister register)
  rw [htype, editor_type_onSelection hm₃ hs₃ hu hp₃ hkey rfl (ofSelection_down hc hn htarget)
    (Prefix.split?_registerKeys _) rfl Prefix.typable_registerKeys hland,
    heditor₃, heditor₂, heditor₁, Editor.put_operated, ← Editor.put_turned, Editor.put_operated]
  exact Editor.turned_operated (x := e.editor) .visualLine

/-- Deleting, changing or shifting lines by a visual selection is the same as doing it by a doubled
key with a count, except that the selection is gone after the first. -/
theorem visual_lines_eq_doubled {key : Char} (hm : e.mode = .normal) (hp : e.pending.text = [])
    (hs : e.surface? = some s) (hu : Unlocked h s) (hc : s.OnLine) (ht : FeedsOnly s.text)
    (hn : 2 ≤ n) (hcap : n ≤ countCap) (hkey : key ∈ ['d', 'c', '>', '<'])
    (register : Option Char) :
    let visual :=
      (e.type h ('V' :: (Nat.toDigits 10 (n - 1) ++ 'j' :: (registerKeys register ++ [key])))).1
    let doubled := (e.type h (registerKeys register ++ (Nat.toDigits 10 n ++ [key, key]))).1
    ∃ s', doubled.surface? = some s' ∧ s'.selection = s.selection ∧
      visual.editor = doubled.editor.put { s' with selection := none } ∧
      (s.selection = none → visual.editor = doubled.editor) := by
  intro visual doubled
  obtain ⟨op, hop, hedits⟩ : ∃ op, Operator.ofKey? key = some op ∧ op.edits = true := by
    simp only [List.mem_cons, List.not_mem_nil, or_false] at hkey
    rcases hkey with rfl | rfl | rfl | rfl <;> exact ⟨_, rfl, rfl⟩
  obtain ⟨n, rfl⟩ : ∃ m, n = m + 1 := ⟨n - 1, by omega⟩
  have hdoubled : doubled.editor = _ :=
    editor_doubled hm hp hs hu hop hedits (Nat.succ_pos n) hcap
  have hvisual : visual.editor = _ :=
    editor_visual hm hp hs hu hc ht hop hedits (by omega) (Nat.le_of_succ_le hcap)
  rw [Nat.add_sub_cancel] at hvisual
  generalize hs' : op.apply s (Operator.lineRegion s (n + 1)) (typedRegister register) = s'
    at hdoubled hvisual
  have hsel : s'.selection = s.selection := hs' ▸ Surface.selection_eq (outline_applyOperator ..)
  refine ⟨s', ?_, hsel, ?_, fun hnone => ?_⟩
  · rw [← editor_surface?, hdoubled]
    exact Editor.surface?_operated hs
  · rw [hvisual, hdoubled, Editor.operated_put]
  · rw [hvisual, hdoubled, ← hsel.trans hnone]

theorem sample_visual_lines :
    let e := sample "a\nb\nc" []
    let visual := (e.type {} ('V' :: (Nat.toDigits 10 (5 - 1) ++
      'j' :: (registerKeys (some 'x') ++ ['c'])))).1
    let doubled := (e.type {} (registerKeys (some 'x') ++ (Nat.toDigits 10 5 ++ ['c', 'c']))).1
    visual.editor = doubled.editor := by
  intro e visual doubled
  obtain ⟨s, hs⟩ : ∃ s, e.surface? = some s := ⟨_, rfl⟩
  obtain rfl := Option.some.inj hs
  have hkey : 'c' ∈ ['d', 'c', '>', '<'] := by decide
  obtain ⟨s', -, -, -, heditor⟩ := visual_lines_eq_doubled (h := {}) (n := 5) rfl rfl hs rfl
    (lineCount_pos _) (by decide) (by decide) (by decide) hkey (some 'x')
  exact heditor rfl

theorem visual_lines_drop_selection :
    let h : Host := { access := .byName }
    let e := (sample "a\nb\nc\nd" []).after
      [(h, .key 'v'), (h, .command ":e b".toList), (h, .escape), (h, .command ":e a".toList)]
    let visual := (e.type h ['V', '1', 'j', 'd']).1
    let doubled := (e.type h ['2', 'd', 'd']).1
    (e.mode = .normal ∧ e.pending.text = [] ∧ e.isReadonly h = false ∧
      e.surface?.map (fun s => (s.text, s.cursor)) = some ("a\nb\nc\nd".toList, .origin)) ∧
    doubled.surface?.map (·.selection) = some (some ⟨.origin, .origin, .characterwise⟩) ∧
      visual.surface?.map (·.selection) = some none := by
  decide +kernel

end lines

end Engine

end ModalEdit
