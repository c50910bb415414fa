import ModalEdit.Engine.Playback
import ModalEdit.Proofs.Editor
import ModalEdit.Proofs.MacroCommands
import ModalEdit.Proofs.Outline
import ModalEdit.Proofs.Triggers

namespace ModalEdit

namespace Surface

def atLine (s : Surface) (line : Nat) : Surface :=
  s.setCursor ⟨line, firstNonBlankOf s.text line⟩

def within (s : Surface) (first last : Nat) : Span :=
  .chars ⟨s.cursor.line, first⟩ ⟨s.cursor.line, last⟩

end Surface

open Surface (landed)

inductive Simple.Makes (s : Surface) (count : Nat) (register : Option Char) :
    Simple → Surface → Prop
  | yankLines :
      Makes s count register .yankLines
        (Operator.yank.apply s (Operator.lineRegion s count) register)
  | deleteForward :
      Makes s count register .deleteForward
        (Operator.delete.apply s (s.within s.cursor.byte (s.clustersAhead count)) register)
  | deleteBackward (hlt : s.clustersBehind count < s.cursor.byte) :
      Makes s count register .deleteBackward
        (Operator.delete.apply s (s.within (s.clustersBehind count) s.cursor.byte) register)
  | deleteToEnd :
      Makes s count register .deleteToEnd
        (Operator.delete.apply s (s.within s.cursor.byte s.currentLine.byteLength) register)
  | changeToEnd :
      Makes s count register .changeToEnd
        (Operator.change.apply s (s.within s.cursor.byte s.currentLine.byteLength) register)
  | paste (side : Surface.Side) (t : Text) :
      Makes s count register (.paste side) (landed (s.paste s.cursor t side count))
  | joinLines (hlt : s.cursor.line + 1 < s.lineCount) :
      Makes s count register .joinLines
        (landed (s.join s.cursor.line (s.cursor.line + max count 2 - 1)))
  | toggleCase {stop : Position} {s' : Surface}
      (hstop : stop = ⟨s.cursor.line, s.clustersAhead count⟩)
      (hlt : s.cursor.byte < stop.byte) (hs : s' = s.changeCase (.chars s.cursor stop) .toggle) :
      Makes s count register .toggleCase (s'.setCursor (normalize s'.text stop))

inductive Command.Makes (h : Host) (mode : Mode) (s : Surface) : Command → Surface → Prop
  | move {m : Motion} {count : Nat} {explicit : Bool} {target : Position}
      (ht : target = normalize s.text (m.target s.text s.cursor count explicit)) :
      Makes h mode s (.move m count explicit)
        { s.setCursor target with
          selection :=
            if mode.isVisual then s.selection.map ({ · with head := target }) else s.selection }
  | operate {op : Operator} {m : Motion} {count : Nat} {explicit : Bool} {register : Option Char}
      (hu : op.edits = true → Unlocked h s) :
      Makes h mode s (.operate op m count explicit register)
        (op.apply s (op.region s m count explicit) register)
  | operateLines {op : Operator} {count : Nat} {register : Option Char}
      (hu : op.edits = true → Unlocked h s) :
      Makes h mode s (.operateLines op count register)
        (op.apply s (Operator.lineRegion s count) register)
  | simple {c : Simple} {count : Nat} {register : Option Char} {s' : Surface}
      (hu : c ≠ .yankLines → Unlocked h s) (hc : c.Makes s count register s') :
      Makes h mode s (.simple c count register) s'
  | replace {c : Char} {count stop : Nat} {s' : Surface} (hu : Unlocked h s)
      (hr : s.replaceChars? s.cursor (if c = '\r' then '\n' else c) count = some s')
      (hs : stop = Motion.iterate (Grapheme.nextBoundary (s'.lineAt s.cursor.line)) (count - 1)
        s.cursor.byte) :
      Makes h mode s (.replace c count) (s'.setCursor ⟨s.cursor.line, stop⟩)
  | insert {i : Insertion} {count : Nat} (hu : Unlocked h s) :
      Makes h mode s (.insert i count) (i.prepare s count)
  | visualAction {a : VisualAction} {register : Option Char} {count : Nat} {selection : Selection}
      (hs : s.selection = some selection) (hu : a.edits = true → Unlocked h s)
      (ht : (a.trigger? mode).isSome = true) :
      Makes h mode s (.visualAction a register count)
        (landed (a.apply s (.ofSelection s.text selection) register count))

def Command.modeAfter (c : Command) (m : Mode) : Mode := (c.trigger? m).elim m (m.step · false)

structure Command.Works (h : Host) (before : Mode) (c : Command) (m : Mode) (s s' : Surface) :
    Prop where
  mode : m = c.modeAfter before
  suits : c.isFor before.isVisual = true
  makes : c.Makes h before s s'

inductive LineCommand.Makes (h : Host) (s : Surface) : LineCommand → Surface → Prop
  | goTo {a : Address} : Makes h s (.goTo a) (s.atLine (a.resolve s.cursor.line s.lineCount))
  | delete {r : LineRange} {first last : Nat} {s' : Surface} {removed : Text} (hu : Unlocked h s)
      (hr : r.resolve s.cursor.line s.lineCount = (first, last))
      (hs : (Span.lines first last).delete s = (s', removed)) :
      Makes h s (.delete r) ((s'.atLine (min first s'.lastLine)).setRegister '"' removed)
  | yank {r : LineRange} {t : Text} : Makes h s (.yank r) (s.setRegister '"' t)
  | substitute {r : LineRange} {pattern replacement : Text} {all : Bool} {p : Pattern}
      {first last : Nat} (hu : Unlocked h s) (hp : Pattern.ofText? pattern = some p)
      (hr : r.resolve s.cursor.line s.lineCount = (first, last)) :
      Makes h s (.substitute r pattern replacement all)
        (s.mapLines first last (p.replace all (Pattern.Template.ofShort replacement))).1
  | setReadonly {option : Text} {readonly : Bool} :
      Makes h s (.setOption option) { s with readonly }

def Parse.toOption {α : Type} : Parse α → Option α
  | complete a => some a
  | _ => none

inductive Input where
  | key (c : Char)
  | whole (body : Text)
  | escape

namespace Input

def command? (e : Engine) : Input → Option Command
  | key c =>
    if e.mode.isInsert then none
    else (Command.parse e.mode.isVisual (e.pending.text ++ [c])).toOption
  | whole body => (Command.parse e.mode.isVisual body).toOption
  | escape => none

def line? (e : Engine) : Input → Option Text
  | key c =>
    if !e.mode.isInsert && e.pending.kind.isLine && isEnter c then some e.pending.text else none
  | whole body => if (CommandKind.ofText body).isLine then some body else none
  | escape => none

def descends (e : Engine) : Input → Bool
  | key c => !e.mode.isInsert && e.pending.text.isEmpty && isEnter c
  | _ => false

lemma command?_of_line {e : Engine} {d : Input} {t : Text} (h : d.line? e = some t) :
    d.command? e = none := by
  cases d with
  | key c =>
    simp only [line?, Option.ite_none_right_eq_some, Bool.and_eq_true] at h
    have hl : (CommandKind.ofText (e.pending.text ++ [c])).isLine = true :=
      isLine_append h.1.1.2 [c]
    simp [command?, Command.parse_of_isLine _ hl, Parse.toOption]
  | whole body =>
    simp only [line?, Option.ite_none_right_eq_some] at h
    simp [command?, Command.parse_of_isLine _ h.1, Parse.toOption]
  | escape => rfl

lemma command?_of_descends {e : Engine} {d : Input} (h : d.descends e = true) :
    d.command? e = none := by
  cases d with
  | key c =>
    simp only [descends, Bool.and_eq_true, List.isEmpty_iff, isEnter, Bool.or_eq_true,
      beq_iff_eq] at h
    obtain ⟨⟨-, ht⟩, hc⟩ := h
    simp [command?, ht, Command.parse_enter _ hc, Parse.toOption]
  | whole => cases h
  | escape => cases h

end Input

namespace Engine

def act (e : Engine) (h : Host) : Input → Engine × Reply
  | .key c => e.stroke h c
  | .whole body => e.wholeStroke h body
  | .escape => handle e.clearPending.escapeMode

def searchTarget? (e : Engine) (s : Surface) (t : Text) : Option Position :=
  ((if (t.drop 1).isEmpty then e.lastPattern else some (t.drop 1)).bind Pattern.ofText?).bind
    fun p => p.finder.search? (if t.head? = some '/' then .forward else .backward) s.text s.cursor

lemma exists_search {e : Engine} {s : Surface} {t : Text} {cursor : Position}
    (h : e.searchTarget? s t = some cursor) :
    ∃ (p : Pattern) (d : SearchDirection), p.finder.search? d s.text s.cursor = some cursor := by
  obtain ⟨p, -, hc⟩ := Option.bind_eq_some_iff.mp h
  exact ⟨p, _, hc⟩

inductive Puts (e : Engine) (h : Host) (d : Input) (m : Mode) (s : Surface) : Surface → Prop
  | command {c : Command} {s' : Surface} (hd : d.command? e = some c)
      (hc : c.Works h e.mode m s s') : Puts e h d m s s'
  | line {t : Text} {s' : Surface} (hd : d.line? e = some t)
      (hc : (LineCommand.parse t).Makes h s s') : Puts e h d m s s'
  | found {t : Text} {cursor : Position} (hd : d.line? e = some t)
      (hk : CommandKind.ofText t = .search) (hc : e.searchTarget? s t = some cursor) :
      Puts e h d m s (s.setCursor cursor)
  | descended (hd : d.descends e = true) : Puts e h d m s (s.atLine (s.cursor.line + 1))
  | expanded (t : Text) (hu : Unlocked h s) (hd : d.command? e = none)
      (hv : ∃ name, e.macros.registry.isVariable name = true) :
      Puts e h d m s (landed (s.insert s.cursor t))

lemma Puts.works {e : Engine} {h : Host} {d : Input} {m : Mode} {s s' : Surface}
    (hp : e.Puts h d m s s') {c : Command} (hd : d.command? e = some c) :
    c.Works h e.mode m s s' := by
  cases hp with
  | command hd' hc => exact Option.some.inj (hd'.symm.trans hd) ▸ hc
  | line hl => cases hd.symm.trans (Input.command?_of_line hl)
  | found hl => cases hd.symm.trans (Input.command?_of_line hl)
  | descended he => cases hd.symm.trans (Input.command?_of_descends he)
  | expanded _ _ hn => cases hd.symm.trans hn

section goes

variable {h : Host} {e : Engine} {s : Surface} {K : Mode → Surface → Surface → Prop}

lemma goes_of_editor {e' : Engine} (he : e'.editor = e.editor) : e.editor.Goes h K e'.editor :=
  he ▸ .kept

lemma editedBy_goes {f : Engine → Engine × Bool}
    (hf : Unlocked h s → e.editor.Goes h K (f e).1.editor) :
    e.editor.Goes h K (e.editedBy h s f).1.editor := by
  unfold editedBy editable
  by_cases hu : (h.readonly || s.readonly) = true
  · rw [if_pos hu]
    exact .kept
  · rw [if_neg hu]
    exact hf ((Bool.not_eq_true _).mp hu)

lemma changeMode_eq {text : Text} {t : Trigger} (ht : Trigger.classify? e.mode text = some t)
    (block : Option BlockEdge) :
    e.changeMode h text block = (e.enter (e.mode.step t (e.isReadonly h)) block, true) := by
  simp [changeMode, Mode.afterText?, ht]

lemma isReadonly_putSurface {s' : Surface} (hs : e.surface? = some s) :
    (e.putSurface s').isReadonly h = (h.readonly || s'.readonly) := by
  simp [isReadonly, surface?_putSurface hs]

lemma changeMode_begins {text : Text} {s' : Surface} (hm : e.mode = .normal)
    (hs : e.surface? = some s) (hu : Unlocked h s) (hr : s'.readonly = s.readonly)
    (ht : Trigger.classify? .normal text = some .insert) :
    ∃ typing, ((e.putSurface s').changeMode h text none).1.editor =
      (e.editor.put s').turned .insert typing := by
  have hc : Trigger.classify? (e.putSurface s').mode text = some .insert := by
    rwa [putSurface_mode, hm]
  have hi : (e.putSurface s').mode.isInsert = false := by
    rw [putSurface_mode, hm]
    rfl
  rw [changeMode_eq hc, putSurface_mode, hm, isReadonly_putSurface hs, hr, hu, ← editor_putSurface]
  exact enter_insert rfl hi

variable {text : Text} {register : Option Char} {count : Nat}

lemma operate_goes {op : Operator} {span : Span} (hm : e.mode = .normal)
    (hs : e.surface? = some s) (ht : op = .change → Trigger.classify? .normal text = some .insert)
    (hk : (op.edits = true → Unlocked h s) →
      K (if op = .change then .insert else .normal) s (op.apply s span register)) :
    e.editor.Goes h K (e.operate h s op span register text).1.editor := by
  have hi : e.mode.isInsert = false := hm ▸ rfl
  have hact : (op.edits = true → Unlocked h s) → e.editor.Goes h K
      (if op = .change then ((e.putSurface (op.apply s span register)).changeMode h text none).1
        else e.putSurface (op.apply s span register)).editor := by
    intro hu
    have hk := hk hu
    split
    · rename_i hc
      have hr := Surface.readonly_eq (outline_applyOperator op s span register)
      obtain ⟨typing, hx⟩ := changeMode_begins hm hs (hu (hc ▸ rfl)) hr (ht hc)
      rw [if_pos hc] at hk
      rw [hx]
      exact .begun (x := e.editor) hm hs (hu (hc ▸ rfl)) hk hr
    · rename_i hc
      rw [if_neg hc, ← hm] at hk
      rw [editor_putSurface]
      exact .put hi hs hk
  unfold operate
  dsimp only
  split
  · exact editedBy_goes fun hu => hact fun _ => hu
  · rename_i he
    exact hact fun h => absurd h he

lemma move_goes {m : Motion} {explicit : Bool} (hi : e.mode.isInsert = false)
    (hs : e.surface? = some s) :
    e.editor.Goes h ((Command.move m count explicit).Works h e.mode)
      (e.move s m count explicit).1.editor := by
  unfold move
  rw [editor_putSurface]
  exact .put hi hs ⟨rfl, rfl, .move rfl⟩

lemma runSimple_goes {c : Simple} (hm : e.mode = .normal) (hs : e.surface? = some s)
    (ht : c = .changeToEnd → Trigger.classify? .normal text = some .insert) :
    e.editor.Goes h ((Command.simple c count register).Works h e.mode)
      (e.runSimple h s c count register text).1.editor := by
  have hi : e.mode.isInsert = false := hm ▸ rfl
  have hstay : ∀ c, c ≠ .changeToEnd →
      .normal = (Command.simple c count register).modeAfter e.mode := by
    intro c hc
    cases c <;> first | exact hm.symm | exact absurd rfl hc
  have hfor : ∀ c, (Command.simple c count register).isFor e.mode.isVisual = true := fun _ => by
    rw [hm]
    rfl
  unfold runSimple
  cases c with
  | yankLines =>
    exact operate_goes hm hs nofun fun _ =>
      ⟨hstay _ nofun, hfor _, .simple (fun hc => absurd rfl hc) .yankLines⟩
  | deleteForward =>
    refine editedBy_goes fun hu => ?_
    dsimp only
    split
    · exact .kept
    · exact operate_goes hm hs nofun fun _ =>
        ⟨hstay _ nofun, hfor _, .simple (fun _ => hu) .deleteForward⟩
  | deleteBackward =>
    refine editedBy_goes fun hu => ?_
    dsimp only
    split
    · exact .kept
    · rename_i hlt
      exact operate_goes hm hs nofun fun _ =>
        ⟨hstay _ nofun, hfor _, .simple (fun _ => hu) (.deleteBackward (Nat.lt_of_not_le hlt))⟩
  | deleteToEnd =>
    exact editedBy_goes fun hu => operate_goes hm hs nofun fun _ =>
      ⟨hstay _ nofun, hfor _, .simple (fun _ => hu) .deleteToEnd⟩
  | changeToEnd =>
    exact editedBy_goes fun hu => operate_goes hm hs (fun _ => ht rfl) fun _ =>
      ⟨by rw [hm]; rfl, hfor _, .simple (fun _ => hu) .changeToEnd⟩
  | paste side =>
    refine editedBy_goes fun hu => ?_
    simp only [pasteRegister]
    split
    · rw [editor_putSurface]
      exact .put hi hs ⟨rfl, hfor _, .simple (fun _ => hu) (.paste side _)⟩
    · exact .kept
  | joinLines =>
    refine editedBy_goes fun hu => ?_
    simp only [joinBelow]
    split
    · exact .kept
    · rename_i hlt
      rw [editor_putSurface]
      exact .put hi hs
        ⟨rfl, hfor _, .simple (fun _ => hu) (.joinLines (Nat.lt_of_not_le hlt))⟩
  | toggleCase =>
    refine editedBy_goes fun hu => ?_
    simp only [toggleAhead]
    split
    · exact .kept
    · rename_i hlt
      rw [editor_putSurface]
      exact .put hi hs
        ⟨rfl, hfor _, .simple (fun _ => hu) (.toggleCase rfl (Nat.lt_of_not_le hlt) rfl)⟩

lemma replace_goes {c : Char} (hi : e.mode.isInsert = false) (hs : e.surface? = some s)
    (hv : e.mode.isVisual = false) :
    e.editor.Goes h ((Command.replace c count).Works h e.mode)
      (e.replace h s c count).1.editor := by
  refine editedBy_goes fun hu => ?_
  split
  · exact .kept
  · rename_i hr
    rw [editor_putSurface]
    exact .put hi hs ⟨rfl, by rw [hv]; rfl, .replace hu hr rfl⟩

lemma insert_goes {i : Insertion} (hm : e.mode = .normal) (hs : e.surface? = some s)
    (ht : Trigger.classify? .normal text = some .insert) :
    e.editor.Goes h ((Command.insert i count).Works h e.mode)
      (e.insert h s i count text).1.editor := by
  have hr : e.isReadonly h = (h.readonly || s.readonly) := by simp [isReadonly, hs]
  unfold insert
  split
  · rename_i hu
    refine goes_of_editor ?_
    -- on a readonly surface the trigger leads from the normal mode to itself
    rw [changeMode_eq (by rwa [hm]), hu, hm]
    exact enter_normal_of_normal hm
  · rename_i hu
    rw [hr, Bool.not_eq_true] at hu
    have hr := Surface.readonly_eq (outline_prepare i s count)
    obtain ⟨typing, hx⟩ := changeMode_begins hm hs hu hr ht
    have hx' : ∀ typing,
        (editor { ((e.putSurface (i.prepare s count)).changeMode h text none).1 with typing }) =
          (e.editor.put (i.prepare s count)).turned .insert typing := fun typing =>
      congrArg (fun x => x.turned x.mode typing) hx
    rw [hx']
    exact .begun (x := e.editor) hm hs hu ⟨by rw [hm]; rfl, by rw [hm]; rfl, .insert hu⟩ hr

lemma step_visual {m : Mode} (hm : m.isInsert = false) (kind : VisualKind) (r : Bool) :
    (m.isVisual = true ∧ m.step (.visual kind) r = .normal) ∨
      (m.step (.visual kind) r).isVisual = true := by
  cases m <;> cases hm <;> cases kind <;> cases r <;> decide

lemma select_goes {kind : VisualKind} (hi : e.mode.isInsert = false) (hs : e.surface? = some s)
    (ht : Trigger.classify? e.mode text = some (.visual kind)) :
    e.editor.Goes h K (e.select h s text).1.editor := by
  simp only [select, changeMode_eq ht]
  rcases step_visual hi kind (e.isReadonly h) with ⟨hv, hn⟩ | hv
  · have hx : (e.enter .normal none).editor = _ := enter_normal (Mode.ne_normal_of_isVisual hv) hs
    rw [hi, if_neg Bool.false_ne_true] at hx
    have hm : (e.enter .normal none).mode = .normal := congrArg Editor.mode hx
    simp only [hn, hm, Mode.selectionKind?, hx]
    exact .deselected hv hs (.inl rfl)
  · generalize e.mode.step (.visual kind) (e.isReadonly h) = m at hv
    have hx : (e.enter m none).editor = e.editor.turned m e.typing := enter_visual hv
    have hm : (e.enter m none).mode = m := congrArg Editor.mode hx
    obtain ⟨k, hk⟩ : ∃ k, m.selectionKind? = some k := by
      cases m <;> cases hv <;> exact ⟨_, rfl⟩
    simp only [hm, hk, editor_putSurface, hx, Editor.put_turned]
    refine .selected (x := e.editor) hi hs (hk.trans (congrArg some ?_)) ?_
    · split
      · split <;> rfl
      · rfl
    · split
      · rename_i hsel
        split
        · exact .again ‹_› hsel k
        · exact .anew k
      · exact .anew k

lemma giveUp_goes (hv : e.mode.isVisual = true) (hs : e.surface? = some s) :
    e.editor.Goes h K e.giveUp.1.editor := by
  simp only [giveUp, escapeMode, enter_normal (Mode.ne_normal_of_isVisual hv) hs,
    Mode.isInsert_of_isVisual hv, Bool.false_eq_true, ↓reduceIte]
  exact .deselected hv hs (.inl rfl)

lemma step_action {m : Mode} (hv : m.isVisual = true) {a : VisualAction} {t : Trigger}
    (ht : a.trigger? m = some t) :
    m.step t false = .normal ∨ a.edits = true ∧ (m.step t false).isInsert = true := by
  cases m <;> cases hv <;> cases a <;> cases ht <;> simp [Mode.step, Mode.isInsert,
    VisualAction.edits]

lemma step_action_readonly {m : Mode} (hv : m.isVisual = true) {a : VisualAction} {t : Trigger}
    (ht : a.trigger? m = some t) {r : Bool} (hr : a.edits = true → r = false) :
    m.step t r = m.step t false := by
  cases r with
  | false => rfl
  | true =>
    cases m <;> cases hv <;> cases a <;> cases ht <;> first | rfl | cases hr rfl

def useUp (e : Engine) (m : Mode) (block : Option BlockEdge) : Engine :=
  if (e.enter m block).mode.isInsert then (e.enter m block).clearSelection else e.enter m block

section useUp

variable {m : Mode} {block : Option BlockEdge}

lemma editor_useUp_normal (hv : e.mode.isVisual = true) (hs : e.surface? = some s) :
    (e.useUp .normal block).editor =
      (e.editor.put { s with selection := none }).turned .normal e.typing := by
  have hx : (e.enter .normal block).editor = _ := enter_normal (Mode.ne_normal_of_isVisual hv) hs
  rw [Mode.isInsert_of_isVisual hv, if_neg Bool.false_ne_true] at hx
  have hm : (e.enter .normal block).mode = .normal := congrArg Editor.mode hx
  rw [useUp, hm, if_neg (by decide), hx]

lemma editor_useUp_insert (hi : m.isInsert = true) (hs : e.surface? = some s) {typing : Typing}
    (hx : (e.enter m block).editor = e.editor.turned m typing) :
    (e.useUp m block).editor = (e.editor.put { s with selection := none }).turned m typing := by
  have hm : (e.enter m block).mode = m := congrArg Editor.mode hx
  have hs' : (e.enter m block).surface? = some s := (congrArg Editor.surface? hx).trans hs
  rw [useUp, hm, if_pos hi, clearSelection, hs']
  simp only [editor_putSurface, hx, Editor.put_turned]

lemma useRegion_eq {a : VisualAction} {span : Span} {t : Trigger}
    (hb : (a.isForBlock && (a.edge? span).isNone) = false)
    (ht : Trigger.classify? e.mode text = some t) (hs : e.surface? = some s) {s' : Surface}
    (hs' : landed (a.apply s span register count) = s') :
    (e.useRegion h s a span register count text).1 = (e.putSurface s').useUp
      (e.mode.step t (h.readonly || s'.readonly)) (a.edge? span) := by
  have hl : (a.apply s span register count).1.setCursor (a.apply s span register count).2 = s' := hs'
  have ht' : Trigger.classify? (e.putSurface s').mode text = some t := by rwa [putSurface_mode]
  rw [useRegion, hb]
  simp only [Bool.false_eq_true, ↓reduceIte, hl]
  rw [changeMode_eq ht', putSurface_mode, isReadonly_putSurface hs]
  rfl

end useUp

lemma useRegion_goes {a : VisualAction} {selection : Selection} {t : Trigger}
    (hv : e.mode.isVisual = true) (hs : e.surface? = some s) (hsel : s.selection = some selection)
    (hu : a.edits = true → Unlocked h s) (ht : a.trigger? e.mode = some t)
    (hc : Trigger.classify? e.mode text = some t) :
    e.editor.Goes h ((Command.visualAction a register count).Works h e.mode)
      (e.useRegion h s a (.ofSelection s.text selection) register count text).1.editor := by
  have hmake : (Command.visualAction a register count).Works h e.mode (e.mode.step t false) s _ :=
    ⟨by simp [Command.modeAfter, Command.trigger?, ht], hv, .visualAction hsel hu (by rw [ht]; rfl)⟩
  have hr : (landed (a.apply s (.ofSelection s.text selection) register count)).readonly =
      s.readonly :=
    Surface.readonly_eq ((Surface.outline_setCursor _ _).trans (outline_applyAction ..))
  generalize Span.ofSelection s.text selection = span at hmake hr ⊢
  cases hb : a.isForBlock && (a.edge? span).isNone with
  | true =>
    rw [useRegion, hb]
    exact .kept
  | false =>
    rw [useRegion_eq hb hc hs rfl]
    -- from here on it only matters that the edit is one of the command, and keeps the flag
    generalize landed (a.apply s span register count) = s' at hmake hr ⊢
    have hs' : (e.putSurface s').surface? = some s' := surface?_putSurface hs
    have hv' : (e.putSurface s').mode.isVisual = true := by rwa [putSurface_mode]
    have hstep := step_action hv ht
    rw [step_action_readonly hv ht (fun he => by rw [hr]; exact hu he)]
    generalize e.mode.step t false = m at hstep hmake
    rcases hstep with rfl | ⟨he, hi⟩
    · rw [editor_useUp_normal hv' hs', editor_putSurface, Editor.put_put, putSurface_typing]
      exact .deselected (x := e.editor) hv hs (.inr hmake)
    · obtain ⟨typing, hx⟩ : ∃ typing, ((e.putSurface s').enter m (a.edge? span)).editor =
        (e.putSurface s').editor.turned m typing := enter_insert hi (Mode.isInsert_of_isVisual hv')
      rw [editor_useUp_insert hi hs' hx, editor_putSurface, Editor.put_put]
      exact .changed (x := e.editor) hv hi hs (hu he) hmake hr

lemma useSelection_goes {a : VisualAction} (hv : e.mode.isVisual = true)
    (hs : e.surface? = some s) (hc : Trigger.classify? e.mode text = a.trigger? e.mode) :
    e.editor.Goes h ((Command.visualAction a register count).Works h e.mode)
      (e.useSelection h s a register count text).1.editor := by
  unfold useSelection
  split
  · exact .kept
  · rename_i hb
    obtain ⟨t, ht⟩ : ∃ t, a.trigger? e.mode = some t := by
      cases a <;> simp_all [VisualAction.trigger?, VisualAction.isForBlock]
    split
    · exact giveUp_goes hv hs
    · rename_i selection hsel
      dsimp only
      split
      · unfold editable
        by_cases hu : (h.readonly || s.readonly) = true
        · rw [if_pos hu]
          exact giveUp_goes (e := e.tell "readonly") hv hs
        · rw [if_neg hu]
          exact useRegion_goes hv hs hsel (fun _ => (Bool.not_eq_true _).mp hu) ht (hc.trans ht)
      · rename_i he
        exact useRegion_goes hv hs hsel (fun h => absurd h he) ht (hc.trans ht)

lemma escapeMode_goes (hs : e.mode.isInsert = false) :
    e.editor.Goes h K e.escapeMode.1.editor := by
  unfold escapeMode
  by_cases hn : e.mode = .normal
  · exact goes_of_editor (enter_normal_of_normal hn)
  · have hv : e.mode.isVisual = true := by
      cases hm : e.mode <;> simp_all [Mode.isVisual, Mode.isInsert]
    cases hb : e.surface? with
    | none =>
      rw [enter_normal_unbound hb]
      exact .unbound (x := e.editor) hb
    | some s => exact giveUp_goes hv hb

lemma runCommand_goes {c : Command} (hi : e.mode.isInsert = false) (hs : e.surface? = some s)
    (ht : c ≠ .escape →
      Trigger.classify? e.mode text = c.trigger? e.mode ∧ c.isFor e.mode.isVisual = true) :
    e.editor.Goes h (c.Works h e.mode) (e.runCommand h s text c).1.editor := by
  have hn : e.mode.isVisual = false → e.mode = .normal := by
    cases hm : e.mode <;> simp_all [Mode.isVisual, Mode.isInsert]
  have hnormal : c ≠ .escape → c.isFor true = false →
      e.mode = .normal ∧ Trigger.classify? .normal text = c.trigger? .normal := by
    intro hc hf
    obtain ⟨ht, hv⟩ := ht hc
    have hm : e.mode = .normal := hn ((Bool.not_eq_true _).mp fun hx => by
      rw [hx, hf] at hv
      cases hv)
    exact ⟨hm, hm ▸ ht⟩
  cases c with
  | escape => exact escapeMode_goes hi
  | move m count explicit => exact move_goes hi hs
  | visual kind => exact select_goes hi hs (ht nofun).1
  | visualAction a register count => exact useSelection_goes (ht nofun).2 hs (ht nofun).1
  | replace c count =>
    obtain ⟨hm, -⟩ := hnormal nofun rfl
    exact replace_goes hi hs (by rw [hm]; rfl)
  | operate op m count explicit register =>
    obtain ⟨hm, ht⟩ := hnormal nofun rfl
    refine operate_goes hm hs ?_ fun hu => ⟨?_, by rw [hm]; rfl, .operate hu⟩
    · rintro rfl
      exact ht
    · rw [hm]
      cases op <;> rfl
  | operateLines op count register =>
    obtain ⟨hm, ht⟩ := hnormal nofun rfl
    refine operate_goes hm hs ?_ fun hu => ⟨?_, by rw [hm]; rfl, .operateLines hu⟩
    · rintro rfl
      exact ht
    · rw [hm]
      cases op <;> rfl
  | simple c count register =>
    obtain ⟨hm, ht⟩ := hnormal nofun rfl
    refine runSimple_goes hm hs ?_
    rintro rfl
    exact ht
  | insert i count =>
    obtain ⟨hm, ht⟩ := hnormal nofun rfl
    exact insert_goes hm hs ht

variable {e₀ : Engine} {d : Input}

lemma execute_goes {c : Command} (hi : e.mode.isInsert = false) (hd : d.command? e₀ = some c)
    (hm : e.mode = e₀.mode)
    (hp : Command.parse e.mode.isVisual text = .complete c) :
    e.editor.Goes h (e₀.Puts h d) (e.execute h text c).1.editor := by
  unfold execute
  split
  · exact .kept
  · rename_i s hs
    refine (runCommand_goes hi hs (Command.classify?_of_parse hi hp)).mono fun _ _ _ _ hc => ?_
    rw [hm] at hc
    exact .command hd hc

lemma expandVariable_goes {name : Text} {times : Nat} (hi : e.mode.isInsert = false)
    (hd : d.command? e₀ = none) (hv : e₀.macros.registry.isVariable name = true) :
    e.editor.Goes h (e₀.Puts h d) (e.expandVariable h name times).1.editor := by
  unfold expandVariable
  split
  · exact .kept
  · rename_i s hs
    refine editedBy_goes fun hu => ?_
    dsimp only
    split
    · exact .kept
    · rw [editor_putSurface]
      exact .put (x := e.editor) hi hs (.expanded _ hu hd ⟨name, hv⟩)

lemma runMacro_goes {body : Text} {times : Nat} {complete : Bool} (hi : e.mode.isInsert = false)
    (hd : d.command? e₀ = none) (he : e.macros = e₀.macros) :
    e.editor.Goes h (e₀.Puts h d) (e.runMacro h body times complete).1.editor := by
  have hr := e.macros.read_reads e.interaction body complete times
  unfold runMacro
  generalize e.macros.read e.interaction body complete times = step at hr
  obtain ⟨macros, interaction, outcome⟩ := step
  dsimp only
  split
  · split <;> exact .kept
  · exact .kept
  · exact .kept
  · exact .kept
  · exact .kept
  · exact .kept
  · rename_i k name n
    have hv : e.macros.registry.isVariable name = true := by
      cases hr with
      | kept _ _ ho => exact (ho k _ rfl).2.1
    exact expandVariable_goes
      (e := (clearPending { e with macros, interaction }).noteResolved _) hi hd (he ▸ hv)

lemma runPending_goes {complete : Bool} (hi : e.mode.isInsert = false)
    (he : e.macros = e₀.macros) (hm : e.mode = e₀.mode)
    (hn : (macroBody? e.pending.text).isSome = true → d.command? e₀ = none)
    (hd : ∀ p body c, Prefix.split? e.pending.text = some (p, body) → isMacroBody body = false →
      Command.parse e.mode.isVisual e.pending.text = .complete c → d.command? e₀ = some c) :
    e.editor.Goes h (e₀.Puts h d) (e.runPending h complete).1.editor := by
  unfold runPending
  dsimp only
  split
  · exact .kept
  · rename_i p body hp
    split
    · rename_i hb
      exact runMacro_goes hi (hn (by simp [macroBody?, hp, hb])) he
    · rename_i hb
      split
      · split <;> exact .kept
      · exact .kept
      · rename_i c hc
        exact execute_goes (e := e.clearPending) hi
          (hd p body c hp ((Bool.not_eq_true _).mp hb) hc) hm hc

lemma runLineCommand_goes {c : LineCommand} (hi : e.mode.isInsert = false)
    (hs : e.surface? = some s) :
    e.editor.Goes h (fun _ s => c.Makes h s) (e.runLineCommand h s c).1.editor := by
  cases c with
  | goTo a =>
    simp only [runLineCommand, goToLine, editor_putSurface]
    exact .put (x := e.editor) hi hs .goTo
  | delete r =>
    refine editedBy_goes fun hu => ?_
    simp only [deleteLines, editor_putSurface]
    exact .put (x := e.editor) hi hs (.delete hu rfl rfl)
  | yank r =>
    simp only [runLineCommand, yankLines, editor_putSurface]
    exact .put (x := e.editor) hi hs .yank
  | substitute r pattern replacement all =>
    refine editedBy_goes fun hu => ?_
    unfold substitute
    split
    · exact .kept
    · rename_i p hp
      generalize hr : r.resolve s.cursor.line s.lineCount = range
      obtain ⟨first, last⟩ := range
      have hmake : (LineCommand.substitute r pattern replacement all).Makes h s _ :=
        .substitute hu hp hr
      dsimp only
      split
      · rename_i s' hx
        rw [hx] at hmake
        have hput := editor_putSurface (e := e) (s := s')
        exact hput ▸ .put (x := e.editor) hi hs hmake
      · rename_i s' _ _ hx
        rw [hx] at hmake
        have hput := editor_putSurface (e := e) (s := s')
        exact hput ▸ .put (x := e.editor) hi hs hmake
  | edit name =>
    simp only [runLineCommand, openSurface]
    split
    · exact .kept
    · exact .kept
    · exact .opened (x := e.editor) name hi
  | setOption option =>
    simp only [runLineCommand, setOption]
    split
    · rw [editor_putSurface]
      exact .put (x := e.editor) hi hs .setReadonly
    · rw [editor_putSurface]
      exact .put (x := e.editor) hi hs .setReadonly
    · rw [editor_putSurface]
      exact .put (x := e.editor) hi hs .setReadonly
    · rw [editor_putSurface]
      exact .put (x := e.editor) hi hs .setReadonly
    · exact .kept
  | registers => exact .kept
  | macros => exact .kept
  | unknown t => exact .kept

lemma search_goes {t : Text} (hi : e.mode.isInsert = false) (hs : e.surface? = some s)
    (hd : d.line? e₀ = some t) (hk : CommandKind.ofText t = .search)
    (hl : e.lastPattern = e₀.lastPattern) :
    e.editor.Goes h (e₀.Puts h d)
      (e.search s (if t.head? = some '/' then .forward else .backward) (t.drop 1)).1.editor := by
  unfold search
  split
  · exact .kept
  · rename_i hp
    split
    · exact .kept
    · rename_i hq
      dsimp only
      split
      · rename_i hc
        rw [editor_putSurface]
        refine .put (x := e.editor) hi hs (.found hd hk ?_)
        rw [searchTarget?, ← hl, hp, Option.bind_some, hq]
        exact hc
      · exact .kept

lemma runShell_editor (command : Text) : (e.runShell h command).1.editor = e.editor := by
  unfold runShell
  split
  · rfl
  · dsimp only
    split <;> rfl

lemma calculate_editor (expression : Text) : (e.calculate expression).1.editor = e.editor := by
  unfold calculate
  split <;> rfl

lemma finishLine_goes (hi : e.mode.isInsert = false) (hd : d.line? e₀ = some e.pending.text)
    (hl : e.lastPattern = e₀.lastPattern) :
    e.editor.Goes h (e₀.Puts h d) (e.finishLine h).1.editor := by
  unfold finishLine
  split
  · exact .kept
  · rename_i s hs
    change e.editor.Goes h (e₀.Puts h d) (e.runLine h s).1.editor
    unfold runLine
    dsimp only
    split
    · exact (runLineCommand_goes hi hs).mono fun _ _ _ _ => .line hd
    · exact search_goes hi hs hd ‹_› hl
    · exact goes_of_editor (calculate_editor _)
    · exact goes_of_editor (runShell_editor _)
    · exact .kept
    · exact .kept

lemma nextLine_goes (hi : e.mode.isInsert = false) (hd : d.descends e₀ = true) :
    e.editor.Goes h (e₀.Puts h d) e.nextLine.1.editor := by
  unfold nextLine
  split
  · exact .kept
  · rename_i s hs
    split
    · exact .kept
    · simp only [goToLine, editor_putSurface]
      exact .put (x := e.editor) hi hs (.descended hd)

lemma enterKey_goes {c : Char} (hi : e.mode.isInsert = false) (hc : isEnter c = true) :
    e.editor.Goes h (e.Puts h (.key c)) (e.enterKey h).1.editor := by
  unfold enterKey
  split
  · rename_i hm
    refine runPending_goes hi rfl rfl (fun hb => ?_) fun p body c hp hb _ => ?_
    · obtain ⟨⟨body, times⟩, hb⟩ := Option.isSome_iff_exists.mp hb
      have hb : (macroBody? (e.pending.text ++ [c])).isSome = true := by
        rw [macroBody?_append hb]
        rfl
      simp [Input.command?, Command.parse_of_macroBody _ hb, Parse.toOption]
    · simp [pendingIsMacro, hp, hb] at hm
  · split
    · rename_i ht
      exact nextLine_goes hi (by simp [Input.descends, hi, ht, hc])
    · exact .kept

lemma commandKey_goes (c : Char) (hi : e.mode.isInsert = false) :
    e.editor.Goes h (e.Puts h (.key c)) (e.commandKey h c).1.editor := by
  unfold commandKey
  split
  · split
    · exact escapeMode_goes hi
    · exact .kept
  · split
    · rename_i hl
      simp only [lineKey, handle]
      split
      · rename_i hc
        exact finishLine_goes hi (by simp [Input.line?, hi, hl, hc]) rfl
      · split <;> exact .kept
    · split
      · exact enterKey_goes hi ‹_›
      · split
        · exact .kept
        · dsimp only
          split
          · exact .kept
          · refine runPending_goes (e := e.extend c) hi rfl rfl (fun hb => ?_)
              fun _ _ _ _ _ hp => ?_
            · have hb : (macroBody? (e.pending.text ++ [c])).isSome = true := hb
              simp [Input.command?, Command.parse_of_macroBody _ hb, Parse.toOption]
            have hp : Command.parse e.mode.isVisual (e.pending.text ++ [c]) = .complete _ := hp
            simp [Input.command?, hi, hp, Parse.toOption]

lemma typed_goes {s' : Surface} {typing : Typing} (hi : e.mode.isInsert = true)
    (hs : e.surface? = some s) (ht : s.Types s') :
    e.editor.Goes h K (editor { e.putSurface s' with typing }) := by
  have hx : editor { e.putSurface s' with typing } = (e.editor.put s').turned e.mode typing := by
    rw [← editor_putSurface, ← putSurface_mode (e := e) (s := s')]
    rfl
  exact hx ▸ .typed (x := e.editor) hi hs ht

lemma eraseBack_goes (hi : e.mode.isInsert = true) (hs : e.surface? = some s) :
    e.editor.Goes h K (e.eraseBack s).1.editor := by
  simp only [eraseBack]
  split
  · exact .kept
  · exact typed_goes hi hs (.erase _ rfl)

lemma typeChar_goes (c : Char) (hi : e.mode.isInsert = true) (hs : e.surface? = some s) :
    e.editor.Goes h K (e.typeChar s c).editor := by
  have ht : ∀ s', s' = s ∨ s' = s.erase s.cursor
      ⟨s.cursor.line, Grapheme.nextBoundary s.currentLine s.cursor.byte⟩ →
      s.Types (landed (s'.insert s.cursor [c])) := by
    rintro s' (rfl | rfl)
    · exact .insert c
    · exact .overwrite c _ rfl
  refine typed_goes hi hs (ht _ ?_)
  split
  · exact .inr rfl
  · exact .inl rfl

lemma insertKey_goes (c : Char) (hi : e.mode.isInsert = true) :
    e.editor.Goes h K (e.insertKey c).1.editor := by
  have hn : e.mode ≠ .normal := fun hn => absurd hi (by rw [hn]; nofun)
  unfold insertKey
  split
  · unfold escapeMode
    cases hs : e.surface? with
    | none =>
      rw [enter_normal_unbound hs]
      exact .unbound (x := e.editor) hs
    | some s =>
      rw [enter_normal hn hs, if_pos hi]
      exact .finished (x := e.editor) hi hs
  · split
    · exact .kept
    · rename_i hs
      split
      · exact eraseBack_goes hi hs
      · exact typeChar_goes _ hi hs

theorem act_goes (hd : ∀ body, d = .whole body → e.mode.isInsert = false) :
    e.editor.Goes h (e.Puts h d) (e.act h d).1.editor := by
  cases d with
  | key c =>
    simp only [act, stroke]
    split
    · exact insertKey_goes c ‹_›
    · exact commandKey_goes c ((Bool.not_eq_true _).mp ‹_›)
  | whole body =>
    have hi := hd body rfl
    simp only [act, wholeStroke]
    split
    · rename_i hl
      exact finishLine_goes (e := { e with resolved := none, pending := e.pending.set body }) hi
        (by simp [Input.line?, hl, Pending.set]) rfl
    · refine runPending_goes (e := { e with resolved := none, pending := e.pending.set body }) hi
        rfl rfl (fun hb => ?_) fun _ _ _ _ _ hp => ?_
      · have hb : (macroBody? body).isSome = true := hb
        simp [Input.command?, Command.parse_of_macroBody _ hb, Parse.toOption]
      have hp : Command.parse e.mode.isVisual body = .complete _ := hp
      simp [Input.command?, hp, Parse.toOption]
  | escape =>
    simp only [act, handle]
    cases hi : e.mode.isInsert with
    | false => exact escapeMode_goes (e := e.clearPending) hi
    | true =>
      have hk := insertKey_goes (e := e.clearPending) (h := h) (K := e.Puts h .escape) escapeKey hi
      simpa [insertKey] using hk

end goes

end Engine

lemma Command.Works.moves {h : Host} {c : Command} {before m : Mode} {s s' : Surface}
    (hc : c.Works h before m s s') (hb : before.isVisual = true) (hm : m.isVisual = true) :
    ∃ p, s' = { s.setCursor (normalize s.text p) with
      selection := s.selection.map ({ · with head := normalize s.text p }) } := by
  obtain ⟨hmode, hsuits, hmakes⟩ := hc
  rw [hb] at hsuits
  cases hmakes with
  | move ht =>
    subst ht
    rw [if_pos hb]
    exact ⟨_, rfl⟩
  | visualAction _ _ ht =>
    obtain ⟨t, ht⟩ := Option.isSome_iff_exists.mp ht
    rw [hmode, modeAfter, trigger?, ht] at hm
    rcases Engine.step_action hb ht with hn | ⟨-, hi⟩
    · exact absurd hn (Mode.ne_normal_of_isVisual hm)
    · exact absurd (hi.symm.trans (Mode.isInsert_of_isVisual hm)) (by decide)
  | _ => cases hsuits

end ModalEdit
