import ModalEdit.Proofs.Coherence
import ModalEdit.Proofs.Cursor
import ModalEdit.Proofs.MacroNames
import ModalEdit.Proofs.Resting

/-! Outside of an insertion the cursor rests on a character, or at the end of a line of blanks, as
long as no command leaves it at the end of another line. -/

namespace ModalEdit

open Text

namespace Surface

variable {s s' : Surface} {p : Position}

def AtRest (s : Surface) : Prop := Rest s.text s.cursor

def SelectsRest (s : Surface) : Prop :=
  ∀ selection ∈ s.selection, Rest s.text selection.anchor ∧ Rest s.text selection.head

lemma setCursor_rest (h : Rests (s.lineAt p.line) p.byte) : (s.setCursor p).AtRest :=
  clamp_stands isSpot_rests h

lemma SelectsRest.start (hs : s.SelectsRest) {selection : Selection}
    (hsel : s.selection = some selection) : Rest s.text selection.start := by
  obtain ⟨ha, hh⟩ := hs _ hsel
  exact (Selection.start_stop_of ha hh).1

def RetypesWithin (s : Surface) (c : Char) (count : Nat) : Prop :=
  ∀ s' ∈ s.replaceChars? s.cursor c count, ∀ k < max 1 count,
    s.cursor.byte + k * c.utf8Size ∈ Grapheme.starts (s'.lineAt s.cursor.line)

instance (s : Surface) (c : Char) (count : Nat) : Decidable (s.RetypesWithin c count) :=
  inferInstanceAs (Decidable (∀ s' ∈ s.replaceChars? _ _ _, _))

def LeavesEnds (s s' : Surface) : Prop :=
  ∀ selection ∈ s.selection, ∀ i ∈ [selection.anchor.line, selection.head.line],
    i < s'.lineCount ∧ s'.text.lineAt i = s.text.lineAt i

instance (s s' : Surface) : Decidable (s.LeavesEnds s') :=
  inferInstanceAs (Decidable (∀ _ ∈ s.selection, _))

lemma LeavesEnds.selectsRest (h : s.LeavesEnds s') (he : s'.selection = s.selection)
    (hs : s.SelectsRest) : s'.SelectsRest := by
  intro selection hsel
  rw [he] at hsel
  obtain ⟨⟨-, ha⟩, -, hh⟩ := hs _ hsel
  obtain ⟨ha', hla⟩ := h _ hsel _ List.mem_cons_self
  obtain ⟨hh', hlh⟩ := h _ hsel _ (List.mem_cons_of_mem _ List.mem_cons_self)
  exact ⟨⟨ha', hla.symm ▸ ha⟩, hh', hlh.symm ▸ hh⟩

lemma paste_rests (s : Surface) (t : Text) (side : Side) (count : Nat) :
    (landed (s.paste s.cursor t side count)).AtRest := by
  refine setCursor_rest ?_
  unfold paste
  split
  · exact firstNonBlank_rests ..
  · exact Grapheme.prevBoundary_rests ..

lemma JoinsOn.rests {first last : Nat} (h : s.JoinsOn first last) :
    (landed (s.join first last)).AtRest :=
  setCursor_rest (.inl h.within)

end Surface

section makes

variable {h : Host} {s s' : Surface}

def Command.Restful (s : Surface) : Command → Prop
  | .simple .joinLines count _ =>
    s.cursor.line + 1 < s.lineCount →
      s.JoinsOn s.cursor.line (s.cursor.line + max count 2 - 1)
  | .replace c count => s.RetypesWithin (if c = '\r' then '\n' else c) count
  | .visualAction .join _ _ =>
    ∀ selection ∈ s.selection, s.JoinsOn selection.start.line
      (max selection.stop.line (selection.start.line + 1))
  | .visualAction .yank _ _ =>
    ∀ selection ∈ s.selection, selection.kind = .blockwise →
      selection.start.byte ∈ Grapheme.starts (s.lineAt selection.start.line) ∨
        selection.start.byte = s.lineLength selection.start.line
  | _ => True

instance (s : Surface) (c : Command) : Decidable (c.Restful s) := by
  unfold Command.Restful
  split <;> infer_instance

lemma Operator.apply_rests {op : Operator} {span : Span} (hop : op ≠ .change) (hs : s.AtRest)
    (hy : op = .yank → span.isLinewise = false → Rest s.text (span.start s.text))
    (register : Option Char) : (op.apply s span register).AtRest := by
  cases op with
  | yank =>
    simp only [apply]
    split
    · exact hs
    · rename_i hl
      exact clamp_stands isSpot_rests (hy rfl ((Bool.not_eq_true _).mp hl)).2
  | delete => exact clamp_stands isSpot_rests (normalize_rests ..).2
  | change => exact absurd rfl hop
  | shift d => exact Surface.setCursor_rest (firstNonBlank_rests ..)

lemma Operator.apply_lines_rests {op : Operator} (hop : op ≠ .change) (hs : s.AtRest) (count : Nat)
    (register : Option Char) : (op.apply s (lineRegion s count) register).AtRest := by
  refine apply_rests hop hs (fun _ hl => ?_) register
  cases hl

lemma Operator.yank_region_rests (hs : s.AtRest) (m : Motion) (count : Nat) (explicit : Bool)
    (hl : (Operator.yank.region s m count explicit).isLinewise = false) :
    Rest s.text ((Operator.yank.region s m count explicit).start s.text) := by
  have ha : Operator.yank.adjust s m = m := by simp [adjust]
  simp only [region, ha] at hl ⊢
  split at hl
  · cases hl
  · rename_i hm
    rw [if_neg hm]
    split
    · exact Motion.target_rests ((Bool.not_eq_true _).mp hm) hs ‹_›
    · exact hs

lemma Simple.Makes.rests {c : Simple} {count : Nat} {register : Option Char}
    (hc : c.Makes s count register s') (hs : s.AtRest) (hn : c ≠ .changeToEnd)
    (hr : (Command.simple c count register).Restful s) : s'.AtRest := by
  have hdelete : Operator.delete ≠ .change := nofun
  cases hc with
  | yankLines => exact Operator.apply_lines_rests (by decide) hs _ _
  | deleteForward => exact Operator.apply_rests hdelete hs nofun _
  | deleteBackward => exact Operator.apply_rests hdelete hs nofun _
  | deleteToEnd => exact Operator.apply_rests hdelete hs nofun _
  | changeToEnd => exact absurd rfl hn
  | paste side t => exact s.paste_rests t side count
  | joinLines hlt => exact (hr hlt).rests
  | toggleCase => exact clamp_stands isSpot_rests (normalize_rests ..).2

lemma Surface.RetypesWithin.rests {c : Char} {count : Nat} (hr : s.RetypesWithin c count)
    (hs : s.replaceChars? s.cursor c count = some s') :
    Rests (s'.lineAt s.cursor.line) (Motion.iterate
      (Grapheme.nextBoundary (s'.lineAt s.cursor.line)) (count - 1) s.cursor.byte) := by
  have hb := hr _ hs
  have hle := Grapheme.iterate_nextBoundary_le (n := count - 1) (Char.utf8Size_pos c)
    (fun k hk => hb (k + 1) (by omega)) (Nat.le_refl s.cursor.byte)
  exact .inl (Nat.lt_of_le_of_lt hle (Grapheme.lt_of_mem_starts (hb (count - 1) (by omega))))

namespace Span

variable {t : Text}

@[simp] lemma ofSelection_firstLine (t : Text) (selection : Selection) :
    (ofSelection t selection).firstLine = selection.start.line := by
  unfold ofSelection
  split <;> rfl

@[simp] lemma ofSelection_lastLine (t : Text) (selection : Selection) :
    (ofSelection t selection).lastLine = selection.stop.line := by
  unfold ofSelection
  split <;> rfl

lemma ofSelection_rests {selection : Selection} (hs : Rest t selection.start)
    (hb : selection.kind = .blockwise →
      selection.start.byte ∈ Grapheme.starts (t.lineAt selection.start.line) ∨
        selection.start.byte = t.lineLength selection.start.line) :
    Rests (t.lineAt ((ofSelection t selection).start t).line)
      ((ofSelection t selection).start t).byte := by
  unfold ofSelection
  split
  · exact hs.2
  · exact firstNonBlank_rests ..
  · rename_i hk
    refine hs.2.mono (Grapheme.byteAtColumn_le (hb hk) ?_)
    unfold Selection.start Position.first
    split
    · exact Nat.min_le_left ..
    · exact Nat.min_le_right ..

end Span

lemma VisualAction.trigger_operate {a : VisualAction} {m : Mode} {t : Trigger}
    (hv : m.isVisual = true) (ht : a.trigger? m = some t) (hi : (m.step t false).isInsert = false) :
    t = .operate := by
  cases m <;> cases hv <;> cases a <;> cases ht <;> first | rfl | cases hi

lemma VisualAction.apply_rests {a : VisualAction} {register : Option Char} {count : Nat}
    {selection : Selection} {m : Mode} (ha : a.trigger? m = some .operate)
    (hsel : s.selection = some selection) (hs : s.SelectsRest)
    (hr : (Command.visualAction a register count).Restful s) :
    (Surface.landed (a.apply s (.ofSelection s.text selection) register count)).AtRest := by
  cases a with
  | yank =>
    have hb := hr _ hsel
    exact clamp_stands isSpot_rests (Span.ofSelection_rests (hs.start hsel) hb)
  | yankLines => exact clamp_stands isSpot_rests (firstNonBlank_rests ..)
  | delete | deleteLines | changeCase case => exact clamp_stands isSpot_rests (normalize_rests ..).2
  | shift d => exact Surface.setCursor_rest (firstNonBlank_rests ..)
  | join =>
    have hj := hr _ hsel
    simpa [apply] using hj.rests
  | insertLeft | appendRight => simp [trigger?] at ha
  | change | changeLines => cases ha

lemma Mode.step_insert {m : Mode} (hm : m.isVisual = false) :
    (m.step .insert false).isInsert = true := by
  cases m <;> cases hm <;> rfl

lemma Command.Works.rests {c : Command} {before m : Mode} (hc : c.Works h before m s s')
    (hm : m.isInsert = false) (hs : s.AtRest) (hsel : before.isVisual = true → s.SelectsRest)
    (hr : c.Restful s) : s'.AtRest := by
  obtain ⟨hmode, hsuits, hmakes⟩ := hc
  have hnone : c.isFor before.isVisual = !before.isVisual → c.trigger? before ≠ some .insert := by
    intro hf ht
    rw [hmode, modeAfter, ht] at hm
    rw [hf, Bool.not_eq_true'] at hsuits
    cases (Mode.step_insert hsuits).symm.trans hm
  cases hmakes with
  | move ht =>
    subst ht
    exact clamp_stands isSpot_rests (normalize_rests ..).2
  | @operate op motion count explicit =>
    have hop : op ≠ .change := fun ho => hnone rfl (ho ▸ rfl)
    refine Operator.apply_rests hop hs (fun hy hl => ?_) _
    subst hy
    exact Operator.yank_region_rests hs motion count explicit hl
  | @operateLines op =>
    have hop : op ≠ .change := fun ho => hnone rfl (ho ▸ rfl)
    exact Operator.apply_lines_rests hop hs _ _
  | simple _ hc => exact hc.rests hs (fun ho => hnone rfl (ho ▸ rfl)) hr
  | replace _ hr' hstop =>
    subst hstop
    exact Surface.setCursor_rest (hr.rests hr')
  | insert => exact absurd rfl (hnone rfl)
  | @visualAction a register count selection hs' hu ht =>
    obtain ⟨t, ht⟩ := Option.isSome_iff_exists.mp ht
    rw [hmode, modeAfter, trigger?, ht] at hm
    obtain rfl := VisualAction.trigger_operate hsuits ht hm
    exact VisualAction.apply_rests ht hs' (hsel hsuits) hr

lemma Command.Works.selectsRest {c : Command} {before m : Mode} (hc : c.Works h before m s s')
    (hb : before.isVisual = true) (hm : m.isVisual = true) (hs : s.SelectsRest) :
    s'.SelectsRest := by
  obtain ⟨p, rfl⟩ := hc.moves hb hm
  intro selection hsel
  obtain ⟨old, hold, rfl⟩ := Option.map_eq_some_iff.mp hsel
  exact ⟨(hs _ hold).1, normalize_rests ..⟩

lemma LineCommand.Makes.rests {c : LineCommand} (hc : c.Makes h s s') (hs : s.AtRest)
    (hcare : c.Careful s) : s'.AtRest := by
  cases hc with
  | goTo => exact Surface.setCursor_rest (firstNonBlank_rests ..)
  | delete => exact Surface.setCursor_rest (firstNonBlank_rests ..)
  | yank => exact hs
  | substitute _ hp hr =>
    have hin := hcare _ hp
    rw [hr] at hin
    exact hin.stands isSpot_rests hs
  | setReadonly => exact hs

end makes

namespace Engine

def FindsWithin (e : Engine) (s : Surface) (l : Text) : Prop :=
  CommandKind.ofText l = .search → ∀ p ∈ e.searchTarget? s l,
    p.byte = s.lineLength p.line → (s.lineAt p.line).Blank

instance (e : Engine) (s : Surface) (l : Text) : Decidable (e.FindsWithin s l) :=
  inferInstanceAs (Decidable (_ → _))

lemma FindsWithin.rests {e : Engine} {s : Surface} {l : Text} (hf : e.FindsWithin s l)
    (hl : CommandKind.ofText l = .search) {p : Position} (hp : e.searchTarget? s l = some p) :
    (s.setCursor p).AtRest := by
  obtain ⟨_, _, hs⟩ := exists_search hp
  have hle : p.byte ≤ s.lineLength p.line := (Finder.search_lands hs).le
  refine Surface.setCursor_rest ?_
  rcases Nat.lt_or_eq_of_le hle with hlt | he
  · exact .inl hlt
  · exact .inr ⟨hf hl _ hp he, he⟩

end Engine

namespace Turn

/-- No command of the turn leaves the cursor at the end of a line that is not blank, there are no
variables to insert, and within a visual mode the lines that the selection refers to stay. -/
def Restful (t : Turn) : Prop :=
  t.engine.macros.registry.variableTable.keys = [] ∧
    ∀ s ∈ t.engine.surface?,
      (∀ c ∈ t.input.command? t.engine, c.Restful s) ∧
        (∀ l ∈ t.input.line? t.engine,
          (LineCommand.parse l).Careful s ∧ t.engine.FindsWithin s l) ∧
        (t.engine.mode.isVisual = true → t.input.command? t.engine = none →
          ∀ s' ∈ t.after.surface?, s.LeavesEnds s')

instance (t : Turn) : Decidable t.Restful := inferInstanceAs (Decidable (_ ∧ _))

variable {t : Turn} {m : Mode} {s s' : Surface}

lemma Restful.puts (ht : t.Restful) (hb : t.engine.surface? = some s) (hm : m.isInsert = false)
    (hp : t.engine.Puts t.host t.input m s s') (hs : s.AtRest)
    (hsel : t.engine.mode.isVisual = true → s.SelectsRest) : s'.AtRest := by
  obtain ⟨hv, ht⟩ := ht
  obtain ⟨hc, hl, -⟩ := ht s hb
  cases hp with
  | command hd hw => exact hw.rests hm hs hsel (hc _ hd)
  | line hd hw => exact hw.rests hs (hl _ hd).1
  | found hd hk hw => exact (hl _ hd).2.rests hk hw
  | descended => exact Surface.setCursor_rest (firstNonBlank_rests ..)
  | expanded _ _ _ hv' =>
    obtain ⟨name, hn⟩ := hv'
    have hk := Table.mem_keys_iff.mpr hn
    rw [hv] at hk
    cases hk

end Turn

namespace Editor

def AtRest (name : Text) : Editor → Prop :=
  Holds name fun m s => s.OnLine ∧ (m.isInsert = false → s.AtRest) ∧
    (m.isVisual = true → s.SelectsRest)

lemma AtRest.goes {name : Text} {t : Turn} (hx : t.engine.editor.AtRest name) (ht : t.Restful)
    (hg : t.engine.editor.Goes t.host (t.engine.Puts t.host t.input) t.after.editor)
    (hb : t.after.pending.surface = some name) : t.after.editor.AtRest name := by
  have hfor : ∀ {m : Mode} {s : Surface}, m.isVisual = false → m.isVisual = true → s.SelectsRest :=
    fun hm hv => by cases hm.symm.trans hv
  refine Holds.goes hx hg hb (fun s s' hs hs' hm hi hk hp => ?_)
    (fun s selection m hi hk hp => ⟨hp.1, fun _ => hp.2.1 hi, fun _ => ?_⟩)
    (fun m s s' selection hs hi hm hk hp => ?_)
    (fun s hv hp => ⟨hp.1, fun _ => hp.2.1 (Mode.isInsert_of_isVisual hv), nofun⟩)
    (fun s s' hi hk _ => ?_) fun s hi hp => ?_
  · have hr := ht.puts hs hi hk (hp.2.1 hi) hp.2.2
    refine ⟨hr.1, fun _ => hr, fun hv => ?_⟩
    cases hd : t.input.command? t.engine with
    | none => exact ((ht.2 s hs).2.2 hv hd s' hs').selectsRest (hk.selection hd) (hp.2.2 hv)
    | some c => exact (hk.works hd).selectsRest hv hv (hp.2.2 hv)
  · cases hk with
    | again hv hsel kind =>
      rintro _ ⟨⟩
      have hends := hp.2.2 hv _ hsel
      exact hends
    | anew kind =>
      rintro _ ⟨⟩
      exact ⟨hp.2.1 hi, hp.2.1 hi⟩
  · have ho := hk.onLine hp.1
    refine ⟨ho, fun hm' => ?_, hfor hm⟩
    have hr := ht.puts hs hm' hk (hp.2.1 hi) hp.2.2
    exact hr
  · refine ⟨hk.onLine, fun hi' => ?_, hfor (Mode.isVisual_of_isInsert hi)⟩
    cases hi'.symm.trans hi
  · have hr := Typing.finish_stands isSpot_rests Grapheme.prevBoundary_rests hp.1
      t.engine.editor.typing t.engine.editor.mode
    exact ⟨hr.1, fun _ => hr, nofun⟩

end Editor

namespace Engine

/-- On one surface without variables the cursor is before the end of its line whenever no insertion
is under way, or at the end of a line of blanks, as long as no command leaves it elsewhere. -/
theorem cursor_at_rest {name : Text} {s : Surface} {workspace : Workspace}
    (registry : Macro.Registry) (config : Config) (interaction : Interaction)
    (run : List (Host × Call)) (hs : workspace.get? name = some s) (hc : Rest s.text s.cursor)
    (ht : ∀ t ∈ (Engine.new (some name) workspace registry config interaction).runTurns run,
      t.after.pending.surface = some name ∧ t.Restful) :
    let e := Engine.new (some name) workspace registry config interaction
    (e.after run).editor.AtRest name ∧ ∀ t ∈ e.runTurns run, t.engine.editor.AtRest name := by
  refine run_keeps (P := Editor.AtRest name) (fun _ _ => Editor.Holds.rebound) run _
    (fun t hm hx => ?_) ⟨rfl, s, hs, hc.1, fun _ => hc, nofun⟩
  exact hx.goes (ht t hm).2 (runTurn_goes hm) (ht t hm).1

theorem sample_at_rest :
    let e := sample "ab cd\n ef\ngh\n   " []
    let run : List (Host × Call) := [({}, .command "wxjp".toList), ({}, .command "kJ3r-".toList),
      ({}, .command "/g".toList), ({}, .command ":1s/a/b/".toList), ({}, .command "vby\r\r".toList)]
    (e.after run).surface?.map (fun s => (s.text, s.cursor)) =
        some ("bb d---c\ngh\n   ".toList, ⟨2, 3⟩) ∧
      (e.after run).editor.AtRest "a".toList ∧
      ∀ t ∈ e.runTurns run, t.engine.editor.AtRest "a".toList := by
  refine ⟨by decide +kernel, ?_⟩
  refine cursor_at_rest _ _ _ _ (Table.get?_insert_self _ _ _) ⟨?_, ?_⟩ ?_ <;> decide +kernel

example : [("a\n  ", "\r"), ("ab\n", "J"), ("ab", "vJ"), ("ab", "/$"), ("abc", "l2r\u0301")].all
    (fun (t, keys) => ((sample t []).after [({}, .command keys.toList)]).surface?.all
      fun s => 0 < s.cursor.byte ∧ s.cursor.byte = s.lineLength s.cursor.line) = true := by
  decide +kernel

end Engine

end ModalEdit
