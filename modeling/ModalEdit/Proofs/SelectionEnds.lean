import ModalEdit.Proofs.Coherence
import ModalEdit.Proofs.Cursor

/-! The selection of a visual mode ends at the cursor and begins within the text, as long as only
motions move the cursor while it is there, and the line on which it begins is left long enough. -/

namespace ModalEdit

open Text

def Text.Within (t : Text) (p : Position) : Prop := Stands (fun l n => n ≤ byteLength l) t p

lemma isSpot_le : IsSpot fun l n => n ≤ byteLength l := ⟨fun _ => Nat.zero_le _, id⟩

lemma Text.Valid.within {t : Text} {p : Position} (hp : Valid t p) : Within t p := ⟨hp.1, hp.2.le⟩

namespace Surface

variable {s s' : Surface}

def CursorWithin (s : Surface) : Prop := Within s.text s.cursor

def Attached (s : Surface) : Prop :=
  ∃ selection, s.selection = some selection ∧ selection.head = s.cursor ∧
    Within s.text selection.anchor

def Spares (s s' : Surface) : Prop :=
  s'.cursor = s.cursor ∧ s.lineCount ≤ s'.lineCount ∧
    ∀ selection ∈ s.selection, s.lineLength selection.anchor.line ≤
      s'.lineLength selection.anchor.line

instance (s s' : Surface) : Decidable (s.Spares s') := inferInstanceAs (Decidable (_ ∧ _))

lemma setCursor_within (s : Surface) (p : Position) : (s.setCursor p).CursorWithin :=
  ⟨clamp_line s.text p, Nat.min_le_right ..⟩

lemma Places.within (hp : s.Places s') (hs : s.CursorWithin) : s'.CursorWithin :=
  hp.stands (P := fun l n => n ≤ byteLength l) (fun _ _ => Nat.min_le_right ..) hs

lemma Types.within (ht : s.Types s') : s'.CursorWithin := by
  cases ht <;> exact setCursor_within ..

lemma Attached.iff_of_selection (ha : s.Attached) (he : s'.selection = s.selection) :
    s'.Attached ↔
      s'.cursor = s.cursor ∧ ∀ selection ∈ s.selection, Within s'.text selection.anchor := by
  obtain ⟨selection, hsel, hh, -⟩ := ha
  constructor
  · rintro ⟨selection', hsel', hh', hin⟩
    obtain rfl := Option.some.inj (hsel'.symm.trans (he.trans hsel))
    refine ⟨hh'.symm.trans hh, fun other ho => ?_⟩
    exact Option.some.inj (hsel.symm.trans ho) ▸ hin
  · rintro ⟨hc, hin⟩
    exact ⟨selection, he.trans hsel, hh.trans hc.symm, hin _ hsel⟩

lemma Attached.spared (ha : s.Attached) (hs : s.Spares s') (he : s'.selection = s.selection) :
    s'.Attached := by
  obtain ⟨hc, hn, hlen⟩ := hs
  refine (ha.iff_of_selection he).mpr ⟨hc, fun selection hsel => ?_⟩
  obtain ⟨selection', hsel', -, hl, hb⟩ := ha
  obtain rfl := Option.some.inj (hsel'.symm.trans hsel)
  exact ⟨Nat.lt_of_lt_of_le hl hn, Nat.le_trans hb (hlen _ hsel)⟩

end Surface

section makes

variable {h : Host} {s s' : Surface}

lemma LineCommand.Makes.within {c : LineCommand} (hc : c.Makes h s s') (hs : s.CursorWithin)
    (hcare : c.Careful s) : s'.CursorWithin := by
  cases hc with
  | goTo => exact Surface.setCursor_within ..
  | delete => exact Surface.setCursor_within ..
  | yank => exact hs
  | substitute _ hp hr =>
    have hin := hcare _ hp
    rw [hr] at hin
    exact hin.stands isSpot_le hs
  | setReadonly => exact hs

lemma Command.Works.attached {c : Command} {before m : Mode} (hc : c.Works h before m s s')
    (hb : before.isVisual = true) (hm : m.isVisual = true) (hs : s.Attached) : s'.Attached := by
  obtain ⟨p, rfl⟩ := hc.moves hb hm
  obtain ⟨selection, hsel, -, ha⟩ := hs
  refine ⟨{ selection with head := normalize s.text p }, ?_, (clamp_normalize ..).symm, ha⟩
  exact congrArg (Option.map _) hsel

end makes

namespace Turn

/-- What a turn does within a visual mode without a command spares the selection, and a substitution
rewrites its lines in place. -/
def Steady (t : Turn) : Prop :=
  ∀ s ∈ t.engine.surface?,
    (∀ l ∈ t.input.line? t.engine, (LineCommand.parse l).Careful s) ∧
      (t.engine.mode.isVisual = true → t.input.command? t.engine = none →
        t.after.mode.isVisual = true → ∀ s' ∈ t.after.surface?, s.Spares s')

instance (t : Turn) : Decidable t.Steady := inferInstanceAs (Decidable (∀ s ∈ t.engine.surface?, _))

variable {t : Turn} {m : Mode} {s s' : Surface}

lemma Steady.puts_within (ht : t.Steady) (hb : t.engine.surface? = some s)
    (hp : t.engine.Puts t.host t.input m s s') (hs : s.CursorWithin) : s'.CursorWithin := by
  cases hp with
  | command _ hc => exact hc.makes.places.within hs
  | line hd hc => exact hc.within hs ((ht s hb).1 _ hd)
  | found => exact Surface.setCursor_within ..
  | descended => exact Surface.setCursor_within ..
  | expanded => exact Surface.setCursor_within ..

end Turn

namespace Editor

def Attached (name : Text) : Editor → Prop :=
  Holds name fun m s => s.CursorWithin ∧ (m.isVisual = true → s.Attached)

lemma Attached.goes {name : Text} {t : Turn} (hx : t.engine.editor.Attached name) (ht : t.Steady)
    (hg : t.engine.editor.Goes t.host (t.engine.Puts t.host t.input) t.after.editor)
    (hb : t.after.pending.surface = some name) : t.after.editor.Attached name := by
  have hfor : ∀ {m : Mode} {s : Surface}, m.isVisual = false → m.isVisual = true → s.Attached :=
    fun hm hv => by cases hm.symm.trans hv
  refine Holds.goes hx hg hb (fun s s' hs hs' hm _ hk hp => ?_) (fun s selection m _ hk hp => ?_)
    (fun m s s' selection hs _ hm hk hp => ?_)
    (fun s _ hp => ⟨hp.1, nofun⟩)
    (fun s s' hm hk _ => ⟨hk.within, hfor (Mode.isVisual_of_isInsert hm)⟩)
    fun s _ hp => ⟨(Typing.finish_sound hp.1.1 _ _).within, nofun⟩
  · refine ⟨ht.puts_within hs hk hp.1, fun hv => ?_⟩
    have ha := hp.2 hv
    cases hd : t.input.command? t.engine with
    | none =>
      exact ha.spared ((ht _ hs).2 hv hd ((congrArg Mode.isVisual hm).trans hv) _ hs')
        (hk.selection hd)
    | some c =>
      exact (hk.works hd).attached hv hv ha
  · refine ⟨hp.1, fun _ => ?_⟩
    cases hk with
    | again hv hsel kind =>
      obtain ⟨selection, hsel', hh, hin⟩ := hp.2 hv
      obtain rfl := Option.some.inj (hsel'.symm.trans hsel)
      exact ⟨_, rfl, hh, hin⟩
    | anew kind => exact ⟨_, rfl, rfl, hp.1⟩
  · have hin := ht.puts_within hs hk hp.1
    exact ⟨hin, hfor hm⟩

end Editor

namespace Engine

/-- On one surface the selection of a visual mode ends at the cursor and begins within the text, as
long as only motions touch what it refers to. -/
theorem selection_attached {name : Text} {s : Surface} {workspace : Workspace}
    (registry : Macro.Registry) (config : Config) (interaction : Interaction)
    (run : List (Host × Call)) (hs : workspace.get? name = some s) (hc : Within s.text s.cursor)
    (ht : ∀ t ∈ (Engine.new (some name) workspace registry config interaction).runTurns run,
      t.after.pending.surface = some name ∧ t.Steady) :
    let e := Engine.new (some name) workspace registry config interaction
    (e.after run).editor.Attached name ∧ ∀ t ∈ e.runTurns run, t.engine.editor.Attached name := by
  refine run_keeps (P := Editor.Attached name) (fun _ _ => Editor.Holds.rebound) run _
    (fun t hm hx => ?_) ⟨rfl, s, hs, hc, nofun⟩
  exact hx.goes (ht t hm).2 (runTurn_goes hm) (ht t hm).1

theorem sample_selection_attached :
    let e := sample "abc\nde\nfgh" []
    let run : List (Host × Call) := [({}, .command "lvjV".toList),
      ({}, .command ":3s/f/xx/".toList), ({}, .command "\x16h".toList)]
    (e.after run).mode = .visualBlock ∧ (e.after run).editor.Attached "a".toList ∧
      ∀ t ∈ e.runTurns run, t.engine.editor.Attached "a".toList := by
  refine ⟨by decide +kernel, ?_⟩
  refine selection_attached _ _ _ _ (Table.get?_insert_self _ _ _) ⟨?_, ?_⟩ ?_ <;> decide +kernel

example : [["v\r"], ["v", ":2"], ["jjv", ":2d"]].all
    (fun calls =>
      ((sample "ab\ncd\nef" []).after (calls.map fun c => ({}, .command c.toList))).surface?.all
        fun s => s.selection.all fun x => x.head ≠ s.cursor ∨ s.lineCount ≤ x.anchor.line) =
    true := by
  decide +kernel

end Engine

end ModalEdit
