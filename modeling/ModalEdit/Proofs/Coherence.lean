import ModalEdit.Proofs.Turns

namespace ModalEdit

/-- A selection is there in the visual modes only, and of their kind; outside of the insert modes
the insertion is the default one. -/
structure Editor.Coherent (name : Text) (x : Editor) : Prop where
  bound : x.bound = some name
  selection : ∃ s, x.workspace.get? name = some s ∧
    s.selection.map (·.kind) = x.mode.selectionKind?
  typing : x.mode.isInsert = false → x.typing = {}

section kinds

variable {h : Host} {s s' : Surface}

lemma kind_of_outline (hs : s'.outline = s.outline) :
    s'.selection.map (·.kind) = s.selection.map (·.kind) :=
  congrArg (Option.map (·.kind)) (Surface.selection_eq hs)

lemma Simple.Makes.outline {c : Simple} {count : Nat} {register : Option Char}
    (hc : c.Makes s count register s') : s'.outline = s.outline := by
  cases hc with
  | toggleCase _ _ hs =>
    subst hs
    simp
  | _ => simp [Surface.landed]

lemma Command.Makes.kind {c : Command} {m : Mode} (hc : c.Makes h m s s') :
    s'.selection.map (·.kind) = s.selection.map (·.kind) := by
  cases hc with
  | move =>
    dsimp only
    split
    · cases s.selection <;> rfl
    · rfl
  | operate => exact kind_of_outline (outline_applyOperator ..)
  | operateLines => exact kind_of_outline (outline_applyOperator ..)
  | simple _ hc => exact kind_of_outline hc.outline
  | replace _ hr =>
    exact kind_of_outline ((Surface.outline_setCursor ..).trans (Surface.outline_replaceChars? hr))
  | insert => exact kind_of_outline (outline_prepare ..)
  | visualAction =>
    exact kind_of_outline ((Surface.outline_setCursor ..).trans (outline_applyAction ..))

lemma LineCommand.Makes.selection {c : LineCommand} (hc : c.Makes h s s') :
    s'.selection = s.selection := by
  cases hc with
  | goTo => rfl
  | delete _ _ hs =>
    have ho := congrArg (·.1.selection) hs
    exact ho.symm.trans (Surface.selection_eq (Surface.outline_deleteSpan _ s))
  | yank => rfl
  | substitute => exact Surface.selection_eq (Surface.outline_mapLines ..)
  | setReadonly => rfl

lemma Engine.Puts.selection {e : Engine} {d : Input} {m : Mode} (hp : e.Puts h d m s s')
    (hd : d.command? e = none) : s'.selection = s.selection := by
  cases hp with
  | command hc => cases hd.symm.trans hc
  | line _ hc => exact hc.selection
  | found => rfl
  | descended => rfl
  | expanded => rfl

lemma Engine.Puts.kind {e : Engine} {d : Input} {m : Mode} (hp : e.Puts h d m s s') :
    s'.selection.map (·.kind) = s.selection.map (·.kind) := by
  cases hd : d.command? e with
  | none => rw [hp.selection hd]
  | some c => exact (hp.works hd).makes.kind

lemma Surface.Types.selection (ht : s.Types s') : s'.selection = s.selection := by
  cases ht <;> rfl

end kinds

namespace Editor

variable {x y : Editor} {name : Text} {s : Surface}

lemma selectionKind?_eq_none {m : Mode} (hm : m.isVisual = false) : m.selectionKind? = none := by
  cases m <;> cases hm <;> rfl

lemma Coherent.kind (hx : x.Coherent name) (hs : x.surface? = some s) :
    s.selection.map (·.kind) = x.mode.selectionKind? := by
  obtain ⟨s', hg, hk⟩ := hx.selection
  rw [surface?, hx.bound] at hs
  obtain rfl : s' = s := Option.some.inj (hg.symm.trans hs)
  exact hk

lemma Coherent.put (hx : x.Coherent name) {m : Mode} {typing : Typing}
    (hk : s.selection.map (·.kind) = m.selectionKind?) (ht : m.isInsert = false → typing = {}) :
    ((x.put s).turned m typing).Coherent name := by
  refine ⟨?_, ⟨s, ?_, hk⟩, ht⟩
  · simp [turned, hx.bound]
  · simp [turned, put_workspace hx.bound, Workspace.get?, Workspace.update,
      Table.get?_insert_self]

lemma Coherent.goes {h : Host} {e : Engine} {d : Input} (hx : x.Coherent name)
    (hg : x.Goes h (e.Puts h d) y) (hb : y.bound = some name) : y.Coherent name := by
  cases hg with
  | kept => exact hx
  | unbound hs =>
    obtain ⟨s, hg, -⟩ := hx.selection
    rw [surface?, hx.bound] at hs
    cases hs.symm.trans hg
  | opened t hm =>
    obtain ⟨s, hg, hk⟩ := hx.selection
    exact ⟨hb, ⟨s, Workspace.get?_activate hg t, hk⟩, hx.typing⟩
  | put hm hs hk =>
    exact put_turned_self ▸ hx.put (hk.kind.trans (hx.kind hs)) hx.typing
  | selected hm hs hk => exact hx.put hk.symm fun _ => hx.typing hm
  | deselected hm hs hk => exact hx.put rfl fun _ => hx.typing (Mode.isInsert_of_isVisual hm)
  | begun hm hs hu hk hr =>
    refine hx.put ?_ fun hn => ?_
    · rw [hk.kind, hx.kind hs, hm]
      rfl
    · cases hn
  | changed hm hm' hs hu hk hr =>
    refine hx.put (selectionKind?_eq_none ?_).symm fun hn => ?_
    · cases ‹Mode› <;> cases hm' <;> rfl
    · rw [hm'] at hn
      cases hn
  | typed hm hs ht =>
    refine hx.put ?_ fun hn => ?_
    · rw [ht.selection]
      exact hx.kind hs
    · rw [hm] at hn
      cases hn
  | finished hm hs => exact hx.put rfl fun _ => rfl

end Editor

namespace Engine

/-- The engines that calls lead to from a new one while it stays bound to one surface. Between two
calls the owner may change the macros, the answers to prompts and all of the surfaces but the
selection on this one. -/
inductive Single (name : Text) : Engine → Prop
  | new {s : Surface} {workspace : Workspace} (registry : Macro.Registry) (config : Config)
      (interaction : Interaction) (hs : workspace.get? name = some s) (hn : s.selection = none) :
      Single name (.new (some name) workspace registry config interaction)
  | perform {e : Engine} {h : Host} {call : Call} (he : Single name e)
      (hb : ∀ t ∈ e.turns h call, t.after.pending.surface = some name) :
      Single name (e.perform h call).1
  | surrounded {e : Engine} {workspace : Workspace} {registry : Macro.Registry}
      {interaction : Interaction} (he : Single name e)
      (hs : (workspace.get? name).map (·.selection) =
        (e.workspace.get? name).map (·.selection)) :
      Single name (e.surrounded (some name) workspace registry interaction)

variable {name : Text} {e : Engine}

lemma perform_coherent (he : e.editor.Coherent name) {h : Host} {call : Call}
    (hb : ∀ t ∈ e.turns h call, t.after.pending.surface = some name) :
    (e.perform h call).1.editor.Coherent name := by
  refine (perform_keeps (P := Editor.Coherent name) ?_ e call ?_ he).1
  · intro x y hx hy
    rw [hx.bound, ← hy.bound]
    exact hy
  · intro t ht hx
    exact hx.goes (turn_goes ht) (hb t ht)

lemma Single.editor_coherent (he : Single name e) : e.editor.Coherent name := by
  induction he with
  | @new s _ _ _ _ hs hn =>
    refine ⟨rfl, ⟨s, hs, ?_⟩, fun _ => rfl⟩
    rw [hn]
    rfl
  | perform _ hb ih => exact perform_coherent ih hb
  | surrounded _ hs ih =>
    obtain ⟨s, hg, hk⟩ := ih.selection
    obtain ⟨s', hs', he⟩ := Option.map_eq_some_iff.mp (hs.trans (congrArg _ hg))
    exact ⟨rfl, ⟨s', hs', he ▸ hk⟩, ih.typing⟩

lemma escapeMode_mode_pending (e : Engine) :
    e.escapeMode.1.mode = .normal ∧ e.escapeMode.1.pending = e.pending :=
  enter_mode_pending

lemma escape_mode_pending (e : Engine) :
    e.escape.1.mode = .normal ∧ e.escape.1.pending = e.pending.clear := by
  obtain ⟨hm, hp⟩ := escapeMode_mode_pending e.clearPending
  have hs := reportMode_editor e.clearPending.escapeMode.1 e.mode
  exact ⟨(congrArg Editor.mode hs).trans hm, (reportMode_pending ..).trans hp⟩

theorem Single.modes_agree (he : Single name e) :
    e.editor.Coherent name ∧ e.escape.1.mode = .normal ∧ e.escape.1.pending.text = [] ∧
      ∃ s, e.escape.1.surface? = some s ∧ s.selection = none := by
  have hc := he.editor_coherent
  obtain ⟨hm, hp⟩ := escape_mode_pending e
  have hx : e.escape.1.editor.Coherent name := by
    have hb : ∀ t ∈ e.turns {} .escape, t.after.pending.surface = some name := by
      intro t ht
      obtain rfl := List.mem_singleton.mp ht
      exact (congrArg (·.surface) (escapeMode_mode_pending e.clearPending).2).trans hc.bound
    exact perform_coherent hc hb
  obtain ⟨s, hs, hk⟩ := hx.selection
  refine ⟨hc, hm, hp ▸ rfl, s, ?_, ?_⟩
  · rw [← editor_surface?, Editor.surface?, hx.bound]
    exact hs
  · have hm : e.escape.1.editor.mode = .normal := hm
    rw [hm] at hk
    exact Option.map_eq_none_iff.mp hk

lemma sample_single (text : String) (macros : List (String × String)) :
    Single "a".toList (sample text macros) :=
  .new _ _ _ (Table.get?_insert_self _ _ _) rfl

theorem sample_coherent_block :
    let e := ((sample "abc\ndef" [("b", "lVjK")]).perform {} (.command "@b".toList)).1
    e.mode = .visualBlock ∧ e.editor.Coherent "a".toList ∧ e.escape.1.mode = .normal ∧
      e.escape.1.pending.text = [] ∧ ∃ s, e.escape.1.surface? = some s ∧ s.selection = none :=
  ⟨by decide +kernel, Single.modes_agree ((sample_single _ _).perform (by decide +kernel))⟩

end Engine

end ModalEdit
