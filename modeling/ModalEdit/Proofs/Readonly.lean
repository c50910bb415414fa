import ModalEdit.Proofs.Turns

namespace ModalEdit

namespace Workspace

def text? (w : Workspace) (name : Text) : Option Text := (w.get? name).map (·.text)

def isLocked (w : Workspace) (name : Text) : Bool := (w.get? name).any (·.readonly)

variable {w : Workspace} {name t : Text}

lemma text?_activate (hw : w.text? name = some t) (other : Text) :
    (w.activate other).text? name = some t := by
  obtain ⟨s, hs, rfl⟩ := Option.map_eq_some_iff.mp hw
  rw [text?, get?_activate hs]
  rfl

lemma isLocked_iff : w.isLocked name = true ↔ ∃ s, w.get? name = some s ∧ s.readonly = true := by
  unfold isLocked
  cases w.get? name <;> simp

end Workspace

section texts

variable {h : Host} {s s' : Surface}

lemma Operator.apply_text {op : Operator} (ho : op.edits = false) (span : Span)
    (register : Option Char) : (op.apply s span register).text = s.text := by
  cases op <;> cases ho
  simp only [Operator.apply]
  split <;> rfl

lemma VisualAction.apply_text {a : VisualAction} (ha : a.edits = false) (span : Span)
    (register : Option Char) (count : Nat) : (a.apply s span register count).1.text = s.text := by
  cases a <;> cases ha <;> rfl

lemma Command.Makes.text {c : Command} {m : Mode} (hc : c.Makes h m s s') (hl : ¬Unlocked h s) :
    s'.text = s.text := by
  have hn : ∀ {b : Bool}, (b = true → Unlocked h s) → b = false := fun hb =>
    (Bool.not_eq_true _).mp fun h => hl (hb h)
  cases hc with
  | move => rfl
  | operate hu => exact Operator.apply_text (hn hu) _ _
  | operateLines hu => exact Operator.apply_text (hn hu) _ _
  | @simple c _ _ _ hu hc =>
    have hy : c = .yankLines := Decidable.not_not.mp fun h => hl (hu h)
    subst hy
    cases hc
    exact Operator.apply_text rfl _ _
  | replace hu => exact absurd hu hl
  | insert hu => exact absurd hu hl
  | visualAction _ hu => exact VisualAction.apply_text (hn hu) _ _ _

lemma LineCommand.Makes.text {c : LineCommand} (hc : c.Makes h s s') (hl : ¬Unlocked h s) :
    s'.text = s.text := by
  cases hc with
  | goTo => rfl
  | delete hu => exact absurd hu hl
  | yank => rfl
  | substitute hu => exact absurd hu hl
  | setReadonly => rfl

lemma Engine.Puts.text {e : Engine} {d : Input} {m : Mode} (hp : e.Puts h d m s s')
    (hl : ¬Unlocked h s) : s'.text = s.text := by
  cases hp with
  | command _ hc => exact hc.makes.text hl
  | line _ hc => exact hc.text hl
  | found => rfl
  | descended => rfl
  | expanded _ hu => exact absurd hu hl

end texts

namespace Editor

variable {x y : Editor} {name t : Text} {s s' : Surface} {h : Host}

def InsertsInto (x : Editor) (name : Text) : Prop := x.mode.isInsert = true ∧ x.bound = some name

instance (x : Editor) (name : Text) : Decidable (x.InsertsInto name) :=
  inferInstanceAs (Decidable (_ ∧ _))

lemma text?_put (hs : x.surface? = some s) (ht : s'.text = s.text) :
    (x.put s').workspace.text? name = x.workspace.text? name := by
  by_cases hb : x.bound = some name
  · have hg : x.workspace.get? name = some s := by
      rwa [surface?, hb] at hs
    rw [put_workspace hb, Workspace.text?, Workspace.text?, hg, Workspace.get?, Workspace.update,
      Table.get?_insert_self]
    exact congrArg some ht
  · rw [Workspace.text?, get?_put hb]
    rfl

lemma text?_put_of_ne (hb : x.bound ≠ some name) :
    (x.put s').workspace.text? name = x.workspace.text? name := by
  rw [Workspace.text?, get?_put hb]
  rfl

lemma Goes.locked {e : Engine} {d : Input} (hg : x.Goes h (e.Puts h d) y)
    (hl : x.workspace.isLocked name = true) (hi : ¬x.InsertsInto name) :
    y.workspace.text? name = x.workspace.text? name ∧ ¬y.InsertsInto name := by
  obtain ⟨s₀, hs₀, hr₀⟩ := Workspace.isLocked_iff.mp hl
  have hlock : ∀ {s}, x.surface? = some s → x.bound = some name → ¬Unlocked h s := by
    intro s hs hb hu
    rw [surface?, hb] at hs
    obtain rfl : s₀ = s := Option.some.inj (hs₀.symm.trans hs)
    rw [Unlocked, hr₀, Bool.or_true] at hu
    cases hu
  have htext : ∀ {s s' : Surface}, x.surface? = some s →
      (¬Unlocked h s → s'.text = s.text) →
      (x.put s').workspace.text? name = x.workspace.text? name := by
    intro s s' hs ht
    by_cases hb : x.bound = some name
    · exact text?_put hs (ht (hlock hs hb))
    · exact text?_put_of_ne hb
  have hne : x.mode.isInsert = true → x.bound ≠ some name := fun hm hb => hi ⟨hm, hb⟩
  cases hg with
  | kept => exact ⟨rfl, hi⟩
  | unbound => exact ⟨rfl, fun hy => Bool.false_ne_true hy.1⟩
  | opened other hm =>
    refine ⟨?_, fun hy => absurd hy.1 (hm ▸ Bool.false_ne_true)⟩
    have ht : x.workspace.text? name = some s₀.text := congrArg _ hs₀
    exact (Workspace.text?_activate ht other).trans ht.symm
  | put hm hs hk =>
    exact ⟨htext hs hk.text, fun hy => absurd (put_mode ▸ hy.1) (hm ▸ Bool.false_ne_true)⟩
  | selected hm hs hk =>
    refine ⟨htext hs fun _ => rfl, fun hy => ?_⟩
    have := hy.1
    cases ‹Mode› <;> simp_all [turned, Mode.isInsert, Mode.selectionKind?]
  | deselected hm hs hk =>
    refine ⟨htext hs fun hl => ?_, fun hy => Bool.false_ne_true hy.1⟩
    rcases hk with rfl | hk
    · rfl
    · exact hk.text hl
  | begun hm hs hu hk hr =>
    have hb : x.bound ≠ some name := fun hb => hlock hs hb hu
    exact ⟨text?_put_of_ne hb, fun hy => hb (put_bound ▸ hy.2)⟩
  | changed hm hm' hs hu hk hr =>
    have hb : x.bound ≠ some name := fun hb => hlock hs hb hu
    exact ⟨text?_put_of_ne hb, fun hy => hb (put_bound ▸ hy.2)⟩
  | typed hm hs ht => exact ⟨text?_put_of_ne (hne hm), fun hy => hne hm (put_bound ▸ hy.2)⟩
  | finished hm hs => exact ⟨text?_put_of_ne (hne hm), fun hy => Bool.false_ne_true hy.1⟩

lemma Goes.hostLocked {e : Engine} {d : Input} (hr : h.readonly = true)
    (hg : x.Goes h (e.Puts h d) y) (hi : x.mode.isInsert = false) :
    y.mode.isInsert = false ∧
      ∀ name t, x.workspace.text? name = some t → y.workspace.text? name = some t := by
  have hl : ∀ s, ¬Unlocked h s := by
    intro s hu
    rw [Unlocked, hr, Bool.true_or] at hu
    cases hu
  have htext : ∀ {s s' : Surface}, x.surface? = some s → s'.text = s.text → ∀ name t,
      x.workspace.text? name = some t → (x.put s').workspace.text? name = some t :=
    fun hs ht name t hx => (text?_put hs ht).trans hx
  cases hg with
  | kept => exact ⟨hi, fun _ _ ht => ht⟩
  | unbound => exact ⟨rfl, fun _ _ ht => ht⟩
  | opened other => exact ⟨hi, fun _ _ ht => Workspace.text?_activate ht other⟩
  | put hm hs hk => exact ⟨by rwa [put_mode], htext hs (hk.text (hl _))⟩
  | @selected _ _ m hm hs hk =>
    refine ⟨?_, htext hs rfl⟩
    cases m <;> first | rfl | cases hk
  | deselected hm hs hk =>
    refine ⟨rfl, htext hs ?_⟩
    rcases hk with rfl | hk
    · rfl
    · exact hk.text (hl _)
  | begun hm hs hu => exact absurd hu (hl _)
  | changed hm hm' hs hu => exact absurd hu (hl _)
  | typed hm => exact absurd hm (hi ▸ Bool.false_ne_true)
  | finished hm => exact absurd hm (hi ▸ Bool.false_ne_true)

end Editor

namespace Engine

/-- A surface that is readonly at every turn of a run keeps its text, provided that no key is
handled by an insertion into it. No turn begins one: only the end of a playback, which goes back
to the surface from before, can lead there. -/
theorem readonly_text_kept (e : Engine) (run : List (Host × Call)) (name : Text)
    (hl : ∀ t ∈ e.runTurns run, t.engine.workspace.isLocked name = true)
    (hi : ∀ t ∈ e.runTurns run, ¬t.engine.editor.InsertsInto name) :
    (e.after run).workspace.text? name = e.workspace.text? name ∧
      ∀ t ∈ e.runTurns run, ¬t.after.editor.InsertsInto name := by
  have hturn : ∀ t ∈ e.runTurns run, _ := fun t ht =>
    (runTurn_goes ht).locked (hl t ht) (hi t ht)
  refine ⟨?_, fun t ht => (hturn t ht).2⟩
  refine (run_keeps (P := fun x => x.workspace.text? name = e.workspace.text? name) ?_ run e
    (fun t ht hx => (hturn t ht).1.trans hx) rfl).1
  exact fun _ _ _ hy => hy

def sampleLocked (macros : List (String × String)) : Engine :=
  .new (some "a".toList)
    ((({} : Workspace).insert "a".toList "abc".toList).update "b".toList
      { name := "b".toList, text := "xyz".toList, readonly := true })
    (macros.foldl (fun r m => r.set m.1.toList m.2.toList) {}) {} {}

theorem sample_locked_visited :
    let e := sampleLocked [("m", ":e b\rx~:e a\ri!")]
    let run : List (Host × Call) := [({ access := .byName }, .command "@m".toList)]
    (e.after run).workspace.text? "a".toList = some "!abc".toList ∧
      (e.after run).workspace.text? "b".toList = e.workspace.text? "b".toList ∧
      ∀ t ∈ e.runTurns run, ¬t.after.editor.InsertsInto "b".toList :=
  ⟨by decide +kernel, readonly_text_kept _ _ _ (by decide +kernel) (by decide +kernel)⟩

lemma after_append (e : Engine) (run run' : List (Host × Call)) :
    e.after (run ++ run') = (e.after run).after run' := by
  induction run generalizing e with
  | nil => rfl
  | cons c run ih => exact ih _

lemma run_readonly {e : Engine} {run : List (Host × Call)} (hi : e.mode.isInsert = false)
    (hr : ∀ c ∈ run, c.1.readonly = true) :
    (e.after run).mode.isInsert = false ∧ (∀ t ∈ e.runTurns run, t.engine.mode.isInsert = false) ∧
      ∀ name t, e.workspace.text? name = some t → (e.after run).workspace.text? name = some t := by
  have hrun := run_keeps (P := fun x => x.mode.isInsert = false ∧
      ∀ name t, e.workspace.text? name = some t → x.workspace.text? name = some t)
    (fun _ _ _ hy => hy) run e (fun t ht hx => ?_) ⟨hi, fun _ _ ht => ht⟩
  · exact ⟨hrun.1.1, fun t ht => (hrun.2 t ht).1, hrun.1.2⟩
  · obtain ⟨c, hc, hh⟩ := runTurn_host ht
    obtain ⟨hm, ht'⟩ := (runTurn_goes ht).hostLocked (hh ▸ hr c hc) hx.1
    exact ⟨hm, fun name s hs => ht' name s (hx.2 name s hs)⟩

/-- Under a readonly host no run inserts, and no text that is there at some time ever changes. -/
theorem readonly_host_absolute (surface : Option Text) (workspace : Workspace)
    (registry : Macro.Registry) (config : Config) (interaction : Interaction)
    (run run' : List (Host × Call)) (hr : ∀ c ∈ run ++ run', c.1.readonly = true) :
    let e := Engine.new surface workspace registry config interaction
    (e.after run).mode.isInsert = false ∧ (∀ t ∈ e.runTurns run, t.engine.mode.isInsert = false) ∧
      ∀ name t, (e.after run).workspace.text? name = some t →
        (e.after (run ++ run')).workspace.text? name = some t := by
  intro e
  obtain ⟨hm, ht, -⟩ := run_readonly (e := e) rfl fun c hc => hr c (List.mem_append_left _ hc)
  obtain ⟨-, -, hx⟩ := run_readonly hm fun c hc => hr c (List.mem_append_right _ hc)
  refine ⟨hm, ht, ?_⟩
  rw [after_append]
  exact hx

theorem sample_readonly_host :
    let h : Host := { readonly := true, access := .byName }
    let e := sample "abc" [("m", "x:e b\riq")]
    let run := [(h, .command ":set noro".toList), (h, .command "dd@m".toList)]
    let run' := [(h, .command "vd".toList), (h, .command ":e a".toList), (h, .key 'i')]
    (e.after (run ++ run')).pending.surface = some "a".toList ∧
      (e.after run).mode.isInsert = false ∧ (∀ t ∈ e.runTurns run, t.engine.mode.isInsert = false) ∧
      ∀ name t, (e.after run).workspace.text? name = some t →
        (e.after (run ++ run')).workspace.text? name = some t :=
  ⟨by decide +kernel, readonly_host_absolute (some "a".toList) _ _ _ _ _ _ (by decide)⟩

end Engine

end ModalEdit
