import ModalEdit.Proofs.Reachable

/-! What the mode pane shows. Only the report at the end of a call speaks there; so if a call finds
the present mode there, it leaves the new one there, and so do the calls that a playback nests. -/

namespace ModalEdit

namespace Interaction

def shown (i : Interaction) (pane : Text) : Text := (i.notices.findSome? (·.textIn? pane)).getD []

variable (i : Interaction) {pane : Text}

lemma shown_note {n : Notice} (hn : n.textIn? pane = none) :
    (i.note n).shown pane = i.shown pane := by
  simp [shown, note, hn]

lemma shown_say {p : Text} (hp : p ≠ pane) (t : Text) : (i.say p t).shown pane = i.shown pane :=
  i.shown_note (if_neg hp)

@[simp] lemma shown_say_self (pane t : Text) : (i.say pane t).shown pane = t := by
  simp [shown, say, note, Notice.textIn?]

lemma shown_noteAsked {n : Notice} (hn : n.textIn? pane = none) :
    (i.noteAsked n).shown pane = i.shown pane := by
  unfold noteAsked
  split
  · rfl
  · exact i.shown_note hn

@[simp] lemma shown_askText (title suggestion : Text) :
    (i.askText title suggestion).1.shown pane = i.shown pane :=
  i.shown_noteAsked (n := .askedText title suggestion) rfl

@[simp] lemma shown_askChoice (title : Text) (choices : List Text) :
    (i.askChoice title choices).1.shown pane = i.shown pane :=
  i.shown_noteAsked (n := .askedChoice title choices) rfl

end Interaction

namespace Macro

def Silent (pane : Text) (f : Expansion) : Prop := ∀ s, (f s).2.2.shown pane = s.2.shown pane

variable {pane : Text}

lemma Variable.ask_silent (v : Variable) : Silent pane v.ask := by
  intro s
  unfold Variable.ask
  dsimp only
  split <;> exact s.2.shown_askText _ _

lemma Variable.expand_silent (x : Context) (v : Variable) : Silent pane (v.expand x) := by
  intro s
  have ha : (v.ask s).2.2.shown pane = s.2.shown pane := v.ask_silent s
  unfold Variable.expand
  split
  · rfl
  · rfl
  · rfl
  · rfl
  · exact ha
  · split
    · rfl
    · split <;> rename_i he <;> rwa [he] at ha

lemma expandPieces_silent {f : Text → Expansion} (hf : ∀ name, Silent pane (f name))
    (ps : List Piece) : Silent pane (expandPieces f ps) := by
  intro s
  induction ps generalizing s with
  | nil => rfl
  | cons p ps ih =>
    cases p with
    | literal c =>
      have hs := ih s
      unfold expandPieces
      split <;> rename_i he <;> rwa [he] at hs
    | reference name =>
      have hn := hf name s
      have hs := ih (f name s).2
      unfold expandPieces
      split
      · rename_i he
        rwa [he] at hn
      · rename_i he
        rw [he] at hn hs
        split <;> rename_i he' <;> rw [he'] at hs <;> exact hs.trans hn

lemma expandWithin_silent (x : Context) (levels : Nat) (name : Text) :
    Silent pane (expandWithin x levels name) := by
  induction levels generalizing name with
  | zero => exact fun _ => rfl
  | succ n ih =>
    intro s
    unfold expandWithin
    split
    · rfl
    · rename_i v _
      have hv : (v.expand x s).2.2.shown pane = s.2.shown pane := v.expand_silent x s
      split
      · rename_i he
        rwa [he] at hv
      · rename_i he
        rw [he] at hv
        split
        · exact (expandPieces_silent ih _ _).trans hv
        · exact hv

namespace Control

variable {d : Control} (hp : d.pane ≠ pane) (i : Interaction)
include hp

lemma shown_say (message : String) (name : Text) :
    (d.say i message name).shown pane = i.shown pane :=
  i.shown_say hp _

lemma startRecording_shown (name : Text) (k : Nat) :
    (d.startRecording i name k).2.1.shown pane = i.shown pane := by
  unfold startRecording
  split <;> exact shown_say hp i _ _

lemma readRecord_shown (name : Text) (k : Nat) (complete : Bool) :
    (d.readRecord i name k complete).2.1.shown pane = i.shown pane := by
  unfold readRecord
  split
  · unfold storeFinished
    dsimp only
    split
    · rfl
    · exact i.shown_say hp _
  · exact shown_say hp i _ _
  · rfl
  · split
    · exact startRecording_shown hp i name k
    · split
      · rfl
      · have ha : (i.askText "Enter Macro".toList []).1.shown pane = i.shown pane :=
          i.shown_askText _ _
        split <;> rename_i he <;> rw [he] at ha
        · exact (startRecording_shown hp _ _ k).trans ha
        · exact ha

lemma resolve_shown (name : Text) (k times : Nat) :
    (d.resolve i name k times).2.1.shown pane = i.shown pane := by
  unfold resolve
  split
  · rfl
  · split
    · rfl
    · exact shown_say hp i _ _

lemma choose_shown (choices : List Text) (k times : Nat) :
    (d.choose i choices k times).2.1.shown pane = i.shown pane := by
  unfold choose
  split
  · exact shown_say hp i _ _
  · have ha : (i.askChoice "Select Macro".toList choices).1.shown pane = i.shown pane :=
      i.shown_askChoice _ _
    split <;> rename_i he <;> rw [he] at ha
    · exact (resolve_shown hp _ _ k times).trans ha
    · exact ha

lemma search_shown (start : Text) (k times : Nat) (complete : Bool) :
    (d.search i start k times complete).2.1.shown pane = i.shown pane := by
  have hs := i.shown_say hp
  unfold search
  split
  · exact shown_say hp i _ _
  · exact (resolve_shown hp _ _ k times).trans (hs _)
  · split
    · exact resolve_shown hp i _ k times
    · split
      · exact (choose_shown hp _ _ k times).trans (hs _)
      · exact hs _

lemma readPlayback_shown (rest : Text) (k times : Nat) (complete : Bool) :
    (d.readPlayback i rest k times complete).2.1.shown pane = i.shown pane := by
  unfold readPlayback
  split
  · split
    · exact choose_shown hp i _ k times
    · rfl
  · split
    · split
      · exact resolve_shown hp i _ k times
      · exact choose_shown hp i _ k times
    · split
      · exact resolve_shown hp i _ k times
      · split
        · split
          · exact shown_say hp i _ _
          · rfl
        · exact search_shown hp i rest k times complete

lemma read_shown (command : Text) (complete : Bool) (times : Nat) :
    (d.read i command complete times).2.1.shown pane = i.shown pane := by
  unfold Control.read
  split
  · rfl
  · split
    · rfl
    · exact readRecord_shown hp i _ _ complete
    · exact readPlayback_shown hp i _ _ times complete
    · rfl

lemma expand_shown (x : Context) (name : Text) :
    (d.expand i x name).2.1.shown pane = i.shown pane := by
  have hx : Silent pane (expandWithin x (maxTemplateDepth + 1) name) := expandWithin_silent x _ name
  have hs := hx (d.registry, i)
  unfold Control.expand
  split <;> rename_i he <;> unfold Macro.expand at he <;> rw [he] at hs
  · exact hs
  · exact (Interaction.shown_say _ hp _).trans hs

end Control

lemma Control.read_pane (d : Control) (i : Interaction) (command : Text) (complete : Bool)
    (times : Nat) : (d.read i command complete times).1.pane = d.pane := by
  have hr := d.read_reads i command complete times
  generalize d.read i command complete times = step at hr
  cases hr with
  | kept => rfl
  | started => rfl
  | stored => rfl
  | aborted => rfl

end Macro

namespace Engine

structure Labelled (e : Engine) (m : Mode) : Prop where
  pane : e.macros.pane ≠ modePane
  shown : e.interaction.shown modePane = m.label.toList

def Quiet (m : Mode) (a b : Engine) : Prop := a = b ∧ a.Labelled m

lemma quiet_congruence (m : Mode) : KeyCongruence (Quiet m) where
  alike := by
    rintro a _ ⟨rfl, -⟩
    exact ⟨rfl, rfl, rfl, rfl, rfl, rfl, rfl⟩
  mode := by
    rintro a _ _ ⟨rfl, hp, hs⟩
    exact ⟨rfl, hp, hs⟩
  clearPending := by
    rintro a _ ⟨rfl, hp, hs⟩
    exact ⟨rfl, hp, hs⟩
  bind := by
    rintro a _ _ ⟨rfl, hp, hs⟩
    exact ⟨rfl, hp, hs⟩
  workspace := by
    rintro a _ _ ⟨rfl, hp, hs⟩
    exact ⟨rfl, hp, hs⟩
  typing := by
    rintro a _ _ ⟨rfl, hp, hs⟩
    exact ⟨rfl, hp, hs⟩
  lastPattern := by
    rintro a _ _ ⟨rfl, hp, hs⟩
    exact ⟨rfl, hp, hs⟩
  noted := by
    rintro a _ n hn ⟨rfl, hp, hs⟩
    exact ⟨rfl, hp, (a.interaction.shown_note (hn.resolve_right hp)).trans hs⟩
  extend := by
    rintro a _ _ ⟨rfl, hp, hs⟩
    exact ⟨rfl, hp, hs⟩
  takeBack := by
    rintro a _ ⟨rfl, hp, hs⟩
    exact ⟨rfl, hp, hs⟩

namespace Labelled

variable {e : Engine} {m : Mode}

lemma sayMacro (hl : e.Labelled m) (t : Text) : (e.sayMacro t).Labelled m :=
  ⟨hl.pane, (e.interaction.shown_say hl.pane t).trans hl.shown⟩

lemma putSurface (hl : e.Labelled m) (s : Surface) : (e.putSurface s).Labelled m :=
  ((quiet_congruence m).putSurface ⟨rfl, hl⟩ s).2

lemma record (hl : e.Labelled m) (was : Bool) (keys : Text) : (e.record was keys).Labelled m := by
  unfold Engine.record
  split <;> exact ⟨hl.pane, hl.shown⟩

lemma expandVariable (hl : e.Labelled m) (h : Host) (name : Text) (times : Nat) :
    (e.expandVariable h name times).1.Labelled m := by
  have ht (message : String) : (e.tell message).Labelled m :=
    ((quiet_congruence m).tell ⟨rfl, hl⟩ message).2
  unfold Engine.expandVariable editedBy editable
  split
  · exact ht _
  · rename_i s _
    by_cases hr : (h.readonly || s.readonly) = true
    · rw [if_pos hr]
      exact ht _
    · rw [if_neg hr]
      dsimp only
      let x : Macro.Context :=
        { environment := h.environment, now := h.now, filename := s.name, line := s.cursor.line }
      obtain ⟨vs, hv⟩ := e.macros.expand_same e.interaction x name
      have hx : Labelled { e with
          macros := (e.macros.expand e.interaction x name).1
          interaction := (e.macros.expand e.interaction x name).2.1 } m :=
        ⟨by rw [hv]; exact hl.pane, (e.macros.expand_shown hl.pane _ x name).trans hl.shown⟩
      split <;> rename_i he <;> rw [he] at hx
      · exact hx
      · exact hx.putSurface _

lemma runMacro (hl : e.Labelled m) (h : Host) (body : Text) (times : Nat) (complete : Bool) :
    (e.runMacro h body times complete).1.Labelled m := by
  have hr : Labelled { e with
      macros := (e.macros.read e.interaction body complete times).1
      interaction := (e.macros.read e.interaction body complete times).2.1 } m :=
    ⟨by rw [Macro.Control.read_pane]; exact hl.pane,
      (Macro.Control.read_shown hl.pane _ body complete times).trans hl.shown⟩
  unfold Engine.runMacro
  generalize e.macros.read e.interaction body complete times = step at hr
  obtain ⟨d, i, o⟩ := step
  have hc : (Engine.clearPending { e with macros := d, interaction := i }).Labelled m :=
    ⟨hr.pane, hr.shown⟩
  cases o with
  | incomplete => cases complete <;> assumption
  | ignored => exact hc
  | cancelled => exact hc
  | notFound => exact hc
  | done k r =>
    cases r with
    | none => exact hc
    | some r =>
      cases r with
      | play name n => exact ⟨hc.pane, hc.shown⟩
      | expand name n =>
        have hx : (({ e with macros := d, interaction := i } : Engine).clearPending.noteResolved
            name).Labelled m := ⟨hc.pane, hc.shown⟩
        exact hx.expandVariable h name n

end Labelled

lemma expandVariable_mode (e : Engine) (h : Host) (name : Text) (times : Nat) :
    (e.expandVariable h name times).1.mode = e.mode := by
  unfold expandVariable editedBy editable
  split
  · rfl
  · rename_i s _
    by_cases hr : (h.readonly || s.readonly) = true
    · rw [if_pos hr]
      rfl
    · rw [if_neg hr]
      dsimp only
      split
      · rfl
      · exact putSurface_mode

lemma runMacro_mode (e : Engine) (h : Host) (body : Text) (times : Nat) (complete : Bool) :
    (e.runMacro h body times complete).1.mode = e.mode := by
  unfold runMacro
  generalize e.macros.read e.interaction body complete times = step
  obtain ⟨d, i, o⟩ := step
  cases o with
  | incomplete => cases complete <;> rfl
  | ignored => rfl
  | cancelled => rfl
  | notFound => rfl
  | done k r =>
    cases r with
    | none => rfl
    | some r =>
      cases r with
      | play name n => rfl
      | expand name n => exact expandVariable_mode _ h name n

def Truthful (e : Engine) : Prop := e.Labelled e.mode

structure Proceeds (m : Mode) (x : Engine × Reply) : Prop where
  labelled : x.1.Labelled m
  mode : x.2.isPlay = true → x.1.mode = m

lemma PlainStep.proceeds {m : Mode} {x y : Engine × Reply} (h : PlainStep (Quiet m) x y) :
    Proceeds m x := by
  refine ⟨h.1.1.2, fun hp => ?_⟩
  rw [h.2] at hp
  cases hp

lemma runMacro_proceeds {e : Engine} (he : e.Truthful) (h : Host) (body : Text) (times : Nat)
    (complete : Bool) : Proceeds e.mode (e.runMacro h body times complete) :=
  ⟨Labelled.runMacro he h body times complete, fun _ => runMacro_mode e h body times complete⟩

lemma stroke_proceeds {e : Engine} (he : e.Truthful) (h : Host) (c : Char) :
    Proceeds e.mode (e.stroke h c) := by
  cases hr : e.reads? c with
  | none => exact (stroke_plain (quiet_congruence e.mode) ⟨rfl, he⟩ hr h).proceeds
  | some r =>
    rw [stroke_of_reads hr h]
    unfold reader
    split
    · exact runMacro_proceeds he h r.1 r.2 _
    · exact runMacro_proceeds (e := e.extend c) ⟨he.pane, he.shown⟩ h r.1 r.2 _

lemma wholeStroke_proceeds {e : Engine} (he : e.Truthful) (h : Host) (body : Text) :
    Proceeds e.mode (e.wholeStroke h body) := by
  let start : Engine := { e with resolved := none, pending := e.pending.set body }
  have hs : start.Truthful := ⟨he.pane, he.shown⟩
  have hq := quiet_congruence e.mode
  unfold wholeStroke
  dsimp only
  split
  · exact (PlainStep.handle (hq.finishLine (a := start) ⟨rfl, hs⟩ h)).proceeds
  · cases hb : macroBody? body with
    | none => exact (runPending_plain hq.toCongruence (a := start) ⟨rfl, hs⟩ hb h true).proceeds
    | some r =>
      rw [runPending_of_body (e := start) hb h true]
      exact runMacro_proceeds hs h r.1 r.2 true

namespace Truthful

variable {e : Engine}

lemma reportMode {before : Mode} (h : e.Labelled before ∨ e.Truthful) :
    (e.reportMode before).Truthful := by
  unfold Engine.reportMode
  split
  · rename_i hm
    rcases h with hl | ht
    · rwa [← hm] at hl
    · exact ht
  · exact ⟨h.elim (·.pane) (·.pane), Interaction.shown_say_self ..⟩

lemma sayMacro (he : e.Truthful) (t : Text) : (e.sayMacro t).Truthful := Labelled.sayMacro he t

lemma record (he : e.Truthful) (was : Bool) (keys : Text) : (e.record was keys).Truthful := by
  unfold Engine.record
  split
  · exact ⟨he.pane, he.shown⟩
  · exact he

lemma setRound (he : e.Truthful) (round rounds : Nat) : (e.setRound round rounds).Truthful := by
  have hs : Truthful { e with
      macros := { e.macros with machine := e.macros.machine.setRound round rounds } } :=
    ⟨he.pane, he.shown⟩
  unfold Engine.setRound
  dsimp only
  split
  · exact hs.sayMacro _
  · exact hs

end Truthful

section playback

def Tells (key : KeyFunction) : Prop := ∀ (e : Engine) (c : Char), e.Truthful → (key e c).1.Truthful

variable {h : Host} {key : KeyFunction} (hk : Tells key)
include hk

lemma replay_truthful (keys : Text) (e : Engine) (he : e.Truthful) :
    (replay key e keys).1.Truthful := by
  induction keys generalizing e with
  | nil => exact he
  | cons c cs ih =>
    unfold replay
    split
    · exact he
    · exact ih _ (hk e c he)

lemma playRounds_truthful (name keys : Text) (rounds left : Nat) (e : Engine) (he : e.Truthful) :
    (playRounds h key name keys rounds e left).Truthful := by
  induction left generalizing e with
  | zero => exact he
  | succ left ih =>
    have hr := replay_truthful hk keys _ (he.setRound (rounds - left) rounds)
    unfold playRounds
    dsimp only
    split <;> rename_i ha <;> rw [ha] at hr
    · exact hr
    · split
      · split
        · exact hr
        · exact hr.sayMacro _
      · exact ih _ hr

lemma playWith_truthful (e : Engine) (name : Text) (times : Nat) (he : e.Truthful) :
    (playWith h key e name times).1.Truthful := by
  have hb := e.macros.beginPlayback_begins e.interaction name
  unfold playWith
  split
  · exact he
  · generalize e.macros.beginPlayback e.interaction name = r at hb
    cases hb with
    | refused message =>
      exact ⟨he.pane, (e.interaction.shown_say he.pane _).trans he.shown⟩
    | begun keys last =>
      let begun : Engine := { e with
        macros := { e.macros with
          machine := e.macros.machine.push { name }
          registry := { e.macros.registry with last } }
        pending := e.pending.clear }
      have hs : begun.Truthful := ⟨he.pane, he.shown⟩
      let played := playRounds h key name keys times begun.sayLabel times
      have hr : played.Truthful :=
        playRounds_truthful hk name keys times times _ (hs.sayMacro begun.macros.machine.label)
      have hp :
          Truthful { played with macros := played.macros.endPlayback, pending := e.pending } :=
        ⟨hr.pane, hr.shown⟩
      exact hp.sayMacro _

lemma settle_labelled {m : Mode} {x : Engine × Reply} (hx : Proceeds m x) :
    (settle h key x).1.Labelled m ∨ (settle h key x).1.Truthful := by
  obtain ⟨e, reply⟩ := x
  cases reply with
  | handled => exact .inl hx.labelled
  | play name times =>
    obtain rfl : e.mode = m := hx.mode rfl
    exact .inr (playWith_truthful hk e name times hx.labelled)

lemma keyWith_tells : Tells (keyWith h key) := by
  intro e c he
  refine Truthful.reportMode ?_
  exact (settle_labelled hk (stroke_proceeds he h c)).imp (·.record _ _) (·.record _ _)

end playback

theorem keyAt_tells (h : Host) (depth : Nat) : Tells (keyAt h depth) := by
  induction depth with
  | zero => exact keyWith_tells fun _ _ he => he
  | succ depth ih => exact keyWith_tells ih

lemma key_truthful {e : Engine} (he : e.Truthful) (h : Host) (c : Char) : (e.key h c).1.Truthful :=
  keyAt_tells h _ e c he

lemma type_truthful {e : Engine} (he : e.Truthful) (h : Host) (keys : Text) :
    (e.type h keys).1.Truthful := by
  induction keys generalizing e with
  | nil => exact he
  | cons c cs ih =>
    rw [type_cons]
    exact ih (key_truthful he h c)

lemma runWhole_truthful {e : Engine} (he : e.Truthful) (h : Host) (body : Text) :
    (e.runWhole h body).1.Truthful := by
  refine Truthful.reportMode ?_
  exact (settle_labelled (keyAt_tells h _) (wholeStroke_proceeds he h body)).imp
    (·.record _ _) (·.record _ _)

lemma perform_truthful {e : Engine} (he : e.Truthful) (h : Host) (call : Call) :
    (e.perform h call).1.Truthful := by
  cases call with
  | key c => exact key_truthful he h c
  | playback name times => exact playWith_truthful (keyAt_tells h _) e name times he
  | escape =>
    have hc : Labelled e.clearPending e.mode := ⟨he.pane, he.shown⟩
    exact Truthful.reportMode (.inl ((quiet_congruence e.mode).escapeMode ⟨rfl, hc⟩).1.2)
  | command t =>
    change (e.command h t).1.Truthful
    unfold command
    split
    · exact runWhole_truthful he h _
    · exact type_truthful he h t

/-- The engines that calls lead to if macros are not spoken of in the mode pane, and if nobody else
speaks there. -/
inductive Watched : Engine → Prop
  | new (surface : Option Text) (workspace : Workspace) (registry : Macro.Registry)
      {config : Config} {interaction : Interaction} (hp : config.statusPane ≠ modePane)
      (hi : interaction.shown modePane = []) :
      Watched (.new surface workspace registry config interaction)
  | perform {e} (h : Host) (call : Call) : Watched e → Watched (e.perform h call).1
  | surrounded {e} (surface : Option Text) (workspace : Workspace) (registry : Macro.Registry)
      {interaction : Interaction} (hi : interaction.shown modePane = e.interaction.shown modePane) :
      Watched e → Watched (e.surrounded surface workspace registry interaction)

theorem Watched.mode_shown {e : Engine} (he : e.Watched) :
    e.interaction.shown modePane = e.mode.label.toList := by
  have ht : e.Truthful := by
    induction he with
    | new _ _ _ hp hi => exact ⟨hp, hi⟩
    | perform h call _ ih => exact perform_truthful ih h call
    | surrounded _ _ _ hi _ ih => exact ⟨ih.pane, hi.trans ih.shown⟩
  exact ht.shown

theorem sample_mode_shown :
    let e := sample "abc" [("m", "vli"), ("n", "i\x1b@mRx")]
    (e.command {} "2@n".toList).1.interaction.shown modePane = "insert".toList := by
  have hn : (sample "abc" [("m", "vli"), ("n", "i\x1b@mRx")]).Watched :=
    .new _ _ _ (by decide) (by decide)
  refine ((hn.perform {} (.command "2@n".toList)).mode_shown).trans ?_
  decide +kernel

end Engine

end ModalEdit
