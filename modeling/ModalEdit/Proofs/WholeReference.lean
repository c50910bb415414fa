import ModalEdit.Proofs.CallLog

/-! A reference that is run as a whole while recording: the name it means is noted once, whatever
its playback goes on to refer to, and it is recorded with that name. -/

namespace ModalEdit

open Macro (Control Machine)

def Macro.Request.name : Macro.Request → Text
  | .play name _ => name
  | .expand name _ => name

namespace Engine

lemma putSurface_resolved (e : Engine) (s : Surface) :
    (e.putSurface s).resolved = e.resolved := by
  unfold putSurface
  split <;> rfl

lemma expandVariable_resolved (e : Engine) (h : Host) (name : Text) (times : Nat) :
    (e.expandVariable h name times).1.resolved = e.resolved := by
  unfold expandVariable editedBy editable
  split
  · rfl
  · rename_i s _
    by_cases hr : (h.readonly || s.readonly) = true
    · rw [if_pos hr]
      rfl
    · rw [if_neg hr]
      dsimp only
      split
      · rfl
      · exact putSurface_resolved ..

lemma runMacro_resolved (e : Engine) (h : Host) (body : Text) (times : Nat) (complete : Bool) :
    (e.runMacro h body times complete).1.resolved =
      match (e.macros.read e.interaction body complete times).2.2 with
      | .done _ (some r) => e.resolved.or (some r.name)
      | _ => e.resolved := by
  unfold runMacro
  generalize e.macros.read e.interaction body complete times = step
  obtain ⟨d, i, o⟩ := step
  cases o with
  | incomplete => cases complete <;> rfl
  | ignored => rfl
  | cancelled => rfl
  | notFound => rfl
  | done k r =>
    cases r with
    | none => rfl
    | some r =>
      cases r with
      | play => rfl
      | expand name n => exact expandVariable_resolved _ h name n

lemma stroke_resolved {e : Engine} {name : Text} (hn : e.resolved = some name) (h : Host)
    (c : Char) : (e.stroke h c).1.resolved = some name := by
  cases hr : e.reads? c with
  | none =>
    obtain ⟨⟨⟨-, -, hs⟩, -⟩, -⟩ := stroke_plain (carries_congruence _ _) (carries_self e) hr h
    exact hs.trans hn
  | some r =>
    rw [stroke_of_reads hr h, runMacro_resolved, reader_resolved, hn]
    split <;> rfl

def KeepsNote (key : KeyFunction) : Prop :=
  ∀ (e : Engine) (c : Char) (name : Text),
    e.resolved = some name → (key e c).1.resolved = some name

section playback

variable {h : Host} {key : KeyFunction} (hk : KeepsNote key) {name : Text}
include hk

lemma replay_resolved (keys : Text) {e : Engine} (hn : e.resolved = some name) :
    (replay key e keys).1.resolved = some name := by
  induction keys generalizing e with
  | nil => exact hn
  | cons c cs ih =>
    unfold replay
    split
    · exact hn
    · exact ih (hk e c name hn)

lemma playRounds_resolved (macroName keys : Text) (rounds left : Nat) {e : Engine}
    (hn : e.resolved = some name) :
    (playRounds h key macroName keys rounds e left).resolved = some name := by
  induction left generalizing e with
  | zero => exact hn
  | succ left ih =>
    have hs : (e.setRound (rounds - left) rounds).resolved = some name := by
      unfold setRound
      dsimp only
      split <;> exact hn
    have hr := replay_resolved hk keys hs
    unfold playRounds
    dsimp only
    generalize replay key (e.setRound (rounds - left) rounds) keys = x at hr
    obtain ⟨e', stopped⟩ := x
    cases stopped with
    | true => exact hr
    | false =>
      dsimp only
      split_ifs
      · exact hr
      · exact hr
      · exact ih hr

lemma playWith_resolved (macroName : Text) (times : Nat) {e : Engine}
    (hn : e.resolved = some name) :
    (playWith h key e macroName times).1.resolved = some name := by
  unfold playWith
  split
  · exact hn
  · split
    · exact hn
    · exact playRounds_resolved hk _ _ _ _ hn

lemma settle_resolved {x : Engine × Reply} (hn : x.1.resolved = some name) :
    (settle h key x).1.resolved = some name := by
  obtain ⟨e, r⟩ := x
  cases r with
  | handled => exact hn
  | play macroName times => exact playWith_resolved hk macroName times hn

end playback

@[simp] lemma record_resolved (e : Engine) (was : Bool) (keys : Text) :
    (e.record was keys).resolved = e.resolved := by
  unfold record
  split <;> rfl

@[simp] lemma reportMode_resolved (e : Engine) (m : Mode) :
    (e.reportMode m).resolved = e.resolved := by
  unfold reportMode
  split <;> rfl

lemma keyWith_keepsNote (h : Host) {inner : KeyFunction} (hk : KeepsNote inner) :
    KeepsNote (keyWith h inner) := by
  intro e c name hn
  rw [keyWith, reportMode_resolved, record_resolved]
  exact settle_resolved hk (stroke_resolved hn h c)

theorem keyAt_keepsNote (h : Host) (depth : Nat) : KeepsNote (keyAt h depth) := by
  induction depth with
  | zero => exact keyWith_keepsNote h fun _ _ _ hn => hn
  | succ depth ih => exact keyWith_keepsNote h ih

section command

variable {e : Engine} {body rest : Text} {p : Prefix}

lemma wholeStroke_of_reference (hb : Prefix.split? body = some (p, '@' :: rest)) (h : Host) :
    e.wholeStroke h body =
      runMacro { e with resolved := none, pending := e.pending.set body } h ('@' :: rest)
        p.countOrOne true := by
  have hm : macroBody? body = some ('@' :: rest, p.countOrOne) :=
    macroBody?_eq_some.mpr ⟨p, hb, rfl, rfl⟩
  have hl : ¬(CommandKind.ofText body).isLine = true := by
    intro hl
    rw [macroBody?_of_isLine hl] at hm
    cases hm
  unfold wholeStroke
  rw [if_neg hl]
  exact runPending_of_body hm h true

lemma read_reference (d : Control) (i : Interaction) (rest : Text) (complete : Bool) {times : Nat}
    (ht : times ≠ 0) : d.read i ('@' :: rest) complete times =
      d.readPlayback i rest (rest.length + 1) times complete := by
  rw [Control.read, if_neg ht]
  rfl

theorem command_records (hm : e.macros.machine.Resting) (hs : e.macros.machine.state = .recording)
    (hi : e.mode.isInsert = false) (h : Host) {t : Text}
    (hb : Prefix.split? (withoutEnter t) = some (p, '@' :: rest)) {k : Nat} {r : Macro.Request}
    (hr : (e.macros.read e.interaction ('@' :: rest) true p.countOrOne).2.2 = .done k (some r)) :
    (e.command h t).1.macros.machine.recorded =
      e.macros.machine.recorded ++ recordable (some r.name) (withoutEnter t) := by
  have hw : (!e.mode.isInsert && isWhole (withoutEnter t)) = true := by
    simp [hi, isWhole, hb, isMacroBody]
  have hstroke := wholeStroke_of_reference (e := e) hb h
  have hx := wholeStroke_acts e h (withoutEnter t)
  -- what is read plays or expands something: the recording goes on
  have hspares : e.Spares (e.wholeStroke h (withoutEnter t)) := by
    right
    rw [hstroke, runMacro_machine, read_reference _ _ _ _
      (Nat.pos_iff_ne_zero.mp (Prefix.countOrOne_pos hb)), Control.readPlayback_macros]
  have hd := settle_machine (h := h) (keyAt_unwinds h e.macros.machine.limit) hm hx hspares
  have hnote : (e.wholeStroke h (withoutEnter t)).1.resolved = some r.name := by
    rw [hstroke, runMacro_resolved]
    simp [hr]
  have hafter := settle_resolved (h := h) (keyAt_keepsNote h e.macros.machine.limit) hnote
  have hrec : e.macros.machine.isRecording = true := by simp [Machine.isRecording, hs]
  unfold command runWhole
  rw [if_pos hw]
  dsimp only
  rw [reportMode_macros, hafter, record_macros, hd, hrec]
  simp only [Bool.and_self, ↓reduceIte, Control.recordKeys]
  rw [hd, Machine.foldl_recordKey hs hm.2]

end command

end Engine

end ModalEdit
