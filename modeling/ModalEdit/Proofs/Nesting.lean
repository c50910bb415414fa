import ModalEdit.Engine.Playback
import ModalEdit.Proofs.Stroke

/-! What a nested call leaves behind. A playback pushes its frame, each of its keys gives the stack
back as it was, and the frame is popped again; so by induction over the depth every key does. -/

namespace ModalEdit

open Macro.Machine (Returns)

namespace Macro.Control

structure Unwound (d d' : Control) : Prop where
  machine : Returns d.machine d'.machine
  macros : d'.registry.macros = d.registry.macros

namespace Unwound

variable {d d' d'' : Control}

protected lemma refl (d : Control) : Unwound d d := ⟨.refl _, rfl⟩

protected lemma trans (h : Unwound d d') (h' : Unwound d' d'') : Unwound d d'' :=
  ⟨h.machine.trans h'.machine, h'.macros.trans h.macros⟩

end Unwound

structure Within (d d' : Control) : Prop where
  frame : ∃ f, Returns (d.machine.push f) d'.machine
  macros : d'.registry.macros = d.registry.macros

namespace Within

variable {d d' d'' : Control}

lemma step (h : Within d d') (h' : Unwound d' d'') : Within d d'' := by
  obtain ⟨f, hf⟩ := h.frame
  exact ⟨⟨f, hf.trans h'.machine⟩, h'.macros.trans h.macros⟩

lemma setRound (h : Within d d') (round rounds : Nat) :
    Within d { d' with machine := d'.machine.setRound round rounds } := by
  obtain ⟨f, hf⟩ := h.frame
  exact ⟨⟨_, hf.setRound round rounds⟩, h.macros⟩

lemma coherent (h : Within d d') (hp : ∀ f, (d.machine.push f).Replaying) :
    d'.machine.Coherent ∧ d'.machine.playing ≠ [] := by
  obtain ⟨f, hf⟩ := h.frame
  refine ⟨hf.coherent (hp f).1, ?_⟩
  rw [hf.playing]
  simp

lemma ends (h : Within d d') (hm : d.machine.Coherent) (ha : d.machine.aborting = false) :
    Unwound d d'.endPlayback := by
  obtain ⟨f, hf⟩ := h.frame
  exact ⟨hf.done hm ha, h.macros⟩

end Within

end Macro.Control

namespace Engine

open Macro (Control Machine)

lemma Acts.unwound {d d' : Control} {r : Reply} (h : Acts d d' r) (hm : d.machine.Replaying) :
    d.Unwound d' ∧ d'.machine.Coherent := by
  have hu : d.Unwound d' := by
    have hi : d.machine.state ≠ .idle := fun hs => hm.going.1 (hm.1.idle hs).1
    have hr : d.machine.state ≠ .recording := fun hs =>
      absurd ((hm.1.recording hs).mpr hm.going.1) (by simp [hm.going.2])
    cases h with
    | kept => exact ⟨.refl _, rfl⟩
    | asked => exact .refl d
    | started _ hs => exact absurd hs hi
    | stored hs => exact absurd hs hr
    | aborted hs => exact ⟨.inr ⟨hs, rfl⟩, rfl⟩
  exact ⟨hu, hu.machine.coherent hm.1⟩

@[simp] lemma sayLabel_macros (e : Engine) : e.sayLabel.macros = e.macros := rfl

@[simp] lemma sayMacro_macros (e : Engine) (t : Text) : (e.sayMacro t).macros = e.macros := rfl

@[simp] lemma reportMode_macros (e : Engine) (m : Mode) : (e.reportMode m).macros = e.macros := by
  unfold reportMode
  split <;> rfl

lemma setRound_macros (e : Engine) (round rounds : Nat) :
    (e.setRound round rounds).macros =
      { e.macros with machine := e.macros.machine.setRound round rounds } := by
  unfold setRound
  dsimp only
  split <;> rfl

def Unwinds (key : KeyFunction) : Prop :=
  ∀ (e : Engine) (c : Char), e.macros.machine.Replaying → e.macros.Unwound (key e c).1.macros

section playback

variable {h : Host} {key : KeyFunction} (hk : Unwinds key)
include hk

lemma replay_unwound (keys : Text) (e : Engine) (hm : e.macros.machine.Coherent)
    (hp : e.macros.machine.playing ≠ []) : e.macros.Unwound (replay key e keys).1.macros := by
  induction keys generalizing e with
  | nil => exact .refl _
  | cons c cs ih =>
    unfold replay
    by_cases ha : e.macros.machine.aborting = true
    · rw [if_pos ha]
      exact .refl _
    · rw [if_neg ha]
      have hc := hk e c (hm.replaying hp (by simpa using ha))
      refine hc.trans (ih _ (hc.machine.coherent hm) ?_)
      rwa [hc.machine.playing]

lemma playRounds_within {d : Control} (hd : ∀ f, (d.machine.push f).Replaying) (name keys : Text)
    (rounds left : Nat) (e : Engine) (hw : d.Within e.macros) :
    d.Within (playRounds h key name keys rounds e left).macros := by
  -- on the rounds to come: the frame pushed by this playback is on top again after each of them
  induction left generalizing e with
  | zero => exact hw
  | succ left ih =>
    have hs : d.Within (e.setRound (rounds - left) rounds).macros := by
      rw [setRound_macros]
      exact hw.setRound _ _
    have hr := hs.step (replay_unwound hk keys _ (hs.coherent hd).1 (hs.coherent hd).2)
    unfold playRounds
    dsimp only
    split
    · rename_i he
      rwa [he] at hr
    · rename_i he
      rw [he] at hr
      split
      · split
        · exact hr
        · exact hr
      · exact ih _ hr

theorem playWith_unwound (e : Engine) (name : Text) (times : Nat)
    (hm : e.macros.machine.Coherent) : e.macros.Unwound (playWith h key e name times).1.macros := by
  have hb := e.macros.beginPlayback_begins e.interaction name
  unfold playWith
  split
  · exact .refl _
  · generalize e.macros.beginPlayback e.interaction name = r at hb
    cases hb with
    | refused => exact .refl _
    | begun keys last _ ha hd =>
      refine Control.Within.ends (playRounds_within hk (fun f => hm.push ha hd f) name keys times
        times _ ?_) hm ha
      exact ⟨⟨_, .refl _⟩, rfl⟩

lemma settle_unwound {d : Control} (hm : d.machine.Replaying) {x : Engine × Reply}
    (hx : Acts d x.1.macros x.2) : d.Unwound (settle h key x).1.macros := by
  obtain ⟨e, reply⟩ := x
  have hs : d.Unwound e.macros ∧ e.macros.machine.Coherent := hx.unwound hm
  cases reply with
  | handled => exact hs.1
  | play name times => exact hs.1.trans (playWith_unwound hk e name times hs.2)

end playback

lemma record_macros (e : Engine) (was : Bool) (keys : Text) :
    (e.record was keys).macros =
      if was && e.macros.machine.isRecording then e.macros.recordKeys keys else e.macros := by
  unfold record
  split <;> rfl

lemma keyWith_unwinds (h : Host) {inner : KeyFunction} (hk : Unwinds inner) :
    Unwinds (keyWith h inner) := by
  intro e c hm
  have hs := settle_unwound (h := h) hk hm (stroke_acts e h c)
  -- a replayed key is not recorded, since the stack is not empty even after an abort
  have hp : (settle h inner (e.stroke h c)).1.macros.machine.playing ≠ [] := by
    rw [hs.machine.playing]
    exact hm.going.1
  unfold keyWith
  rw [reportMode_macros, record_macros, Control.recordKeys, Machine.foldl_recordKey_of_playing hp]
  split <;> exact hs

lemma still_unwinds : Unwinds fun e _ => (e, false) := fun e _ _ => .refl e.macros

theorem keyAt_unwinds (h : Host) (depth : Nat) : Unwinds (keyAt h depth) := by
  induction depth with
  | zero => exact keyWith_unwinds h still_unwinds
  | succ depth ih => exact keyWith_unwinds h ih

lemma keyAt_eq (h : Host) (depth : Nat) :
    ∃ inner, Unwinds inner ∧ keyAt h depth = keyWith h inner := by
  cases depth with
  | zero => exact ⟨_, still_unwinds, rfl⟩
  | succ depth => exact ⟨_, keyAt_unwinds h depth, rfl⟩

end Engine

namespace Macro.Control

def jot (d : Control) (keys : Text) : Control :=
  if d.machine.isRecording then d.recordKeys keys else d

variable (d : Control) (keys keys' : Text)

@[simp] lemma jot_nil : d.jot [] = d := by
  unfold jot
  split <;> rfl

lemma jot_eq : d.jot keys = { d with machine := (d.jot keys).machine } := by
  unfold jot
  split <;> rfl

@[simp] lemma jot_isRecording : (d.jot keys).machine.isRecording = d.machine.isRecording := by
  unfold jot
  split
  · simp only [Machine.isRecording, recordKeys, (Machine.foldl_recordKey_state _ _).1]
  · rfl

lemma jot_append : (d.jot keys).jot keys' = d.jot (keys ++ keys') := by
  by_cases hr : d.machine.isRecording = true
  · have hr' : (d.recordKeys keys).machine.isRecording = true := by
      rw [← hr, ← d.jot_isRecording keys, jot, if_pos hr]
    simp only [jot, hr, hr', ↓reduceIte]
    simp only [recordKeys, List.foldl_append]
  · simp only [jot, if_neg hr]

lemma jot_machine {d : Control} (hm : d.machine.Resting) :
    (d.jot keys).machine = if d.machine.isRecording then
      { d.machine with recorded := d.machine.recorded ++ keys } else d.machine := by
  unfold jot
  split
  · rename_i hr
    have hs : d.machine.state = .recording := by
      rcases hm.settled.2 with hs | hs
      · simp [Machine.isRecording, hs] at hr
      · exact hs
    exact Machine.foldl_recordKey hs hm.2 keys
  · rfl

end Macro.Control

namespace Engine

variable {e : Engine} {h : Host}

lemma record_eq_jot {d : Macro.Control} (hd : e.macros = d) (keys : Text) :
    e.record d.machine.isRecording keys = { e with macros := d.jot keys } := by
  subst hd
  unfold record Macro.Control.jot
  rw [Bool.and_self]
  split <;> rfl

lemma key_of_handled {c : Char} {e' : Engine} {acted : Bool}
    (hs : e.stroke h c = (e', .handled acted)) (hd : e'.macros = e.macros) :
    e.key h c = (reportMode { e' with macros := e.macros.jot [c] } e.mode, acted) := by
  obtain ⟨inner, -, hk⟩ := keyAt_eq h e.macros.machine.limit
  rw [key, hk, keyWith, hs, ← record_eq_jot hd]
  rfl

end Engine

namespace Macro.Control

inductive Moves (d : Control) (keys : Text) : Control → Prop
  | stayed {d'} (hm : d'.machine = if d.machine.isRecording then
        { d.machine with recorded := d.machine.recorded ++ keys } else d.machine)
      (hr : d'.registry.macros = d.registry.macros) : Moves d keys d'
  | started (name : Text) (hs : d.machine.state = .idle) (hn : isValidName name = true) :
      Moves d keys { d with machine := d.machine.process (.record name) }
  | stored (hs : d.machine.state = .recording) : Moves d keys d.store

end Macro.Control

namespace Engine

open Macro (Control Machine)

lemma settle_moves {h : Host} {key : KeyFunction} (hk : Unwinds key) {d : Control}
    (hm : d.machine.Resting) {x : Engine × Reply} (hx : Acts d x.1.macros x.2) (keys : Text) :
    d.Moves keys ((settle h key x).1.record d.machine.isRecording keys).macros := by
  obtain ⟨e, reply⟩ := x
  have hstay : ∀ e' : Engine, e'.macros.machine = d.machine →
      e'.macros.registry.macros = d.registry.macros →
      d.Moves keys (e'.record d.machine.isRecording keys).macros := by
    intro e' he hr
    rw [← he, record_eq_jot rfl]
    refine .stayed ?_ ((congrArg (·.registry.macros) (e'.macros.jot_eq keys)).trans hr)
    rw [← he]
    exact Control.jot_machine keys (he ▸ hm)
  have hn : ∀ e' : Engine, e'.macros.machine.isRecording = false →
      (e'.record d.machine.isRecording keys).macros = e'.macros := by
    intro e' he
    rw [record_macros, he, Bool.and_false]
    rfl
  generalize hd : e.macros = d' at hx
  -- a playback from outside gives the machine back unchanged: no abort can be left over
  cases hx with
  | kept => exact hstay e (by rw [hd]) (by rw [hd])
  | asked name times =>
    have hp := playWith_unwound (h := h) hk e name times (hd ▸ hm.1)
    exact hstay _ (hd ▸ hp.machine.eq_of_resting (hd ▸ hm)) (hd ▸ hp.macros)
  | started name hs hv =>
    have hr : d.machine.isRecording = false := by simp [Machine.isRecording, hs]
    simp only [settle]
    rw [record_macros, hr, Bool.false_and, if_neg Bool.false_ne_true, hd]
    exact .started name hs hv
  | stored hs =>
    simp only [settle]
    rw [hn e (by rw [hd]; rfl), hd]
    exact .stored hs
  | aborted hs =>
    rcases hm.settled.2 with hi | hi <;> simp [hs] at hi

theorem keyAt_moves {e : Engine} (hm : e.macros.machine.Resting) (h : Host) (depth : Nat)
    (c : Char) : e.macros.Moves [c] (keyAt h depth e c).1.macros := by
  obtain ⟨inner, hi, hk⟩ := keyAt_eq h depth
  rw [hk, keyWith, reportMode_macros]
  exact settle_moves hi hm (stroke_acts e h c) [c]

theorem key_moves {e : Engine} (hm : e.macros.machine.Resting) (h : Host) (c : Char) :
    e.macros.Moves [c] (e.key h c).1.macros :=
  keyAt_moves hm h _ c

theorem runWhole_moves {e : Engine} (hm : e.macros.machine.Resting) (h : Host) (body : Text) :
    ∃ keys, e.macros.Moves keys (e.runWhole h body).1.macros := by
  have hs := settle_moves (h := h) (keyAt_unwinds h e.macros.machine.limit) hm
    (wholeStroke_acts e h body)
  exact ⟨_, by rw [runWhole, reportMode_macros]; exact hs _⟩

theorem playback_macros {e : Engine} (hm : e.macros.machine.Resting) (h : Host) (name : Text)
    (times : Nat) : (e.playback h name times).1.macros.machine = e.macros.machine ∧
      (e.playback h name times).1.macros.registry.macros = e.macros.registry.macros := by
  have hp := playWith_unwound (h := h) (keyAt_unwinds h e.macros.machine.limit) e name times hm.1
  exact ⟨hp.machine.eq_of_resting hm, hp.macros⟩

theorem escape_macros (e : Engine) : e.escape.1.macros = e.macros := by
  have hs := (carries_congruence e.macros e.resolved).clearPending (carries_self e)
  obtain ⟨⟨-, hd, -⟩, -⟩ := (carries_congruence e.macros e.resolved).escapeMode hs
  exact (reportMode_macros ..).trans hd

end Engine

namespace Macro

variable {d d' : Control} {keys : Text}

lemma Machine.Resting.record {m : Machine} (h : m.Resting) (hs : m.state = .idle) (name : Text) :
    (m.process (.record name)).Resting := by
  obtain ⟨hc, hp⟩ := h
  have ha := (hc.idle hs).2
  rw [Machine.process_record hs]
  exact ⟨⟨nofun, fun _ => by simp [hp, ha], nofun, rfl, hc.within, hc.roomy⟩, hp⟩

lemma Control.Moves.playing (h : d.Moves keys d') : d'.machine.playing = d.machine.playing := by
  cases h with
  | stayed hd =>
    rw [hd]
    split <;> rfl
  | started name hs => rw [Machine.process_record hs]
  | stored => rfl

theorem Control.Moves.resting (h : d.Moves keys d') (hm : d.machine.Resting) :
    d'.machine.Resting := by
  cases h with
  | stayed hd =>
    rw [hd]
    split
    · obtain ⟨hc, hp⟩ := hm
      exact ⟨⟨hc.idle, hc.recording, hc.playing, hc.named, hc.within, hc.roomy⟩, hp⟩
    · exact hm
  | started name hs => exact hm.record hs name
  | stored hs =>
    obtain ⟨hc, hp⟩ := hm
    have ha : d.machine.aborting = false := by simpa [hp] using hc.recording hs
    exact ⟨⟨fun _ => ⟨hp, ha⟩, nofun, nofun, rfl, hc.within, hc.roomy⟩, hp⟩

end Macro

end ModalEdit
