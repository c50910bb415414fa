import Mathlib.Data.List.Chain
import ModalEdit.Proofs.Reachable

/-! The keys that a call leads to, typed and replayed ones, in the order in which they are
handled. -/

namespace ModalEdit

structure Stroke where
  engine : Engine
  key : Char

def Stroke.Ready (s : Stroke) : Prop :=
  s.engine.macros.machine.Resting ∨ s.engine.macros.machine.Replaying

def Stroke.Aborts (s : Stroke) (h : Host) : Prop :=
  (s.engine.stroke h s.key).1.macros.machine.aborting = true

namespace Engine

open Macro (Control Machine)

abbrev KeyLog := Engine → Char → List Stroke

def replayLog (key : KeyFunction) (log : KeyLog) (e : Engine) : Text → List Stroke
  | [] => []
  | c :: cs =>
    if e.macros.machine.aborting then [] else log e c ++ replayLog key log (key e c).1 cs

def playRoundsLog (h : Host) (key : KeyFunction) (log : KeyLog) (keys : Text) (rounds : Nat)
    (e : Engine) : (left : Nat) → List Stroke
  | 0 => []
  | left + 1 =>
    let e := e.setRound (rounds - left) rounds
    let bound := e.pending.surface
    replayLog key log e keys ++
      match replay key e keys with
      | (_, true) => []
      | (e, false) =>
        if e.pending.surface ≠ bound ∧ h.onSwitch = .abort then []
        else playRoundsLog h key log keys rounds e left

def playLog (h : Host) (key : KeyFunction) (log : KeyLog) (e : Engine) (name : Text)
    (times : Nat) : List Stroke :=
  if times = 0 then []
  else
    match e.macros.beginPlayback e.interaction name with
    | (_, _, none) => []
    | (macros, interaction, some keys) =>
      playRoundsLog h key log keys times
        { e with macros, interaction, pending := e.pending.clear }.sayLabel times

def settleLog (h : Host) (key : KeyFunction) (log : KeyLog) : Engine × Reply → List Stroke
  | (_, .handled _) => []
  | (e, .play name times) => playLog h key log e name times

def keyLogWith (h : Host) (inner : KeyFunction) (log : KeyLog) : KeyLog := fun e c =>
  ⟨e, c⟩ :: settleLog h inner log (e.stroke h c)

def logAt (h : Host) : (depth : Nat) → KeyLog
  | 0 => keyLogWith h (fun e _ => (e, false)) fun _ _ => []
  | depth + 1 => keyLogWith h (keyAt h depth) (logAt h depth)

def keyLog (e : Engine) (h : Host) (c : Char) : List Stroke := logAt h e.macros.machine.limit e c

def typeLog (h : Host) : Engine → Text → List Stroke
  | _, [] => []
  | e, c :: cs => e.keyLog h c ++ typeLog h (e.key h c).1 cs

def log (e : Engine) (h : Host) : Call → List Stroke
  | .key c => e.keyLog h c
  | .command t =>
    if !e.mode.isInsert && isWhole (withoutEnter t) then
      settleLog h (keyAt h e.macros.machine.limit) (logAt h e.macros.machine.limit)
        (e.wholeStroke h (withoutEnter t))
    else e.typeLog h t
  | .playback name times =>
    playLog h (keyAt h e.macros.machine.limit) (logAt h e.macros.machine.limit) e name times
  | .escape => []

structure Orderly (h : Host) (after : Engine) (log : List Stroke) : Prop where
  replaying : ∀ s ∈ log, s.engine.macros.machine.Replaying
  last : ∀ s ∈ log.dropLast, ¬s.Aborts h
  going : after.macros.machine.aborting = false → ∀ s ∈ log, ¬s.Aborts h

namespace Orderly

variable {h : Host} {e e' : Engine} {l l' : List Stroke}

protected lemma nil (h : Host) (e : Engine) : Orderly h e [] := by
  constructor <;> simp

lemma single {s : Stroke} (hs : s.engine.macros.machine.Replaying)
    (ha : e.macros.machine.aborting = false → ¬s.Aborts h) : Orderly h e [s] := by
  constructor
  · intro t ht
    rwa [List.mem_singleton.mp ht]
  · simp
  · intro hn t ht
    rw [List.mem_singleton.mp ht]
    exact ha hn

lemma cons {s : Stroke} (hs : s.engine.macros.machine.Replaying) (ha : ¬s.Aborts h)
    (hl : Orderly h e l) : Orderly h e (s :: l) := by
  refine ⟨List.forall_mem_cons.mpr ⟨hs, hl.replaying⟩, ?_, fun hn =>
    List.forall_mem_cons.mpr ⟨ha, hl.going hn⟩⟩
  cases l with
  | nil => simp
  | cons t ts => exact List.forall_mem_cons.mpr ⟨ha, hl.last⟩

lemma of_aborting (hl : Orderly h e l)
    (ha : e'.macros.machine.aborting = e.macros.machine.aborting) : Orderly h e' l :=
  ⟨hl.replaying, hl.last, fun hn => hl.going (ha ▸ hn)⟩

lemma append (hl : Orderly h e l) (hl' : Orderly h e' l')
    (ha : e.macros.machine.aborting = true → l' = [] ∧ e'.macros.machine.aborting = true) :
    Orderly h e' (l ++ l') := by
  cases hg : e.macros.machine.aborting with
  | true =>
    obtain ⟨rfl, ha'⟩ := ha hg
    rw [List.append_nil]
    exact ⟨hl.replaying, hl.last, fun hn => absurd (ha'.symm.trans hn) nofun⟩
  | false =>
    -- no key of `l` has aborted, so its last one need not be the last of all
    refine ⟨fun s hs => ?_, fun s hs => ?_, fun hn s hs => ?_⟩
    · exact (List.mem_append.mp hs).elim (hl.replaying s) (hl'.replaying s)
    · cases l' with
      | nil =>
        rw [List.append_nil] at hs
        exact hl.last s hs
      | cons t ts =>
        rw [List.dropLast_append_of_ne_nil (by simp)] at hs
        exact (List.mem_append.mp hs).elim (hl.going hg s) (hl'.last s)
    · exact (List.mem_append.mp hs).elim (hl.going hg s) (hl'.going hn s)

end Orderly

structure Logs (h : Host) (key : KeyFunction) (log : KeyLog) : Prop where
  unwinds : Unwinds key
  orderly : ∀ (e : Engine) (c : Char), e.macros.machine.Replaying →
    Orderly h (key e c).1 (log e c)

section playback

variable {h : Host} {key : KeyFunction} {log : KeyLog}

variable (key log) in
lemma replay_aborting {e : Engine} (ha : e.macros.machine.aborting = true) (keys : Text) :
    (replay key e keys).1 = e ∧ replayLog key log e keys = [] := by
  cases keys with
  | nil => exact ⟨rfl, rfl⟩
  | cons c cs => simp [replay, replayLog, ha]

lemma setRound_aborting (e : Engine) (round rounds : Nat) :
    (e.setRound round rounds).macros.machine.aborting = e.macros.machine.aborting := by
  rw [setRound_macros]
  exact Machine.setRound_aborting _ _ _

lemma playRounds_aborting (name keys : Text) (rounds left : Nat) {e : Engine}
    (ha : e.macros.machine.aborting = true) :
    playRoundsLog h key log keys rounds e left = [] ∧
      (playRounds h key name keys rounds e left).macros.machine.aborting = true := by
  induction left generalizing e with
  | zero => exact ⟨rfl, ha⟩
  | succ left ih =>
    have hs : (e.setRound (rounds - left) rounds).macros.machine.aborting = true := by
      rwa [setRound_aborting]
    obtain ⟨hr, hl⟩ := replay_aborting key log hs keys
    unfold playRounds playRoundsLog
    dsimp only
    rw [hl, List.nil_append]
    generalize replay key (e.setRound (rounds - left) rounds) keys = r at hr
    obtain ⟨e', stopped⟩ := r
    obtain rfl : e' = _ := hr
    cases stopped with
    | true => exact ⟨rfl, hs⟩
    | false =>
      dsimp only
      split
      · refine ⟨rfl, ?_⟩
        split <;> exact hs
      · exact ih hs

variable (hk : Logs h key log)
include hk

lemma replayLog_orderly (keys : Text) (e : Engine) (hm : e.macros.machine.Coherent)
    (hp : e.macros.machine.playing ≠ []) :
    Orderly h (replay key e keys).1 (replayLog key log e keys) := by
  induction keys generalizing e with
  | nil => exact .nil h e
  | cons c cs ih =>
    by_cases ha : e.macros.machine.aborting = true
    · obtain ⟨hr, hl⟩ := replay_aborting key log ha (c :: cs)
      rw [hr, hl]
      exact .nil h e
    · unfold replay replayLog
      rw [if_neg ha, if_neg ha]
      have hr := hm.replaying hp (by simpa using ha)
      have hc := hk.unwinds e c hr
      have hcs := ih _ (hc.machine.coherent hm) (by rwa [hc.machine.playing])
      refine (hk.orderly e c hr).append hcs fun ha' => ?_
      obtain ⟨hr, hl⟩ := replay_aborting key log ha' cs
      exact ⟨hl, (congrArg (·.macros.machine.aborting) hr).trans ha'⟩

lemma playRoundsLog_orderly {d : Control} (hd : ∀ f, (d.machine.push f).Replaying)
    (name keys : Text) (rounds left : Nat) (e : Engine) (hw : d.Within e.macros) :
    Orderly h (playRounds h key name keys rounds e left)
      (playRoundsLog h key log keys rounds e left) := by
  induction left generalizing e with
  | zero => exact .nil h e
  | succ left ih =>
    have hs : d.Within (e.setRound (rounds - left) rounds).macros := by
      rw [setRound_macros]
      exact hw.setRound _ _
    have hc := hs.coherent hd
    have hr := hs.step (replay_unwound hk.unwinds keys _ hc.1 hc.2)
    have hl := replayLog_orderly hk keys _ hc.1 hc.2
    unfold playRounds playRoundsLog
    dsimp only
    generalize replay key (e.setRound (rounds - left) rounds) keys = r at hr hl
    obtain ⟨e', stopped⟩ := r
    cases stopped with
    | true => exact List.append_nil _ ▸ hl
    | false =>
      dsimp only
      split
      · rw [List.append_nil]
        split
        · exact hl
        · exact ⟨hl.replaying, hl.last, hl.going⟩
      · exact hl.append (ih _ hr) (playRounds_aborting name keys rounds left)

lemma playLog_orderly (e : Engine) (name : Text) (times : Nat) (hm : e.macros.machine.Coherent) :
    ∃ e', Orderly h e' (playLog h key log e name times) ∧
      (e.macros.machine.playing ≠ [] →
        (playWith h key e name times).1.macros.machine.aborting = e'.macros.machine.aborting) := by
  have hb := e.macros.beginPlayback_begins e.interaction name
  unfold playWith playLog
  by_cases ht : times = 0
  · rw [if_pos ht, if_pos ht]
    exact ⟨e, .nil h e, fun _ => rfl⟩
  · rw [if_neg ht, if_neg ht]
    generalize e.macros.beginPlayback e.interaction name = r at hb
    cases hb with
    | refused => exact ⟨e, .nil h e, fun _ => rfl⟩
    | begun keys last _ ha hd =>
      have hp := fun f => hm.push ha hd f
      let start : Engine := Engine.sayLabel
        { e with
          macros := { e.macros with
            machine := e.macros.machine.push { name }
            registry := { e.macros.registry with last } }
          pending := e.pending.clear }
      have hw : e.macros.Within start.macros := ⟨⟨_, .refl _⟩, rfl⟩
      refine ⟨playRounds h key name keys times start times,
        playRoundsLog_orderly hk hp name keys times times start hw, fun hn => ?_⟩
      -- popping a frame keeps the abort for the playback below, if there is one
      obtain ⟨f, hf⟩ := (playRounds_within (h := h) hk.unwinds hp name keys times times start
        hw).frame
      refine Machine.process_done_aborting ?_
      rw [hf.playing]
      exact hn

lemma keyLogWith_logs : Logs h (keyWith h key) (keyLogWith h key log) := by
  refine ⟨keyWith_unwinds h hk.unwinds, fun e c hm => ?_⟩
  have hx := stroke_acts e h c
  have hs := settle_unwound (h := h) hk.unwinds hm hx
  have hd : (keyWith h key e c).1.macros = (settle h key (e.stroke h c)).1.macros := by
    rw [keyWith, reportMode_macros, record_macros, Control.recordKeys,
      Machine.foldl_recordKey_of_playing (by rw [hs.machine.playing]; exact hm.going.1)]
    split <;> rfl
  unfold keyLogWith
  generalize he : e.stroke h c = x at hx hs hd
  obtain ⟨after, reply⟩ := x
  have hab : (Stroke.mk e c).Aborts h ↔ after.macros.machine.aborting = true := by
    unfold Stroke.Aborts
    rw [he]
  cases reply with
  | handled acted =>
    refine .single hm fun hg => ?_
    have hd : (keyWith h key e c).1.macros = after.macros := hd
    rw [hd] at hg
    rw [hab, hg]
    exact Bool.false_ne_true
  | play name times =>
    have ha : after.macros = e.macros := hx.of_play
    obtain ⟨e', hl, hg⟩ := playLog_orderly hk after name times (ha ▸ hm.1)
    refine .cons hm ?_ (hl.of_aborting ?_)
    · rw [hab, ha, hm.going.2]
      exact Bool.false_ne_true
    · rw [hd]
      exact hg (ha ▸ hm.going.1)

end playback

lemma still_logs (h : Host) : Logs h (fun e _ => (e, false)) fun _ _ => [] :=
  ⟨still_unwinds, fun e _ _ => .nil h e⟩

theorem logAt_logs (h : Host) (depth : Nat) : Logs h (keyAt h depth) (logAt h depth) := by
  induction depth with
  | zero => exact keyLogWith_logs (still_logs h)
  | succ depth ih => exact keyLogWith_logs ih

section typed

variable {h : Host}

lemma settleLog_orderly {key : KeyFunction} {log : KeyLog} (hk : Logs h key log) {d : Control}
    (hm : d.machine.Resting) {x : Engine × Reply} (hx : Acts d x.1.macros x.2) :
    ∃ e', Orderly h e' (settleLog h key log x) := by
  obtain ⟨e, reply⟩ := x
  cases reply with
  | handled => exact ⟨e, .nil h e⟩
  | play name times =>
    have hd : e.macros = d := hx.of_play
    obtain ⟨e', hl, -⟩ := playLog_orderly hk e name times (hd ▸ hm.1)
    exact ⟨e', hl⟩

lemma logAt_typed {e : Engine} (hm : e.macros.machine.Resting) (depth : Nat) (c : Char) :
    ∃ l e', logAt h depth e c = ⟨e, c⟩ :: l ∧ ¬(Stroke.mk e c).Aborts h ∧ Orderly h e' l := by
  have hn : ¬(Stroke.mk e c).Aborts h := by
    unfold Stroke.Aborts
    rw [(stroke_acts e h c).aborting hm]
    exact Bool.false_ne_true
  cases depth with
  | zero =>
    obtain ⟨e', hl⟩ := settleLog_orderly (still_logs h) hm (stroke_acts e h c)
    exact ⟨_, e', rfl, hn, hl⟩
  | succ depth =>
    obtain ⟨e', hl⟩ := settleLog_orderly (logAt_logs h depth) hm (stroke_acts e h c)
    exact ⟨_, e', rfl, hn, hl⟩

def Follows (h : Host) (s t : Stroke) : Prop :=
  s.Aborts h → t.engine.macros.machine.playing = []

lemma isChain_of_last {l : List Stroke} (hl : ∀ s ∈ l.dropLast, ¬s.Aborts h) :
    l.IsChain (Follows h) := by
  induction l with
  | nil => exact .nil
  | cons s l ih =>
    cases l with
    | nil => exact .singleton s
    | cons t ts =>
      have hs := List.forall_mem_cons.mp hl
      exact .cons_cons (fun ha => absurd ha hs.1) (ih hs.2)

lemma keyLog_follows {e : Engine} (hm : e.macros.machine.Resting) (c : Char) :
    (∀ s ∈ e.keyLog h c, s.Ready) ∧
      (e.keyLog h c).IsChain (Follows h) ∧ ∃ l, e.keyLog h c = ⟨e, c⟩ :: l := by
  obtain ⟨l, e', hk, hn, hl⟩ := logAt_typed (h := h) hm e.macros.machine.limit c
  unfold keyLog
  rw [hk]
  refine ⟨?_, isChain_of_last ?_, l, rfl⟩
  · exact List.forall_mem_cons.mpr ⟨.inl hm, fun s hs => .inr (hl.replaying s hs)⟩
  · cases l with
    | nil => simp
    | cons t ts => exact List.forall_mem_cons.mpr ⟨hn, hl.last⟩

lemma typeLog_follows {e : Engine} (he : e.Reachable) (keys : Text) :
    (∀ s ∈ typeLog h e keys, s.Ready) ∧
      (typeLog h e keys).IsChain (Follows h) := by
  induction keys generalizing e with
  | nil => exact ⟨by simp [typeLog], .nil⟩
  | cons c cs ih =>
    obtain ⟨hs, hc, -⟩ := keyLog_follows (h := h) he.resting c
    obtain ⟨hs', hc'⟩ := ih (he.key h c)
    refine ⟨fun s hm => (List.mem_append.mp hm).elim (hs s) (hs' s), ?_⟩
    -- the first key of the next log is a typed one
    refine List.isChain_append.mpr ⟨hc, hc', fun s _ t ht _ => ?_⟩
    cases cs with
    | nil => cases ht
    | cons c' cs =>
      obtain ⟨-, -, l, hl⟩ := keyLog_follows (h := h) (he.key h c).resting c'
      rw [typeLog, hl] at ht
      obtain rfl : _ = t := Option.some.inj ht
      exact (he.key h c).resting.2

end typed

/-- The key or command itself starts and stops no recording: it replays a macro, or the machine
stays as it is. -/
def Spares (e : Engine) (x : Engine × Reply) : Prop :=
  x.2.isPlay = true ∨ x.1.macros.machine = e.macros.machine

def Replays (h : Host) (e : Engine) : Call → Prop
  | .key c => e.Spares (e.stroke h c)
  | .command t =>
    if !e.mode.isInsert && isWhole (withoutEnter t) then
      e.Spares (e.wholeStroke h (withoutEnter t))
    else Along h (fun e c => e.Spares (e.stroke h c)) e t
  | .playback .. => True
  | .escape => True

/-- How a call from outside of any playback nests the playbacks that it leads to. -/
structure Nests (h : Host) (e : Engine) (call : Call) : Prop where
  stack : (e.perform h call).1.macros.machine.playing = e.macros.machine.playing
  depth : (e.perform h call).1.macros.machine.depth = 0
  going : (e.perform h call).1.macros.machine.aborting = false
  settled : (e.perform h call).1.macros.machine.state = .idle ∨
    (e.perform h call).1.macros.machine.state = .recording
  recording : e.macros.machine.state = .recording → Replays h e call →
    (e.perform h call).1.macros.machine.state = .recording ∧
      (e.perform h call).1.macros.machine.recording = e.macros.machine.recording
  keys : ∀ s ∈ e.log h call, ∀ depth,
    (keyAt h depth s.engine s.key).1.macros.machine.playing = s.engine.macros.machine.playing
  playbacks : ∀ s ∈ e.log h call, ∀ depth name times,
    (s.engine.stroke h s.key).2 = .play name times →
      (playWith h (keyAt h depth) (s.engine.stroke h s.key).1 name times).1.macros.machine.playing =
        s.engine.macros.machine.playing
  aborted : (e.log h call).IsChain fun s t =>
    s.Aborts h → t.engine.macros.machine.playing = []
  pending : ∀ (key : KeyFunction) (e : Engine) name times,
    (playWith h key e name times).1.pending = e.pending

section nests

variable {h : Host}

lemma keyAt_playing {s : Stroke} (hs : s.Ready) (depth : Nat) :
    (keyAt h depth s.engine s.key).1.macros.machine.playing = s.engine.macros.machine.playing := by
  rcases hs with hm | hm
  · exact (keyAt_moves hm h depth s.key).playing
  · exact (keyAt_unwinds h depth s.engine s.key hm).machine.playing

lemma playback_playing {s : Stroke} (hs : s.Ready) (depth : Nat) {name : Text} {times : Nat}
    (hp : (s.engine.stroke h s.key).2 = .play name times) :
    (playWith h (keyAt h depth) (s.engine.stroke h s.key).1 name times).1.macros.machine.playing =
      s.engine.macros.machine.playing := by
  have hm : s.engine.macros.machine.Coherent := hs.elim (·.1) (·.1)
  have hx := stroke_acts s.engine h s.key
  rw [hp] at hx
  have hd := hx.of_play
  rw [← hd] at hm ⊢
  exact (playWith_unwound (keyAt_unwinds h depth) _ name times hm).machine.playing

lemma log_follows {e : Engine} (he : e.Reachable) (call : Call) :
    (∀ s ∈ e.log h call, s.Ready) ∧ (e.log h call).IsChain (Follows h) := by
  have hl : ∀ {l : List Stroke} {e' : Engine}, Orderly h e' l →
      (∀ s ∈ l, s.Ready) ∧ l.IsChain (Follows h) := fun hl =>
    ⟨fun s hs => .inr (hl.replaying s hs), isChain_of_last hl.last⟩
  have hk := logAt_logs h e.macros.machine.limit
  cases call with
  | key c => exact ⟨(keyLog_follows he.resting c).1, (keyLog_follows he.resting c).2.1⟩
  | escape => exact ⟨by simp [log], .nil⟩
  | playback name times =>
    obtain ⟨e', hp, -⟩ := playLog_orderly hk e name times he.resting.1
    exact hl hp
  | command t =>
    simp only [log]
    split
    · obtain ⟨e', hp⟩ := settleLog_orderly hk he.resting
        (wholeStroke_acts e h (withoutEnter t))
      exact hl hp
    · exact typeLog_follows he t

lemma settle_machine {key : KeyFunction} (hk : Unwinds key) {e : Engine}
    (hm : e.macros.machine.Resting) {x : Engine × Reply} (hx : Acts e.macros x.1.macros x.2)
    (hs : e.Spares x) : (settle h key x).1.macros.machine = e.macros.machine := by
  obtain ⟨after, reply⟩ := x
  cases reply with
  | handled acted => exact hs.resolve_left nofun
  | play name times =>
    have ha : after.macros = e.macros := hx.of_play
    have hp := playWith_unwound (h := h) hk after name times (ha ▸ hm.1)
    exact (hp.machine.eq_of_resting (ha ▸ hm)).trans (congrArg (·.machine) ha)

lemma settle_spares {key : KeyFunction} (hk : Unwinds key) {e : Engine}
    (hm : e.macros.machine.Resting) {x : Engine × Reply} (hx : Acts e.macros x.1.macros x.2)
    (hs : e.Spares x) (keys : Text) (was : Bool) :
    ((settle h key x).1.record was keys).macros.machine.state = e.macros.machine.state ∧
      ((settle h key x).1.record was keys).macros.machine.recording =
        e.macros.machine.recording := by
  have hd := settle_machine (h := h) hk hm hx hs
  rw [record_macros]
  split
  · obtain ⟨hs, hr⟩ := Machine.foldl_recordKey_state (settle h key x).1.macros.machine keys
    exact ⟨hs.trans (by rw [hd]), hr.trans (by rw [hd])⟩
  · rw [hd]
    exact ⟨rfl, rfl⟩

lemma key_spares {e : Engine} (hm : e.macros.machine.Resting) {c : Char}
    (hs : e.Spares (e.stroke h c)) :
    (e.key h c).1.macros.machine.state = e.macros.machine.state ∧
      (e.key h c).1.macros.machine.recording = e.macros.machine.recording := by
  obtain ⟨inner, hi, hk⟩ := keyAt_eq h e.macros.machine.limit
  rw [key, hk, keyWith, reportMode_macros]
  exact settle_spares hi hm (stroke_acts e h c) hs [c] _

lemma type_spares {e : Engine} (he : e.Reachable) {keys : Text}
    (hs : Along h (fun e c => e.Spares (e.stroke h c)) e keys) :
    (e.type h keys).1.macros.machine.state = e.macros.machine.state ∧
      (e.type h keys).1.macros.machine.recording = e.macros.machine.recording := by
  induction keys generalizing e with
  | nil => exact ⟨rfl, rfl⟩
  | cons c cs ih =>
    obtain ⟨hc, hcs⟩ := hs
    obtain ⟨hk, hk'⟩ := key_spares he.resting hc
    obtain ⟨ht, ht'⟩ := ih (he.key h c) hcs
    rw [type_cons]
    exact ⟨ht.trans hk, ht'.trans hk'⟩

lemma perform_spares {e : Engine} (he : e.Reachable) {call : Call} (hs : Replays h e call) :
    (e.perform h call).1.macros.machine.state = e.macros.machine.state ∧
      (e.perform h call).1.macros.machine.recording = e.macros.machine.recording := by
  cases call with
  | key c => exact key_spares he.resting hs
  | playback name times =>
    have hp := (playback_macros he.resting h name times).1
    exact ⟨congrArg (·.state) hp, congrArg (·.recording) hp⟩
  | escape =>
    have hd := escape_macros e
    exact ⟨congrArg (·.machine.state) hd, congrArg (·.machine.recording) hd⟩
  | command t =>
    simp only [Replays] at hs
    simp only [perform, command]
    split at hs
    · rename_i hw
      rw [if_pos hw, runWhole, reportMode_macros]
      exact settle_spares (keyAt_unwinds h _) he.resting (wholeStroke_acts e h _) hs _ _
    · rename_i hw
      rw [if_neg hw]
      exact type_spares he hs

end nests

theorem Reachable.nests {e : Engine} (he : e.Reachable) (h : Host) (call : Call) :
    Nests h e call := by
  have hr := (he.perform h call).resting
  obtain ⟨hready, hchain⟩ := log_follows (h := h) he call
  constructor
  case stack => rw [hr.2, he.resting.2]
  case depth => exact congrArg List.length hr.2
  case going => exact hr.settled.1
  case settled => exact hr.settled.2
  case recording =>
    intro hs hc
    obtain ⟨hs', hr'⟩ := perform_spares he hc
    exact ⟨hs'.trans hs, hr'⟩
  case keys => exact fun s hs depth => keyAt_playing (hready s hs) depth
  case playbacks => exact fun s hs depth name times hp => playback_playing (hready s hs) depth hp
  case aborted => exact hchain
  case pending => exact fun key e name times => playWith_pending h key e name times

theorem sample_nests_aborted :
    let e := ((sample "abc" [("b", "iy\x1bqiz\x1b")]).type {} "qa@".toList).1
    e.macros.machine.state = .recording ∧
      (e.log {} (.key 'b')).map (·.key) = "biy\x1bq".toList ∧ Nests {} e (.key 'b') :=
  ⟨by decide +kernel, by decide +kernel,
    Reachable.nests ((sample_reachable _ _).type {} _) {} (.key 'b')⟩

section complete

variable {h : Host} {key key' : KeyFunction} {log : KeyLog}
  (hl : ∀ (e : Engine) (c : Char), ⟨e, c⟩ ∈ log e c)
include hl

lemma replay_eq_of_log (keys : Text) (e : Engine)
    (hk : ∀ s ∈ replayLog key log e keys, key s.engine s.key = key' s.engine s.key) :
    replay key e keys = replay key' e keys := by
  induction keys generalizing e with
  | nil => rfl
  | cons c cs ih =>
    unfold replayLog at hk
    unfold replay
    split
    · rfl
    · rename_i ha
      rw [if_neg ha] at hk
      have hc := hk ⟨e, c⟩ (List.mem_append_left _ (hl e c))
      rw [← hc]
      exact ih _ fun s hs => hk s (List.mem_append_right _ hs)

lemma playRounds_eq_of_log (name keys : Text) (rounds left : Nat) (e : Engine)
    (hk : ∀ s ∈ playRoundsLog h key log keys rounds e left,
      key s.engine s.key = key' s.engine s.key) :
    playRounds h key name keys rounds e left = playRounds h key' name keys rounds e left := by
  induction left generalizing e with
  | zero => rfl
  | succ left ih =>
    unfold playRoundsLog at hk
    unfold playRounds
    dsimp only at hk ⊢
    rw [← replay_eq_of_log hl keys _ fun s hs => hk s (List.mem_append_left _ hs)]
    generalize replay key (e.setRound (rounds - left) rounds) keys = r at hk
    obtain ⟨e', stopped⟩ := r
    cases stopped with
    | true => rfl
    | false =>
      dsimp only at hk ⊢
      split
      · rfl
      · rename_i hp
        rw [if_neg hp] at hk
        exact ih _ fun s hs => hk s (List.mem_append_right _ hs)

/-- A playback handles no key but those in its log. -/
theorem playWith_eq_of_log (name : Text) (times : Nat) (e : Engine)
    (hk : ∀ s ∈ playLog h key log e name times, key s.engine s.key = key' s.engine s.key) :
    playWith h key e name times = playWith h key' e name times := by
  unfold playLog at hk
  unfold playWith
  split
  · rfl
  · rename_i ht
    rw [if_neg ht] at hk
    generalize e.macros.beginPlayback e.interaction name = r at hk
    obtain ⟨d, i, keys⟩ := r
    cases keys with
    | none => rfl
    | some keys =>
      dsimp only at hk ⊢
      rw [playRounds_eq_of_log hl name keys times times _ hk]

end complete

end Engine

end ModalEdit
