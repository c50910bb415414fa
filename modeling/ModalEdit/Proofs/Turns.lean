import ModalEdit.Proofs.CallLog
import ModalEdit.Proofs.InputEffects

/-! The turns of a run: the keys that are handled, typed or replayed, the whole commands and the
escapes. What each turn keeps, the run keeps. -/

namespace ModalEdit

structure Turn where
  host : Host
  engine : Engine
  input : Input

def Turn.after (t : Turn) : Engine := (t.engine.act t.host t.input).1

def Stroke.turn (h : Host) (s : Stroke) : Turn := ⟨h, s.engine, .key s.key⟩

namespace Engine

def opening (e : Engine) (h : Host) : Call → List Turn
  | .command t =>
    if !e.mode.isInsert && isWhole (withoutEnter t) then [⟨h, e, .whole (withoutEnter t)⟩] else []
  | .escape => [⟨h, e, .escape⟩]
  | .key _ => []
  | .playback _ _ => []

def turns (e : Engine) (h : Host) (call : Call) : List Turn :=
  e.opening h call ++ (e.log h call).map (Stroke.turn h)

def after (e : Engine) : List (Host × Call) → Engine
  | [] => e
  | (h, call) :: run => after (e.perform h call).1 run

def runTurns (e : Engine) : List (Host × Call) → List Turn
  | [] => []
  | (h, call) :: run => e.turns h call ++ runTurns (e.perform h call).1 run

lemma turn_host {e : Engine} {h : Host} {call : Call} {t : Turn} (ht : t ∈ e.turns h call) :
    t.host = h := by
  rcases List.mem_append.mp ht with ho | hl
  · cases call with
    | key c => cases ho
    | playback name times => cases ho
    | escape => exact List.mem_singleton.mp ho ▸ rfl
    | command text =>
      simp only [opening] at ho
      split at ho
      · exact List.mem_singleton.mp ho ▸ rfl
      · cases ho
  · obtain ⟨s, -, rfl⟩ := List.mem_map.mp hl
    rfl

lemma runTurn_host {e : Engine} {run : List (Host × Call)} {t : Turn} (ht : t ∈ e.runTurns run) :
    ∃ c ∈ run, t.host = c.1 := by
  induction run generalizing e with
  | nil => cases ht
  | cons c run ih =>
    rcases List.mem_append.mp ht with ht | ht
    · exact ⟨c, List.mem_cons_self, turn_host ht⟩
    · obtain ⟨c', hc, hh⟩ := ih ht
      exact ⟨c', List.mem_cons_of_mem _ hc, hh⟩

lemma turn_goes {e : Engine} {h : Host} {call : Call} {t : Turn} (ht : t ∈ e.turns h call) :
    t.engine.editor.Goes t.host (t.engine.Puts t.host t.input) t.after.editor := by
  refine act_goes fun body hb => ?_
  rcases List.mem_append.mp ht with ho | hl
  · cases call with
    | key c => cases ho
    | playback name times => cases ho
    | escape =>
      obtain rfl := List.mem_singleton.mp ho
      cases hb
    | command text =>
      simp only [opening] at ho
      split at ho
      · rename_i hw
        obtain rfl := List.mem_singleton.mp ho
        simp only [Bool.and_eq_true, Bool.not_eq_true'] at hw
        exact hw.1
      · cases ho
  · obtain ⟨s, -, rfl⟩ := List.mem_map.mp hl
    cases hb

lemma runTurn_goes {e : Engine} {run : List (Host × Call)} {t : Turn} (ht : t ∈ e.runTurns run) :
    t.engine.editor.Goes t.host (t.engine.Puts t.host t.input) t.after.editor := by
  induction run generalizing e with
  | nil => cases ht
  | cons c run ih =>
    obtain ⟨h, call⟩ := c
    rcases List.mem_append.mp ht with ht | ht
    · exact turn_goes ht
    · exact ih ht

section keeps

variable {P : Editor → Prop} {h : Host}

def Keeps (P : Editor → Prop) (h : Host) (key : KeyFunction) (log : KeyLog) : Prop :=
  ∀ e c, (∀ s ∈ log e c, P s.engine.editor → P (s.turn h).after.editor) → P e.editor →
    P (key e c).1.editor ∧ ∀ s ∈ log e c, P s.engine.editor

@[simp] lemma setRound_editor (e : Engine) (round rounds : Nat) :
    (e.setRound round rounds).editor = e.editor := by
  simp only [setRound]
  split <;> rfl

@[simp] lemma reportMode_editor (e : Engine) (before : Mode) :
    (e.reportMode before).editor = e.editor := by
  unfold reportMode
  split <;> rfl

@[simp] lemma record_editor (e : Engine) (was : Bool) (keys : Text) :
    (e.record was keys).editor = e.editor := by
  unfold record
  split <;> rfl

variable {key : KeyFunction} {log : KeyLog} (hk : Keeps P h key log)
include hk

lemma replay_keeps (keys : Text) (e : Engine)
    (ht : ∀ s ∈ replayLog key log e keys, P s.engine.editor → P (s.turn h).after.editor)
    (he : P e.editor) :
    P (replay key e keys).1.editor ∧ ∀ s ∈ replayLog key log e keys, P s.engine.editor := by
  induction keys generalizing e with
  | nil => exact ⟨he, List.forall_mem_nil _⟩
  | cons c cs ih =>
    unfold replayLog at ht ⊢
    unfold replay
    split
    · exact ⟨he, List.forall_mem_nil _⟩
    · rename_i ha
      rw [if_neg ha] at ht
      obtain ⟨hc, hl⟩ := hk e c (fun s hs => ht s (List.mem_append_left _ hs)) he
      obtain ⟨hcs, hls⟩ := ih _ (fun s hs => ht s (List.mem_append_right _ hs)) hc
      exact ⟨hcs, fun s hs => (List.mem_append.mp hs).elim (hl s) (hls s)⟩

lemma playRounds_keeps (name keys : Text) (rounds left : Nat) (e : Engine)
    (ht : ∀ s ∈ playRoundsLog h key log keys rounds e left,
      P s.engine.editor → P (s.turn h).after.editor)
    (he : P e.editor) :
    P (playRounds h key name keys rounds e left).editor ∧
      ∀ s ∈ playRoundsLog h key log keys rounds e left, P s.engine.editor := by
  induction left generalizing e with
  | zero => exact ⟨he, List.forall_mem_nil _⟩
  | succ left ih =>
    unfold playRoundsLog at ht ⊢
    unfold playRounds
    dsimp only at ht ⊢
    obtain ⟨hr, hl⟩ := replay_keeps hk keys (e.setRound (rounds - left) rounds)
      (fun s hs => ht s (List.mem_append_left _ hs)) (by rwa [setRound_editor])
    generalize replay key (e.setRound (rounds - left) rounds) keys = r at ht hr ⊢
    obtain ⟨e', stopped⟩ := r
    cases stopped with
    | true => exact ⟨hr, by simpa using hl⟩
    | false =>
      dsimp only at ht ⊢
      split
      · refine ⟨?_, by simpa using hl⟩
        split <;> exact hr
      · rename_i hs
        rw [if_neg hs] at ht
        obtain ⟨hn, hln⟩ := ih e' (fun s hs => ht s (List.mem_append_right _ hs)) hr
        exact ⟨hn, fun s hs => (List.mem_append.mp hs).elim (hl s) (hln s)⟩

variable (hr : ∀ x y : Editor, P x → P y → P (y.rebound x.bound))
include hr

lemma playWith_keeps (e : Engine) (name : Text) (times : Nat)
    (ht : ∀ s ∈ playLog h key log e name times, P s.engine.editor → P (s.turn h).after.editor)
    (he : P e.editor) :
    P (playWith h key e name times).1.editor ∧
      ∀ s ∈ playLog h key log e name times, P s.engine.editor := by
  unfold playLog at ht ⊢
  unfold playWith
  split
  · exact ⟨he, List.forall_mem_nil _⟩
  · rename_i hn
    rw [if_neg hn] at ht
    generalize e.macros.beginPlayback e.interaction name = r at ht ⊢
    obtain ⟨macros, interaction, - | keys⟩ := r
    · exact ⟨he, List.forall_mem_nil _⟩
    · obtain ⟨hp, hl⟩ := playRounds_keeps hk name keys times times
        (sayLabel { e with macros, interaction, pending := e.pending.clear }) ht he
      exact ⟨hr _ _ he hp, hl⟩

lemma settle_keeps (x : Engine × Reply)
    (ht : ∀ s ∈ settleLog h key log x, P s.engine.editor → P (s.turn h).after.editor)
    (he : P x.1.editor) :
    P (settle h key x).1.editor ∧ ∀ s ∈ settleLog h key log x, P s.engine.editor := by
  obtain ⟨e, acted | ⟨name, times⟩⟩ := x
  · exact ⟨he, List.forall_mem_nil _⟩
  · exact playWith_keeps hk hr e name times ht he

lemma keyWith_keeps : Keeps P h (keyWith h key) (keyLogWith h key log) := by
  intro e c ht he
  have ha : P (e.stroke h c).1.editor := ht ⟨e, c⟩ List.mem_cons_self he
  obtain ⟨hs, hl⟩ := settle_keeps hk hr (e.stroke h c)
    (fun s hs => ht s (List.mem_cons_of_mem _ hs)) ha
  refine ⟨?_, List.forall_mem_cons.mpr ⟨he, hl⟩⟩
  simp only [keyWith, reportMode_editor, record_editor]
  exact hs

omit hk in
lemma keyAt_keeps (depth : Nat) : Keeps P h (keyAt h depth) (logAt h depth) := by
  induction depth with
  | zero => exact keyWith_keeps (fun _ _ _ he => ⟨he, List.forall_mem_nil _⟩) hr
  | succ depth ih => exact keyWith_keeps ih hr

omit hk in
lemma type_keeps (keys : Text) (e : Engine)
    (ht : ∀ s ∈ typeLog h e keys, P s.engine.editor → P (s.turn h).after.editor)
    (he : P e.editor) :
    P (e.type h keys).1.editor ∧ ∀ s ∈ typeLog h e keys, P s.engine.editor := by
  induction keys generalizing e with
  | nil => exact ⟨he, List.forall_mem_nil _⟩
  | cons c cs ih =>
    obtain ⟨hc, hl⟩ := keyAt_keeps hr e.macros.machine.limit e c
      (fun s hs => ht s (List.mem_append_left _ hs)) he
    obtain ⟨hcs, hls⟩ := ih (e.key h c).1 (fun s hs => ht s (List.mem_append_right _ hs)) hc
    rw [type_cons]
    exact ⟨hcs, fun s hs => (List.mem_append.mp hs).elim (hl s) (hls s)⟩

omit hk in
theorem perform_keeps (e : Engine) (call : Call)
    (ht : ∀ t ∈ e.turns h call, P t.engine.editor → P t.after.editor) (he : P e.editor) :
    P (e.perform h call).1.editor ∧ ∀ t ∈ e.turns h call, P t.engine.editor := by
  have hlog : ∀ s ∈ e.log h call, P s.engine.editor → P (s.turn h).after.editor := fun s hs =>
    ht _ (List.mem_append_right _ (List.mem_map_of_mem hs))
  have hturns : (∀ t ∈ e.opening h call, t.engine = e) → (∀ s ∈ e.log h call, P s.engine.editor) →
      ∀ t ∈ e.turns h call, P t.engine.editor := by
    intro ho hl t ht
    rcases List.mem_append.mp ht with ht | ht
    · rw [ho t ht]
      exact he
    · obtain ⟨s, hs, rfl⟩ := List.mem_map.mp ht
      exact hl s hs
  have hk := keyAt_keeps (h := h) hr e.macros.machine.limit
  cases call with
  | key c =>
    obtain ⟨hp, hl⟩ := hk e c hlog he
    exact ⟨hp, hturns (List.forall_mem_nil _) hl⟩
  | playback name times =>
    obtain ⟨hp, hl⟩ := playWith_keeps hk hr e name times hlog he
    exact ⟨hp, hturns (List.forall_mem_nil _) hl⟩
  | escape =>
    refine ⟨?_, hturns (fun t ht => ?_) (List.forall_mem_nil _)⟩
    · have := ht ⟨h, e, .escape⟩ (by simp [turns, opening]) he
      simpa [perform, escape, Turn.after, act, handle] using this
    · exact List.mem_singleton.mp ht ▸ rfl
  | command t =>
    simp only [perform, command]
    simp only [log] at hlog hturns
    split
    · rename_i hw
      rw [if_pos hw] at hlog hturns
      have ho : e.opening h (.command t) = [⟨h, e, .whole (withoutEnter t)⟩] := if_pos hw
      have ha := ht ⟨h, e, .whole (withoutEnter t)⟩ (by simp [turns, ho]) he
      obtain ⟨hp, hl⟩ := settle_keeps hk hr (e.wholeStroke h (withoutEnter t)) hlog ha
      refine ⟨?_, hturns (fun t ht => ?_) hl⟩
      · simpa [runWhole] using hp
      · rw [ho] at ht
        exact List.mem_singleton.mp ht ▸ rfl
    · rename_i hw
      rw [if_neg hw] at hlog hturns
      have ho : e.opening h (.command t) = [] := if_neg hw
      obtain ⟨hp, hl⟩ := type_keeps hr t e hlog he
      exact ⟨hp, hturns (by simp [ho]) hl⟩

omit hk in
theorem run_keeps (run : List (Host × Call)) (e : Engine)
    (ht : ∀ t ∈ e.runTurns run, P t.engine.editor → P t.after.editor) (he : P e.editor) :
    P (e.after run).editor ∧ ∀ t ∈ e.runTurns run, P t.engine.editor := by
  induction run generalizing e with
  | nil => exact ⟨he, List.forall_mem_nil _⟩
  | cons c run ih =>
    obtain ⟨h, call⟩ := c
    obtain ⟨hp, hl⟩ := perform_keeps hr e call (fun t hs => ht t (List.mem_append_left _ hs)) he
    obtain ⟨hr, hlr⟩ := ih _ (fun t hs => ht t (List.mem_append_right _ hs)) hp
    exact ⟨hr, fun t ht => (List.mem_append.mp ht).elim (hl t) (hlr t)⟩

end keeps

end Engine

end ModalEdit
