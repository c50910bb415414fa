import Mathlib.Tactic.Common
import ModalEdit.Macro.Machine

/-! What a playback does to the machine from its first key to its end: a frame is pushed, a stop may
abort it, and the same frame is popped. -/

namespace ModalEdit.Macro.Machine

structure Coherent (m : Machine) : Prop where
  idle : m.state = .idle → m.playing = [] ∧ m.aborting = false
  recording : m.state = .recording → (m.aborting = true ↔ m.playing ≠ [])
  playing : m.isPlaying = true → m.playing ≠ [] ∧ m.aborting = false
  named : m.recording.isSome = m.isRecording
  within : m.depth ≤ m.limit
  roomy : 0 < m.limit

lemma coherent_new (n : Nat) : (new n).Coherent where
  idle _ := ⟨rfl, rfl⟩
  recording h := nomatch h
  playing h := nomatch h
  named := rfl
  within := Nat.zero_le _
  roomy := Nat.lt_of_lt_of_le Nat.one_pos (Nat.le_max_left 1 n)

def Resting (m : Machine) : Prop := m.Coherent ∧ m.playing = []

lemma Resting.settled {m : Machine} (h : m.Resting) :
    m.aborting = false ∧ (m.state = .idle ∨ m.state = .recording) := by
  obtain ⟨hc, hp⟩ := h
  cases hs : m.state with
  | idle => exact ⟨(hc.idle hs).2, .inl rfl⟩
  | recording => exact ⟨by simpa [hp] using hc.recording hs, .inr rfl⟩
  | playing => exact absurd hp (hc.playing (by simp [isPlaying, hs])).1
  | playingWhileRecording => exact absurd hp (hc.playing (by simp [isPlaying, hs])).1

def Replaying (m : Machine) : Prop := m.Coherent ∧ m.isPlaying = true

lemma Coherent.replaying {m : Machine} (h : m.Coherent) (hp : m.playing ≠ [])
    (ha : m.aborting = false) : m.Replaying := by
  refine ⟨h, ?_⟩
  cases hs : m.state with
  | idle => exact absurd (h.idle hs).1 hp
  | recording => exact absurd ((h.recording hs).mpr hp) (by simp [ha])
  | playing => simp [isPlaying, hs]
  | playingWhileRecording => simp [isPlaying, hs]

lemma Replaying.going {m : Machine} (h : m.Replaying) : m.playing ≠ [] ∧ m.aborting = false :=
  h.1.playing h.2

lemma Coherent.resting_or_replaying {m : Machine} (h : m.Coherent) (ha : m.aborting = false) :
    m.Resting ∨ m.Replaying := by
  by_cases hp : m.playing = []
  · exact .inl ⟨h, hp⟩
  · exact .inr (h.replaying hp ha)

def push (m : Machine) (f : Frame) : Machine :=
  { m with state := State.playing m.state, playing := f :: m.playing }

@[simp] lemma push_playing (m : Machine) (f : Frame) : (m.push f).playing = f :: m.playing := rfl

@[simp] lemma push_aborting (m : Machine) (f : Frame) : (m.push f).aborting = m.aborting := rfl

@[simp] lemma push_recording (m : Machine) (f : Frame) : (m.push f).recording = m.recording := rfl

@[simp] lemma setRound_aborting (m : Machine) (round rounds : Nat) :
    (m.setRound round rounds).aborting = m.aborting := by
  unfold setRound
  split <;> rfl

@[simp] lemma setRound_state (m : Machine) (round rounds : Nat) :
    (m.setRound round rounds).state = m.state := by
  unfold setRound
  split <;> rfl

lemma setRound_recording (m : Machine) (round rounds : Nat) :
    (m.setRound round rounds).recording = m.recording := by
  unfold setRound
  split <;> rfl

lemma setRound_limit (m : Machine) (round rounds : Nat) :
    (m.setRound round rounds).limit = m.limit := by
  unfold setRound
  split <;> rfl

lemma recordKey_limit (m : Machine) (c : Char) : (m.recordKey c).limit = m.limit := by
  unfold recordKey
  split <;> rfl

lemma process?_play (m : Machine) (name : Text) :
    m.process? (.play name) =
      if m.aborting || decide (m.limit ≤ m.depth) then none else some (m.push { name }) := by
  obtain ⟨state, recording, recorded, playing, limit, aborting, finished⟩ := m
  cases state <;> rfl

lemma process?_play_eq_some {m m' : Machine} {name : Text}
    (h : m.process? (.play name) = some m') :
    m.aborting = false ∧ m.depth < m.limit ∧ m' = m.push { name } := by
  rw [process?_play] at h
  split at h
  · cases h
  · rename_i hn
    simp only [Bool.or_eq_true, decide_eq_true_eq, not_or, Bool.not_eq_true, Nat.not_le] at hn
    exact ⟨hn.1, hn.2, (Option.some.inj h).symm⟩

lemma isPlaying_push (m : Machine) (f : Frame) : (m.push f).isPlaying = true := by
  cases hs : m.state <;> simp [isPlaying, push, State.playing, hs]

lemma isRecording_push (m : Machine) (f : Frame) : (m.push f).isRecording = m.isRecording := by
  cases hs : m.state <;> simp only [isRecording, push, State.playing, hs] <;> rfl

lemma Coherent.push {m : Machine} (h : m.Coherent) (ha : m.aborting = false)
    (hd : m.depth < m.limit) (f : Frame) : (m.push f).Replaying := by
  have hp := isPlaying_push m f
  have hs : (m.push f).state ≠ .idle ∧ (m.push f).state ≠ .recording := by
    constructor <;> intro hs <;> simp [isPlaying, hs] at hp
  exact ⟨⟨fun hi => absurd hi hs.1, fun hr => absurd hr hs.2, fun _ => ⟨by simp, ha⟩,
    by rw [isRecording_push]; exact h.named, hd, h.roomy⟩, hp⟩

def abort (m : Machine) : Machine := { m with state := .recording, aborting := true }

@[simp] lemma abort_aborting (m : Machine) : m.abort.aborting = true := rfl

@[simp] lemma abort_playing (m : Machine) : m.abort.playing = m.playing := rfl

@[simp] lemma abort_recording (m : Machine) : m.abort.recording = m.recording := rfl

lemma process_record {m : Machine} (h : m.state = .idle) (name : Text) :
    m.process (.record name) =
      { m with state := .recording, recording := some name, recorded := [] } := by
  simp [process, process?, h]

lemma process_stop {m : Machine} (h : m.state = .playingWhileRecording) :
    m.process .stop = m.abort := by
  simp [process, process?, h, abort]

lemma process_done_aborting {m : Machine} (h : m.playing.tail ≠ []) :
    (m.process .done).aborting = m.aborting := by
  obtain ⟨state, recording, recorded, playing, limit, aborting, finished⟩ := m
  have hp : playing ≠ [] := fun hp => h (by simp [hp])
  have ht : playing.tail.isEmpty = false := by simpa using h
  cases state <;> simp [process, process?, popFrame, hp, ht]

def Returns (m m' : Machine) : Prop :=
  m' = m ∨ m.state = .playingWhileRecording ∧ m' = m.abort

namespace Returns

variable {m m' : Machine}

protected lemma refl (m : Machine) : Returns m m := .inl rfl

lemma playing (h : Returns m m') : m'.playing = m.playing := by
  rcases h with rfl | ⟨-, rfl⟩ <;> rfl

lemma limit (h : Returns m m') : m'.limit = m.limit := by
  rcases h with rfl | ⟨-, rfl⟩ <;> rfl

lemma coherent (h : Returns m m') (hm : m.Coherent) : m'.Coherent := by
  rcases h with rfl | ⟨hs, rfl⟩
  · exact hm
  · have hp := (hm.playing (by simp [isPlaying, hs])).1
    refine ⟨nofun, fun _ => by simpa using hp, nofun, ?_, hm.within, hm.roomy⟩
    rw [abort_recording, hm.named]
    simp [isRecording, abort, hs]

lemma trans {m'' : Machine} (h : Returns m m') (h' : Returns m' m'') : Returns m m'' := by
  rcases h with rfl | ⟨hs, rfl⟩
  · exact h'
  · rcases h' with rfl | ⟨ha, -⟩
    · exact .inr ⟨hs, rfl⟩
    · cases ha

lemma setRound {f : Frame} (h : Returns (m.push f) m') (round rounds : Nat) :
    Returns (m.push { f with round, rounds }) (m'.setRound round rounds) := by
  rcases h with rfl | ⟨hs, rfl⟩
  · exact .inl rfl
  · exact .inr ⟨hs, rfl⟩

lemma done {f : Frame} (h : Returns (m.push f) m') (hm : m.Coherent) (ha : m.aborting = false) :
    Returns m (m'.process .done) := by
  rcases hm.resting_or_replaying ha with hr | hr
  · left
    obtain ⟨state, recording, recorded, playing, limit, aborting, finished⟩ := m
    obtain hs : state = .idle ∨ state = .recording := hr.settled.2
    obtain rfl : playing = [] := hr.2
    obtain rfl : aborting = false := ha
    obtain rfl | rfl := hs <;> rcases h with rfl | ⟨hp, rfl⟩
    · rfl
    · exact absurd hp nofun
    · rfl
    · rfl
  · obtain ⟨state, recording, recorded, playing, limit, aborting, finished⟩ := m
    obtain ⟨hp, ha⟩ : playing ≠ [] ∧ aborting = false := hr.going
    subst ha
    have hs := hr.2
    simp only [isPlaying, Bool.or_eq_true, beq_iff_eq] at hs
    obtain rfl | rfl := hs <;> rcases h with rfl | ⟨hs, rfl⟩
    · left; simp [push, State.playing, process, process?, popFrame, hp]
    · exact absurd hs nofun
    · left; simp [push, State.playing, process, process?, popFrame, hp]
    · right; simp [push, State.playing, process, process?, popFrame, abort, hp]

lemma eq_of_resting (h : Returns m m') (hm : m.Resting) : m' = m := by
  rcases h with rfl | ⟨hs, -⟩
  · rfl
  · rcases hm.settled.2 with hi | hi <;> simp [hi] at hs

end Returns

lemma recordKey_of_playing {m : Machine} (hp : m.playing ≠ []) (c : Char) : m.recordKey c = m := by
  simp [recordKey, hp]

lemma foldl_recordKey_of_playing {m : Machine} (hp : m.playing ≠ []) (keys : Text) :
    keys.foldl recordKey m = m := by
  induction keys with
  | nil => rfl
  | cons c cs ih => rw [List.foldl_cons, recordKey_of_playing hp, ih]

lemma foldl_recordKey_state (m : Machine) (keys : Text) :
    (keys.foldl recordKey m).state = m.state ∧
      (keys.foldl recordKey m).recording = m.recording := by
  induction keys generalizing m with
  | nil => exact ⟨rfl, rfl⟩
  | cons c cs ih =>
    have hc : (m.recordKey c).state = m.state ∧ (m.recordKey c).recording = m.recording := by
      unfold recordKey
      split <;> exact ⟨rfl, rfl⟩
    rw [List.foldl_cons, (ih _).1, (ih _).2]
    exact hc

lemma foldl_recordKey {m : Machine} (hs : m.state = .recording) (hp : m.playing = [])
    (keys : Text) : keys.foldl recordKey m = { m with recorded := m.recorded ++ keys } := by
  induction keys generalizing m with
  | nil => simp
  | cons c cs ih =>
    have hc : m.recordKey c = { m with recorded := m.recorded ++ [c] } := by
      simp [recordKey, hs, hp]
    have hcs := ih (m := { m with recorded := m.recorded ++ [c] }) hs hp
    rw [List.foldl_cons, hc, hcs]
    simp

end ModalEdit.Macro.Machine
