import ModalEdit.Proofs.Machine

/-! The machine when its events come in any order. One of them is not waited for: a stop that comes
while an aborted playback is still unwound ends the recording before the last frame is gone. -/

namespace ModalEdit.Macro

def Machine.State.left : State → State
  | .playing => .idle
  | .playingWhileRecording => .recording
  | s => s

namespace Machine

inductive Move where
  | event (e : Event)
  | key (c : Char)
  | round (round rounds : Nat)
  | takeFinished

def move (m : Machine) : Move → Machine
  | .event e => m.process e
  | .key c => m.recordKey c
  | .round round rounds => m.setRound round rounds
  | .takeFinished => { m with finished := none }

def run (m : Machine) (moves : List Move) : Machine := moves.foldl move m

/-- An aborted playback has frames left, and the recording goes on. -/
def Unwinding (m : Machine) : Prop := m.state = .recording ∧ m.playing ≠ []

inductive Reacts (m : Machine) : Event → Machine → Prop
  | record (name : Text) (hs : m.state = .idle) :
      Reacts m (.record name) { m with state := .recording, recording := some name, recorded := [] }
  | store (hs : m.state = .recording) :
      Reacts m .stop
        { m with
          state := .idle, recording := none, recorded := []
          finished := some (m.recording.getD [], m.recorded) }
  | abort (hs : m.state = .playingWhileRecording) : Reacts m .stop m.abort
  | play (name : Text) (ha : m.aborting = false) (hd : m.depth < m.limit) :
      Reacts m (.play name) (m.push { name })
  | pop (hp : m.isPlaying = true) :
      Reacts m .done
        { m.popFrame with state := if m.playing.tail = [] then State.left m.state else m.state }
  | unwind (h : m.Unwinding) : Reacts m .done m.popFrame

variable {m m' : Machine} {e : Event}

lemma process?_reacts (h : m.process? e = some m') : m.Reacts e m' := by
  cases e with
  | play name =>
    obtain ⟨ha, hd, rfl⟩ := process?_play_eq_some h
    exact .play name ha hd
  | record name =>
    cases hs : m.state <;> simp only [process?, hs, Option.some.injEq, reduceCtorEq] at h
    exact h ▸ .record name hs
  | stop =>
    cases hs : m.state <;> simp only [process?, hs, Option.some.injEq, reduceCtorEq] at h
    · exact h ▸ .store hs
    · exact h ▸ .abort hs
  | done =>
    cases hs : m.state <;> simp only [process?, hs, Option.some.injEq, reduceCtorEq] at h
    · split at h
      · cases h
      · rename_i hp
        exact Option.some.inj h ▸ .unwind ⟨hs, hp⟩
    · have hr := Reacts.pop (m := m) (by simp [isPlaying, hs])
      rw [hs] at hr
      exact h ▸ hr
    · have hr := Reacts.pop (m := m) (by simp [isPlaying, hs])
      rw [hs] at hr
      exact h ▸ hr

lemma process_cases (m : Machine) (e : Event) : m.process e = m ∨ m.Reacts e (m.process e) := by
  cases h : m.process? e with
  | none => exact .inl (by rw [process, h, Option.getD_none])
  | some m' => exact .inr (by rw [process, h]; exact process?_reacts h)

structure Ordered (m : Machine) : Prop where
  resting : m.isPlaying = false → (m.aborting = true ↔ m.playing ≠ [])
  playing : m.isPlaying = true → m.playing ≠ [] ∧ m.aborting = false
  named : m.recording.isSome = m.isRecording
  within : m.depth ≤ m.limit
  roomy : 0 < m.limit

lemma ordered_new (n : Nat) : (new n).Ordered where
  resting _ := by simp [new]
  playing h := nomatch h
  named := rfl
  within := Nat.zero_le _
  roomy := Nat.lt_of_lt_of_le Nat.one_pos (Nat.le_max_left 1 n)

lemma popFrame_aborting (m : Machine) :
    m.popFrame.aborting = true ↔ m.aborting = true ∧ m.playing.tail ≠ [] := by
  simp [popFrame]

namespace Ordered

lemma record (h : m.Ordered) (hs : m.state = .idle) (name : Text) :
    Ordered { m with state := .recording, recording := some name, recorded := [] } :=
  ⟨fun _ => h.resting (by simp [isPlaying, hs]), nofun, rfl, h.within, h.roomy⟩

lemma store (h : m.Ordered) (hs : m.state = .recording) (finished : Option (Text × Text)) :
    Ordered { m with state := .idle, recording := none, recorded := [], finished } :=
  ⟨fun _ => h.resting (by simp [isPlaying, hs]), nofun, rfl, h.within, h.roomy⟩

lemma abort (h : m.Ordered) (hs : m.state = .playingWhileRecording) : m.abort.Ordered := by
  obtain ⟨hp, -⟩ := h.playing (by simp [isPlaying, hs])
  refine ⟨fun _ => by simpa using hp, by simp [isPlaying, Machine.abort], ?_, h.within, h.roomy⟩
  rw [abort_recording, h.named]
  simp [isRecording, Machine.abort, hs]

lemma push (h : m.Ordered) (ha : m.aborting = false) (hd : m.depth < m.limit) (f : Frame) :
    (m.push f).Ordered := by
  have hp : (m.push f).isPlaying = true := isPlaying_push m f
  refine ⟨fun hn => absurd hp (by simp [hn]), fun _ => ⟨by simp, ha⟩, ?_, hd, h.roomy⟩
  rw [isRecording_push, push_recording]
  exact h.named

lemma pop (h : m.Ordered) (hp : m.isPlaying = true) :
    Ordered { m.popFrame with
      state := if m.playing.tail = [] then State.left m.state else m.state } := by
  have ha : m.popFrame.aborting = false := by
    rw [← Bool.not_eq_true, popFrame_aborting, (h.playing hp).2]
    simp
  have hn : m.recording.isSome = m.isRecording := h.named
  have hw : m.playing.tail.length ≤ m.limit := by
    have := h.within
    rw [List.length_tail]
    exact Nat.le_trans (Nat.sub_le _ _) this
  simp only [isPlaying, Bool.or_eq_true, beq_iff_eq] at hp
  by_cases ht : m.playing.tail = []
  · rw [if_pos ht]
    refine ⟨fun _ => ?_, ?_, ?_, hw, h.roomy⟩
    · rw [ha]
      simp [popFrame, ht]
    · rcases hp with hs | hs <;> simp [isPlaying, hs, State.left]
    · refine hn.trans ?_
      rcases hp with hs | hs <;> rw [isRecording, isRecording, hs] <;> rfl
  · rw [if_neg ht]
    refine ⟨?_, fun _ => ⟨ht, ha⟩, hn, hw, h.roomy⟩
    rcases hp with hs | hs <;> simp [isPlaying, hs]

lemma unwind (h : m.Ordered) (hu : m.Unwinding) : m.popFrame.Ordered := by
  have ha : m.aborting = true := (h.resting (by simp [isPlaying, hu.1])).mpr hu.2
  have hs : m.popFrame.isPlaying = false := by simp [isPlaying, popFrame, hu.1]
  refine ⟨fun _ => ?_, fun hp => absurd hp (by simp [hs]), h.named, ?_, h.roomy⟩
  · rw [popFrame_aborting, ha]
    simp [popFrame]
  · have := h.within
    simp only [depth, popFrame, List.length_tail] at this ⊢
    omega

lemma reacts (h : m.Ordered) (hr : m.Reacts e m') : m'.Ordered := by
  cases hr with
  | record name hs => exact h.record hs name
  | store hs => exact h.store hs _
  | abort hs => exact h.abort hs
  | play name ha hd => exact h.push ha hd _
  | pop hp => exact h.pop hp
  | unwind hu => exact h.unwind hu

lemma process (h : m.Ordered) (e : Event) : (m.process e).Ordered := by
  rcases process_cases m e with he | hr
  · rw [he]
    exact h
  · exact h.reacts hr

lemma recordKey (h : m.Ordered) (c : Char) : (m.recordKey c).Ordered := by
  simp only [Machine.recordKey]
  split
  · exact ⟨h.resting, h.playing, h.named, h.within, h.roomy⟩
  · exact h

lemma setRound (h : m.Ordered) (round rounds : Nat) : (m.setRound round rounds).Ordered := by
  simp only [Machine.setRound]
  split
  · exact h
  · rename_i f fs hf
    have hw := h.within
    rw [depth, hf] at hw
    have hr := h.resting
    have hp := h.playing
    rw [hf] at hr hp
    exact ⟨fun hn => by simpa using hr hn, fun hn => by simpa using hp hn, h.named, hw, h.roomy⟩

lemma move (h : m.Ordered) (x : Move) : (m.move x).Ordered := by
  cases x with
  | event e => exact h.process e
  | key c => exact h.recordKey c
  | round round rounds => exact h.setRound round rounds
  | takeFinished => exact ⟨h.resting, h.playing, h.named, h.within, h.roomy⟩

lemma run (h : m.Ordered) (moves : List Move) : (m.run moves).Ordered := by
  induction moves generalizing m with
  | nil => exact h
  | cons x xs ih => exact ih (h.move x)

end Ordered

lemma Reacts.limit (hr : m.Reacts e m') : m'.limit = m.limit := by
  cases hr <;> rfl

lemma move_limit (m : Machine) (x : Move) : (m.move x).limit = m.limit := by
  cases x with
  | event e =>
    rcases process_cases m e with he | hr
    · exact congrArg limit he
    · exact hr.limit
  | key c => exact recordKey_limit m c
  | round round rounds => exact setRound_limit m round rounds
  | takeFinished => rfl

lemma run_limit (m : Machine) (moves : List Move) : (m.run moves).limit = m.limit := by
  induction moves generalizing m with
  | nil => rfl
  | cons x xs ih => exact (ih _).trans (move_limit m x)

lemma Ordered.aborting_iff (h : m.Ordered) (hs : m.state = .idle) :
    m.aborting = true ↔ m.playing ≠ [] := h.resting (by simp [isPlaying, hs])

lemma play_accepted_iff (h : m.Ordered) (hs : m.state = .idle) (name : Text) :
    (m.process? (.play name)).isSome = true ↔ m.playing = [] := by
  have ha := h.aborting_iff hs
  have hr := h.roomy
  rw [process?_play]
  cases hp : m.playing with
  | nil => simpa [ha, hp, depth] using Nat.ne_of_gt hr
  | cons f fs => simp [ha.mpr (by simp [hp])]

def Tidy (m : Machine) : Prop := m.state = .idle → m.playing = []

def Patient : Machine → List Move → Prop
  | _, [] => True
  | m, x :: xs => ¬(x = .event .stop ∧ m.Unwinding) ∧ Patient (m.move x) xs

lemma Reacts.tidy (hr : m.Reacts e m') (hx : ¬(e = .stop ∧ m.Unwinding)) : m'.Tidy := by
  cases hr with
  | record =>
    intro hs
    cases hs
  | store hs => exact fun _ => by_contra fun hp => hx ⟨rfl, hs, hp⟩
  | abort =>
    intro hs
    cases hs
  | play name =>
    intro hs
    cases hm : m.state <;> simp [push, State.playing, hm] at hs
  | pop hp =>
    intro hs
    by_contra ht
    replace ht : ¬m.playing.tail = [] := ht
    simp only [ht, if_false] at hs
    simp [isPlaying, hs] at hp
  | unwind hu =>
    intro hs
    cases hu.1.symm.trans hs

lemma Tidy.move (h : m.Tidy) {x : Move} (hx : ¬(x = .event .stop ∧ m.Unwinding)) :
    (m.move x).Tidy := by
  cases x with
  | event e =>
    rcases process_cases m e with he | hr
    · exact (congrArg Tidy he).mpr h
    · exact hr.tidy fun he => hx ⟨congrArg Move.event he.1, he.2⟩
  | key c =>
    simp only [Machine.move, recordKey]
    split <;> exact h
  | round round rounds =>
    simp only [Machine.move, setRound]
    split
    · exact h
    · rename_i f fs hf
      intro hs
      exact absurd (h hs) (by simp [hf])
  | takeFinished => exact h

lemma Tidy.run (h : m.Tidy) {moves : List Move} (hp : Patient m moves) : (m.run moves).Tidy := by
  induction moves generalizing m with
  | nil => exact h
  | cons x xs ih => exact ih (h.move hp.1) hp.2

lemma Unwinding.stop (h : m.Unwinding) : ¬(m.move (.event .stop)).Tidy := by
  obtain ⟨hs, hp⟩ := h
  intro ht
  simp only [Machine.move, process, process?, hs, Option.getD_some, Tidy] at ht
  exact hp (ht trivial)

lemma patient_of_isPrefix {ms moves : List Move} (hp : Patient m moves) (hm : ms <+: moves) :
    Patient m ms := by
  induction ms generalizing m moves with
  | nil => trivial
  | cons x xs ih =>
    obtain ⟨zs, rfl⟩ := hm
    exact ⟨hp.1, ih hp.2 ⟨zs, rfl⟩⟩

lemma patient_iff (h : m.Tidy) (moves : List Move) :
    Patient m moves ↔ ∀ ms, ms <+: moves → (m.run ms).Tidy := by
  refine ⟨fun hp ms hm => h.run (patient_of_isPrefix hp hm), fun ht => ?_⟩
  induction moves generalizing m with
  | nil => trivial
  | cons x xs ih =>
    have hx : (m.move x).Tidy := ht [x] ⟨xs, rfl⟩
    refine ⟨?_, ih hx fun ms hm => ht (x :: ms) (List.cons_prefix_cons.mpr ⟨rfl, hm⟩)⟩
    rintro ⟨rfl, hu⟩
    exact hu.stop hx

lemma Ordered.ready (h : m.Ordered) (hs : m.state = .idle) (ht : m.Tidy) :
    m.playing = [] ∧ m.aborting = false ∧ ∀ name, (m.process? (.play name)).isSome = true := by
  have hl : m.playing = [] := ht hs
  have ha : m.aborting = false := by simpa [hl] using h.aborting_iff hs
  exact ⟨hl, ha, fun name => (play_accepted_iff h hs name).mpr hl⟩

lemma Ordered.stuck (h : m.Ordered) (ht : ¬m.Tidy) :
    m.state = .idle ∧ m.playing ≠ [] ∧ m.aborting = true ∧
      ∀ name, m.process? (.play name) = none := by
  simp only [Tidy, not_forall] at ht
  obtain ⟨hs, hl⟩ := ht
  refine ⟨hs, hl, (h.aborting_iff hs).mpr hl, fun name => ?_⟩
  rw [← Option.not_isSome_iff_eq_none, play_accepted_iff h hs]
  exact hl

/-- In every order of moves the machine stays in order. When it is idle, nothing is left of a
playback and the next one is accepted, unless a stop came while an aborted playback was unwound. -/
theorem consistent_in_any_order (maxDepth : Nat) (moves : List Move) :
    let m := (new maxDepth).run moves
    m.depth ≤ max 1 maxDepth ∧ m.recording.isSome = m.isRecording ∧
      (m.isPlaying = true → m.playing ≠ [] ∧ m.aborting = false) ∧
      (m.state = .recording → (m.aborting = true ↔ m.playing ≠ [])) ∧
      (Patient (new maxDepth) moves → m.state = .idle →
        m.playing = [] ∧ m.aborting = false ∧
          ∀ name, (m.process? (.play name)).isSome = true) ∧
      (¬Patient (new maxDepth) moves → ∃ ms, ms <+: moves ∧
        let m := (new maxDepth).run ms
        m.state = .idle ∧ m.playing ≠ [] ∧ m.aborting = true ∧
          ∀ name, m.process? (.play name) = none) := by
  have hr (ms : List Move) : ((new maxDepth).run ms).Ordered := (ordered_new maxDepth).run ms
  have ht : (new maxDepth).Tidy := fun _ => rfl
  intro m
  have hm : m.Ordered := hr moves
  refine ⟨?_, hm.named, hm.playing, fun hs => hm.resting (by simp [isPlaying, hs]), ?_, ?_⟩
  · rw [← show m.limit = max 1 maxDepth from run_limit _ moves]
    exact hm.within
  · exact fun hp hs => hm.ready hs (ht.run hp)
  · intro hp
    rw [patient_iff ht moves] at hp
    simp only [not_forall] at hp
    obtain ⟨ms, hms, hn⟩ := hp
    exact ⟨ms, hms, (hr ms).stuck hn⟩

example :
    let m := (new 2).run [.event (.record ['a']), .event (.play ['b']), .event .stop, .event .stop]
    m.state = .idle ∧ m.depth = 1 ∧ m.process? (.play ['c']) = none ∧ m.process? .done = none := by
  decide

end Machine

end ModalEdit.Macro
