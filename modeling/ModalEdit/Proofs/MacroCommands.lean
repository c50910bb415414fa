import Mathlib.Tactic.Common
import ModalEdit.Macro.Reference
import ModalEdit.Proofs.Machine

namespace ModalEdit.Macro

def Registry.Answers (r : Registry) (times : Nat) : Request → Prop
  | .play name n => r.isRecorded name = true ∧ n = times
  | .expand name n => r.isRecorded name = false ∧ r.isVariable name = true ∧ n = times

namespace Control

def store (d : Control) : Control :=
  { d with
    machine :=
      { d.machine with state := .idle, recording := none, recorded := [], finished := none }
    registry := (d.registry.set (d.machine.recording.getD []) d.machine.recorded).setLast
      (d.machine.recording.getD []) }

inductive Reads (d : Control) (times : Nat) : Step → Prop
  | kept (i : Interaction) (o : Outcome)
      (h : ∀ k r, o = .done k (some r) → d.registry.Answers times r) : Reads d times (d, i, o)
  | started (i : Interaction) (name : Text) (k : Nat) (hs : d.machine.state = .idle)
      (hn : isValidName name = true) :
      Reads d times ({ d with machine := d.machine.process (.record name) }, i, .done k none)
  | stored (i : Interaction) (hs : d.machine.state = .recording) :
      Reads d times (d.store, i, .done 1 none)
  | aborted (i : Interaction) (hs : d.machine.state = .playingWhileRecording) :
      Reads d times ({ d with machine := d.machine.abort }, i, .done 1 none)

namespace Reads

variable {d : Control} {times : Nat}

lemma fails (i : Interaction) {o : Outcome} (h : ∀ k r, o ≠ .done k r) : Reads d times (d, i, o) :=
  .kept i o fun k r ho => absurd ho (h k (some r))

lemma startRecording (hs : d.machine.state = .idle) (i : Interaction) (name : Text) (k : Nat) :
    Reads d times (d.startRecording i name k) := by
  unfold Control.startRecording
  split
  · rename_i hn
    exact .started _ name k hs hn
  · exact fails _ nofun

lemma readRecord (i : Interaction) (name : Text) (k : Nat) (complete : Bool) :
    Reads d times (d.readRecord i name k complete) := by
  unfold Control.readRecord
  split
  · rename_i hs
    have he : d.machine.process .stop =
        { d.machine with state := .idle, recording := none, recorded := []
                         finished := some (d.machine.recording.getD [], d.machine.recorded) } := by
      simp [Machine.process, Machine.process?, hs]
    simp only [storeFinished, he]
    exact .stored _ hs
  · rename_i hs
    rw [Machine.process_stop hs]
    exact .aborted _ hs
  · refine .kept _ _ fun k r ho => ?_
    split at ho <;> cases ho
  · rename_i hs
    split
    · exact startRecording hs i name k
    · split
      · exact fails _ (by simp)
      · split
        · exact startRecording hs _ _ k
        · exact fails _ (by simp)

end Reads

inductive Settles (d : Control) (times : Nat) : Step → Prop
  | intro (i : Interaction) (o : Outcome) (hn : o ≠ .incomplete)
      (ho : ∀ k r, o = .done k (some r) → d.registry.Answers times r) : Settles d times (d, i, o)

inductive Seeks (d : Control) (times : Nat) (i : Interaction) : Step → Prop
  | waits (j : Interaction) (hd : j.dialog = i.dialog) : Seeks d times i (d, j, .incomplete)
  | settled {step : Step} (h : Settles d times step) : Seeks d times i step

namespace Settles

variable {d : Control} {times : Nat}

lemma fails (i : Interaction) {o : Outcome} (hn : o ≠ .incomplete) (h : ∀ k r, o ≠ .done k r) :
    Settles d times (d, i, o) :=
  .intro i o hn fun k r ho => absurd ho (h k (some r))

lemma resolve (i : Interaction) (name : Text) (k : Nat) :
    Settles d times (d.resolve i name k times) := by
  unfold Control.resolve
  split
  · rename_i hr
    refine .intro i _ nofun fun k r ho => ?_
    cases ho
    exact ⟨hr, rfl⟩
  · split
    · rename_i hr hv
      refine .intro i _ nofun fun k r ho => ?_
      cases ho
      exact ⟨by simpa using hr, hv, rfl⟩
    · exact fails _ nofun nofun

lemma choose (i : Interaction) (choices : List Text) (k : Nat) :
    Settles d times (d.choose i choices k times) := by
  unfold Control.choose
  split
  · exact fails _ nofun nofun
  · split
    · exact resolve _ _ k
    · exact fails _ nofun nofun

lemma ne_incomplete {step : Step} (h : Settles d times step) : step.2.2 ≠ .incomplete := by
  obtain ⟨i, o, hn, -⟩ := h
  exact hn

end Settles

namespace Seeks

variable {d : Control} {times : Nat}

lemma search (i : Interaction) (start : Text) (k : Nat) (complete : Bool) :
    Seeks d times i (d.search i start k times complete) := by
  unfold Control.search
  split
  · cases complete with
    | false => exact .waits _ rfl
    | true => exact .settled (.fails _ nofun nofun)
  · exact .settled (.resolve _ _ k)
  · split
    · exact .settled (.resolve _ _ k)
    · split
      · exact .settled (.choose _ _ k)
      · exact .waits _ rfl

lemma readPlayback (i : Interaction) (rest : Text) (k : Nat) (complete : Bool) :
    Seeks d times i (d.readPlayback i rest k times complete) := by
  unfold Control.readPlayback
  split
  · split
    · exact .settled (.choose _ _ k)
    · exact .waits _ rfl
  · split
    · split
      · exact .settled (.resolve _ _ k)
      · exact .settled (.choose _ _ k)
    · split
      · exact .settled (.resolve _ _ k)
      · split
        · split
          · exact .settled (.fails _ nofun nofun)
          · exact .waits _ rfl
        · exact search i rest k complete

lemma reads {i : Interaction} {step : Step} (h : Seeks d times i step) : Reads d times step := by
  cases h with
  | waits j => exact .fails j nofun
  | settled h =>
    obtain ⟨j, o, -, ho⟩ := h
    exact .kept j o ho

lemma macros {i : Interaction} {step : Step} (h : Seeks d times i step) : step.1 = d := by
  cases h with
  | waits => rfl
  | settled h =>
    cases h
    rfl

lemma dialog {i : Interaction} {step : Step} (h : Seeks d times i step)
    (ho : step.2.2 = .incomplete) : step.2.1.dialog = i.dialog := by
  cases h with
  | waits j hd => exact hd
  | settled h => exact absurd ho h.ne_incomplete

end Seeks

theorem read_reads (d : Control) (i : Interaction) (command : Text) (complete : Bool)
    (times : Nat) :
    Reads d times (d.read i command complete times) := by
  unfold Control.read
  split
  · exact .fails _ nofun
  · split
    · exact .fails _ nofun
    · exact .readRecord i _ _ complete
    · exact (Seeks.readPlayback i _ _ complete).reads
    · exact .fails _ nofun

lemma startRecording_ne_incomplete {d : Control} (i : Interaction) (name : Text) (k : Nat) :
    (d.startRecording i name k).2.2 ≠ .incomplete := by
  unfold startRecording
  split <;> nofun

lemma readRecord_incomplete {d : Control} {i : Interaction} {name : Text} {k : Nat}
    {complete : Bool} (h : (d.readRecord i name k complete).2.2 = .incomplete) : name = [] := by
  unfold readRecord at h
  split at h
  · cases h
  · cases h
  · cases name with
    | nil => rfl
    | cons => cases h
  · cases name with
    | nil => rfl
    | cons => exact absurd h (startRecording_ne_incomplete _ _ _)

lemma readPlayback_macros (d : Control) (i : Interaction) (rest : Text) (k times : Nat)
    (complete : Bool) : (d.readPlayback i rest k times complete).1 = d :=
  (Seeks.readPlayback i rest k complete).macros

lemma readPlayback_dialog {d : Control} {i : Interaction} {rest : Text} {k times : Nat}
    {complete : Bool} (ho : (d.readPlayback i rest k times complete).2.2 = .incomplete) :
    (d.readPlayback i rest k times complete).2.1.dialog = i.dialog :=
  (Seeks.readPlayback i rest k complete).dialog ho

end Control

inductive Registry.Caches (r : Registry) : Registry → Prop
  | none : Caches r r
  | more {r' : Registry} {name : Text} {v : Variable} (h : Caches r r')
      (hv : r'.variableTable.get? name = some v) (answer : Text) : Caches r (r'.cache v answer)

namespace Registry.Caches

variable {r r' r'' : Registry}

protected lemma trans (h : Caches r r') (h' : Caches r' r'') : Caches r r'' := by
  induction h' with
  | none => exact h
  | more _ hv answer ih => exact .more ih hv answer

lemma same (h : Caches r r') : ∃ vs, r' = { r with variableTable := vs } := by
  induction h with
  | none => exact ⟨r.variableTable, rfl⟩
  | more _ _ _ ih =>
    obtain ⟨vs, rfl⟩ := ih
    exact ⟨_, rfl⟩

end Registry.Caches

open Registry (Caches)

lemma Variable.ask_same (v : Variable) (s : Registry × Interaction) :
    (v.ask s).2.1 = s.1 := by
  unfold Variable.ask
  dsimp only
  split <;> rfl

lemma Variable.expand_caches {v : Variable} {s : Registry × Interaction} {name : Text}
    (hv : s.1.variableTable.get? name = some v) (x : Context) :
    Caches s.1 (v.expand x s).2.1 := by
  have ha := v.ask_same s
  unfold Variable.expand
  split
  · exact .none
  · exact .none
  · exact .none
  · exact .none
  · rw [ha]; exact .none
  · split
    · exact .none
    · split
      · rename_i he
        rw [he] at ha
        rw [← ha] at hv ⊢
        exact .more .none hv _
      · rename_i he
        rw [he] at ha
        rw [ha]
        exact .none

lemma expandPieces_caches {f : Text → Expansion}
    (hf : ∀ name s, Caches s.1 (f name s).2.1) (ps : List Piece)
    (s : Registry × Interaction) : Caches s.1 (expandPieces f ps s).2.1 := by
  induction ps generalizing s with
  | nil => exact .none
  | cons p ps ih =>
    cases p with
    | literal c =>
      have hs := ih s
      unfold expandPieces
      split <;> rename_i he <;> rwa [he] at hs
    | reference name =>
      have hn := hf name s
      unfold expandPieces
      split
      · rename_i he
        rwa [he] at hn
      · rename_i he
        rw [he] at hn
        have hs := ih (f name s).2
        rw [he] at hs
        split <;> rename_i he' <;> rw [he'] at hs <;> exact hn.trans hs

lemma expandWithin_caches (x : Context) (levels : Nat) (name : Text)
    (s : Registry × Interaction) : Caches s.1 (expandWithin x levels name s).2.1 := by
  induction levels generalizing name s with
  | zero => exact .none
  | succ n ih =>
    unfold expandWithin
    split
    · exact .none
    · rename_i v hget
      have hv := Variable.expand_caches hget x
      split
      · rename_i he
        rwa [he] at hv
      · rename_i he
        rw [he] at hv
        split
        · exact hv.trans (expandPieces_caches ih _ _)
        · exact hv

lemma Control.expand_caches (d : Control) (i : Interaction) (x : Context) (name : Text) :
    ∃ r, Caches d.registry r ∧ (d.expand i x name).1 = { d with registry := r } := by
  have hs : Caches d.registry (Macro.expand x name (d.registry, i)).2.1 :=
    expandWithin_caches x _ name (d.registry, i)
  refine ⟨_, hs, ?_⟩
  unfold Control.expand
  split <;> rename_i he <;> rw [he]

theorem Control.expand_same (d : Control) (i : Interaction) (x : Context) (name : Text) :
    ∃ vs, (d.expand i x name).1 =
      { d with registry := { d.registry with variableTable := vs } } := by
  obtain ⟨r, hr, he⟩ := d.expand_caches i x name
  obtain ⟨vs, rfl⟩ := hr.same
  exact ⟨vs, he⟩

inductive Control.Begins (d : Control) (i : Interaction) (name : Text) :
    Control × Interaction × Option Text → Prop
  | refused (message : Text) : Begins d i name (d, i.say d.pane message, none)
  | begun (keys : Text) (last : Option Text) (hk : d.registry.get? name = some keys)
      (ha : d.machine.aborting = false) (hd : d.machine.depth < d.machine.limit) :
      Begins d i name
        ({ d with machine := d.machine.push { name }, registry := { d.registry with last } }, i,
          some keys)

theorem Control.beginPlayback_begins (d : Control) (i : Interaction) (name : Text) :
    Begins d i name (d.beginPlayback i name) := by
  unfold Control.beginPlayback
  split
  · exact .refused _
  · rename_i keys hk
    split
    · exact .refused _
    · rename_i m hm
      obtain ⟨ha, hd, rfl⟩ := Machine.process?_play_eq_some hm
      by_cases h : (d.machine.push { name }).depth = 1
      · simp only [h, ↓reduceIte]
        exact .begun keys (some name) hk ha hd
      · simp only [h, ↓reduceIte]
        exact .begun keys d.registry.last hk ha hd

end ModalEdit.Macro
