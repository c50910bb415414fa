import ModalEdit.Proofs.MachineEvents
import ModalEdit.Proofs.Validity

/-! A registry and its file, while macros are recorded. What is not marked as modified is what the
file holds. -/

namespace ModalEdit.Macro

namespace Machine

variable {m : Machine}

lemma Ordered.recordKeys (h : m.Ordered) (keys : Text) :
    Ordered (keys.foldl Machine.recordKey m) := by
  have hr := h.run (keys.map .key)
  rwa [Machine.run, List.foldl_map] at hr

lemma process_recording {e : Event} {name : Text} (h : (m.process e).recording = some name) :
    m.recording = some name ∨ e = .record name := by
  rcases process_cases m e with he | hr
  · exact .inl (he ▸ h)
  · generalize m.process e = m' at h hr
    cases hr with
    | record => exact .inr (congrArg Event.record (Option.some.inj h))
    | store => cases h
    | _ => exact .inl h

structure Sound (m : Machine) : Prop where
  ordered : m.Ordered
  name : ∀ name, m.recording = some name → isValidName name = true

namespace Sound

lemma process (h : m.Sound) {e : Event} (he : ∀ name, e = .record name → isValidName name = true) :
    (m.process e).Sound :=
  ⟨h.ordered.process e, fun name hn => (process_recording hn).elim (h.name name) (he name)⟩

lemma abort (h : m.Sound) (hs : m.state = .playingWhileRecording) : m.abort.Sound :=
  ⟨h.ordered.abort hs, h.name⟩

lemma push (h : m.Sound) (ha : m.aborting = false) (hd : m.depth < m.limit) (f : Frame) :
    (m.push f).Sound :=
  ⟨h.ordered.push ha hd f, h.name⟩

lemma recordKeys (h : m.Sound) (keys : Text) : Sound (keys.foldl recordKey m) :=
  ⟨h.ordered.recordKeys keys, fun name hn => h.name name (by
    rwa [(foldl_recordKey_state m keys).2] at hn)⟩

lemma setRound (h : m.Sound) (round rounds : Nat) : (m.setRound round rounds).Sound :=
  ⟨h.ordered.setRound round rounds, fun name hn => h.name name (by
    rwa [setRound_recording] at hn)⟩

lemma recorded_valid (h : m.Sound) (hs : m.state = .recording) :
    isValidName (m.recording.getD []) = true := by
  have hr : m.recording.isSome = true := by rw [h.ordered.named, isRecording, hs]; rfl
  obtain ⟨name, hn⟩ := Option.isSome_iff_exists.mp hr
  rw [hn]
  exact h.name name hn

end Sound

end Machine

structure Session where
  path : Text
  files : Files
  macros : Control

namespace Session

inductive Act where
  | load
  | save
  | failToSave (left : Text)
  | set (name keys : Text) (h : isValidName name = true)
  | erase (name : Text)
  | setVariable (v : Variable) (h : isValidName v.name = true)
  | read (i : Interaction) (command : Text) (complete : Bool) (times : Nat)
  | type (keys : Text)
  | beginPlayback (i : Interaction) (name : Text)
  | setRound (round rounds : Nat)
  | endPlayback
  | expand (i : Interaction) (x : Context) (name : Text)

def withRegistry (s : Session) (registry : Registry) : Session :=
  { s with macros := { s.macros with registry } }

def act (s : Session) : Act → Session
  | .load =>
    match Registry.load s.files s.path with
    | .ok r => s.withRegistry r
    | .error _ => s
  | .save =>
    let (files, registry, _) := s.macros.registry.save s.files
    { s with files, macros := { s.macros with registry } }
  | .failToSave left =>
    if s.macros.registry.modified then { s with files := s.files.insert s.path left } else s
  | .set name keys _ => s.withRegistry (s.macros.registry.set name keys)
  | .erase name => s.withRegistry (s.macros.registry.erase name)
  | .setVariable v _ => s.withRegistry (s.macros.registry.setVariable v)
  | .read i command complete times =>
    { s with macros := (s.macros.read i command complete times).1 }
  | .type keys => { s with macros := s.macros.recordKeys keys }
  | .beginPlayback i name => { s with macros := (s.macros.beginPlayback i name).1 }
  | .setRound round rounds =>
    { s with macros := { s.macros with machine := s.macros.machine.setRound round rounds } }
  | .endPlayback => { s with macros := s.macros.endPlayback }
  | .expand i x name => { s with macros := (s.macros.expand i x name).1 }

def run (s : Session) (acts : List Act) : Session := acts.foldl act s

def start (files : Files) (path : Text) (r : Registry) (maxDepth : Nat) (pane : Text) : Session :=
  { path, files, macros := { machine := .new maxDepth, registry := r, pane } }

def Saved (s : Session) : Prop :=
  ∃ r, Registry.load s.files s.path = .ok r ∧ r.Agrees s.macros.registry

structure Sound (s : Session) : Prop where
  machine : s.macros.machine.Sound
  registry : s.macros.registry.Valid
  path : s.macros.registry.path = some s.path
  saved : s.macros.registry.modified = false → s.Saved

variable {s : Session}

lemma sound_start {files : Files} {path : Text} {r : Registry}
    (h : Registry.load files path = .ok r) (maxDepth : Nat) (pane : Text) :
    (start files path r maxDepth pane).Sound where
  machine := ⟨Machine.ordered_new maxDepth, nofun⟩
  registry := (Registry.load_spec h).1
  path := (Registry.load_spec h).2.1
  saved _ := ⟨r, h, .refl r⟩

lemma act_path (s : Session) (a : Act) : (s.act a).path = s.path := by
  cases a <;> simp only [act, withRegistry] <;> split <;> rfl

lemma run_path (s : Session) (acts : List Act) : (s.run acts).path = s.path := by
  induction acts generalizing s with
  | nil => rfl
  | cons a acts ih => exact (ih _).trans (act_path s a)

namespace Sound

lemma change (h : s.Sound) {r : Registry} {m : Machine} (hm : m.Sound) (hv : r.Valid)
    (hp : r.path = s.macros.registry.path)
    (hr : r.modified = false → s.macros.registry.modified = false ∧ s.macros.registry.Agrees r) :
    Sound { s with macros := { s.macros with machine := m, registry := r } } where
  machine := hm
  registry := hv
  path := hp.trans h.path
  saved hn := by
    obtain ⟨hn, ha⟩ := hr hn
    obtain ⟨r', hl, ha'⟩ := h.saved hn
    exact ⟨r', hl, ha'.trans ha⟩

lemma turn (h : s.Sound) {m : Machine} (hm : m.Sound) :
    Sound { s with macros := { s.macros with machine := m } } :=
  h.change hm h.registry rfl fun hn => ⟨hn, .refl _⟩

lemma load (h : s.Sound) : (s.act .load).Sound := by
  simp only [act]
  split
  · rename_i r hl
    obtain ⟨hv, hp, -⟩ := Registry.load_spec hl
    exact ⟨h.machine, hv, hp, fun _ => ⟨r, hl, .refl r⟩⟩
  · exact h

lemma save (h : s.Sound) : (s.act .save).Sound := by
  obtain ⟨r, hl, ha⟩ := Registry.load_save h.registry h.path h.saved
  cases hm : s.macros.registry.modified with
  | false =>
    have hs : s.act .save = s := by simp [act, Registry.save, h.path, hm]
    rw [hs]
    exact h
  | true =>
    simp only [Registry.save, h.path, hm, if_true] at hl
    simp only [act, Registry.save, h.path, hm, if_true]
    exact ⟨h.machine, ⟨h.registry.names, h.registry.keyed⟩, rfl, fun _ => ⟨r, hl, ha⟩⟩

lemma failToSave (h : s.Sound) (left : Text) : (s.act (.failToSave left)).Sound := by
  simp only [act]
  split
  · rename_i hm
    exact ⟨h.machine, h.registry, h.path, fun hn => absurd (hm.symm.trans hn) nofun⟩
  · exact h

lemma erase (h : s.Sound) (name : Text) : (s.act (.erase name)).Sound := by
  refine h.change h.machine (h.registry.erase name) rfl fun hn => ?_
  obtain ⟨hm, hr⟩ := Bool.or_eq_false_iff.mp hn
  exact ⟨hm, (Table.erase_of_not_contains hr).symm, rfl⟩

lemma read (h : s.Sound) (i : Interaction) (command : Text) (complete : Bool) (times : Nat) :
    (s.act (.read i command complete times)).Sound := by
  have hr := s.macros.read_reads i command complete times
  simp only [act]
  generalize s.macros.read i command complete times = step at hr
  cases hr with
  | kept => exact h
  | started _ name _ _ hn =>
    refine h.turn (h.machine.process fun other ho => ?_)
    cases ho
    exact hn
  | stored _ hs =>
    have hv := h.registry.set (h.machine.recorded_valid hs) s.macros.machine.recorded
    exact h.change ⟨h.machine.ordered.store hs none, nofun⟩ ⟨hv.names, hv.keyed⟩ rfl nofun
  | aborted _ hs => exact h.turn (h.machine.abort hs)

lemma beginPlayback (h : s.Sound) (i : Interaction) (name : Text) :
    (s.act (.beginPlayback i name)).Sound := by
  have hb := s.macros.beginPlayback_begins i name
  simp only [act]
  generalize s.macros.beginPlayback i name = result at hb
  cases hb with
  | refused => exact h
  | begun keys last _ ha hd =>
    exact h.change (h.machine.push ha hd _) ⟨h.registry.names, h.registry.keyed⟩ rfl
      fun hn => ⟨hn, rfl, rfl⟩

lemma expand (h : s.Sound) (i : Interaction) (x : Context) (name : Text) :
    (s.act (.expand i x name)).Sound := by
  obtain ⟨r, hc, hd⟩ := s.macros.expand_caches i x name
  have ha := h.registry.caches_agrees hc
  have hv := h.registry.agrees ha
  obtain ⟨vs, rfl⟩ := hc.same
  simp only [act, hd]
  exact h.change h.machine hv rfl fun hn => ⟨hn, ha.1.symm, ha.2.symm⟩

lemma act (h : s.Sound) (a : Act) : (s.act a).Sound := by
  cases a with
  | load => exact h.load
  | save => exact h.save
  | failToSave left => exact h.failToSave left
  | set name keys hn => exact h.change h.machine (h.registry.set hn keys) rfl nofun
  | erase name => exact h.erase name
  | setVariable v hv => exact h.change h.machine (h.registry.setVariable hv) rfl nofun
  | read i command complete times => exact h.read i command complete times
  | type keys => exact h.turn (h.machine.recordKeys keys)
  | beginPlayback i name => exact h.beginPlayback i name
  | setRound round rounds => exact h.turn (h.machine.setRound round rounds)
  | endPlayback => exact h.turn (h.machine.process nofun)
  | expand i x name => exact h.expand i x name

lemma run (h : s.Sound) (acts : List Act) : (s.run acts).Sound := by
  induction acts generalizing s with
  | nil => exact h
  | cons a acts ih => exact ih (h.act a)

end Sound

/-- While the registry is not modified, its file can be loaded and gives the same macros and
variables. All names are valid, those of recordings too, so what is saved can be loaded again. -/
theorem unmodified_is_saved {files : Files} {path : Text} {r : Registry}
    (h : Registry.load files path = .ok r) (maxDepth : Nat) (pane : Text) (acts : List Act) :
    let s := (start files path r maxDepth pane).run acts
    (s.macros.registry.modified = false →
        ∃ r', Registry.load s.files path = .ok r' ∧ r'.macros = s.macros.registry.macros ∧
          r'.stored = s.macros.registry.stored) ∧
      (∀ name ∈ s.macros.registry.names, isValidName name = true) ∧
      (∀ name, s.macros.machine.recording = some name → isValidName name = true) ∧
      ∃ r', Registry.load (s.macros.registry.save s.files).1 path = .ok r' ∧
        r'.macros = s.macros.registry.macros ∧ r'.stored = s.macros.registry.stored := by
  intro s
  have hs : s.Sound := (sound_start h maxDepth pane).run acts
  have hp : s.path = path := run_path _ acts
  have hsaved := hs.saved
  rw [Saved, hp] at hsaved
  exact ⟨hsaved, hs.registry.names, hs.machine.name,
    Registry.load_save hs.registry (hp ▸ hs.path) hsaved⟩

theorem recorded_macro_is_saved :
    let path := "macros.toml".toList
    let asked : Interaction := { dialog := .scripted [some "a b".toList, some "a".toList] }
    let s := (start {} path { path := some path } 2 []).run
      [.read asked ['q'] true 1, .erase ['b'], .read {} "qa".toList false 1, .type ['i', '\x1b'],
        .read {} ['q'] false 1, .save]
    s.macros.registry.modified = false ∧ s.macros.registry.get? ['a'] = some ['i', '\x1b'] ∧
      ∃ r, Registry.load s.files path = .ok r ∧ r.macros = s.macros.registry.macros := by
  intro path asked s
  have hm : s.macros.registry.modified = false := by decide +kernel
  have hl : Registry.load {} path = .ok { path := some path } := rfl
  obtain ⟨r, hl, hr, -⟩ := (unmodified_is_saved hl 2 [] _).1 hm
  exact ⟨hm, by decide +kernel, r, hl, hr⟩

end Session

end ModalEdit.Macro
