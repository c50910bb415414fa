import ModalEdit.Proofs.CallLog
import ModalEdit.Proofs.Tables

namespace ModalEdit

open Macro (Control Machine isValidName)

namespace Macro.Control

variable {d : Control}

lemma readRecord_idle (hs : d.machine.state = .idle) (i : Interaction) (name : Text) (k : Nat) :
    (d.readRecord i name k false).1 = d ∨
      name ≠ [] ∧ (d.readRecord i name k false).1 =
        { d with machine := d.machine.process (.record name) } := by
  unfold readRecord
  rw [hs]
  cases name with
  | nil => exact .inl rfl
  | cons c cs =>
    simp only [List.isEmpty_cons, Bool.not_false, ↓reduceIte]
    unfold startRecording
    split
    · exact .inr ⟨by simp, rfl⟩
    · exact .inl rfl

lemma read_idle (hs : d.machine.state = .idle) (i : Interaction) (body : Text) (times : Nat) :
    (d.read i body false times).1 = d ∨
      ∃ name, name ≠ [] ∧ body = 'q' :: name ∧ (d.read i body false times).1 =
        { d with machine := d.machine.process (.record name) } := by
  unfold read
  split
  · exact .inl rfl
  · split
    · exact .inl rfl
    · rename_i name
      rcases readRecord_idle hs i name _ with hd | ⟨hn, hd⟩
      · exact .inl hd
      · exact .inr ⟨name, hn, rfl, hd⟩
    · exact .inl (readPlayback_macros ..)
    · exact .inl rfl

end Macro.Control

namespace Engine

variable {e : Engine}

lemma stroke_idle (hs : e.macros.machine.state = .idle) (h : Host) {c : Char}
    (hc : isEnter c = false) : (e.stroke h c).1.macros.machine = e.macros.machine ∨
      ∃ name times, name ≠ [] ∧ macroBody? (e.pending.text ++ [c]) = some ('q' :: name, times) ∧
        (e.stroke h c).1.macros.machine = e.macros.machine.process (.record name) := by
  cases hr : e.reads? c with
  | none => exact .inl (congrArg (·.machine) (stroke_plain_macros hr h).1)
  | some r =>
    obtain ⟨body, times⟩ := r
    have hm : macroBody? (e.pending.text ++ [c]) = some (body, times) := by
      unfold reads? at hr
      split_ifs at hr with _ _ _ he
      · exact absurd he (by simp [hc])
      · exact hr
    rw [stroke_of_reads hr h, runMacro_machine, hc, reader_macros]
    rcases Control.read_idle hs (e.reader c).interaction body times with hx | ⟨name, hn, rfl, hx⟩
    · exact .inl (congrArg (·.machine) hx)
    · exact .inr ⟨name, times, hn, hm, congrArg (·.machine) hx⟩

lemma key_macros_of_handled {c : Char} {h : Host} (hs : e.macros.machine.isRecording = false)
    {acted : Bool} (hr : (e.stroke h c).2 = .handled acted) :
    (e.key h c).1.macros = (e.stroke h c).1.macros := by
  obtain ⟨inner, -, hk⟩ := keyAt_eq h e.macros.machine.limit
  rw [key, hk, keyWith, reportMode_macros, record_macros, hs, Bool.false_and]
  generalize e.stroke h c = x at hr
  obtain ⟨after, reply⟩ := x
  obtain rfl : reply = _ := hr
  rfl

def AwaitsName (e : Engine) : Prop := ∃ times, macroBody? e.pending.text = some (['q'], times)

lemma key_starts (hm : e.macros.machine.Resting) (hu : e.Unnamed)
    (hs : e.macros.machine.state = .idle) (h : Host) {c : Char} (hc : isEnter c = false)
    (hr : (e.key h c).1.macros.machine.isRecording = true) :
    e.AwaitsName ∧ (e.key h c).1.macros.machine = e.macros.machine.process (.record [c]) ∧
      (e.key h c).1.macros.registry.macros = e.macros.registry.macros := by
  have hidle : (e.key h c).1.macros.machine.state ≠ .idle := by
    intro hi
    simp [Machine.isRecording, hi] at hr
  rcases stroke_idle hs h hc with hd | ⟨name, times, hn, hb, hd⟩
  · exact absurd ((key_spares hm (.inr hd)).1.trans hs) hidle
  · -- the key is the end of a name, and `hu` leaves room for no other key of it
    obtain ⟨b, hw, hbody⟩ := macroBody?_concat hb (by simpa using List.length_pos_iff.mpr hn)
    obtain ⟨d, ds, rfl⟩ : ∃ d ds, b = d :: ds := by
      cases b with
      | nil =>
        obtain ⟨p, -, hp, -⟩ := macroBody?_eq_some.mp hw
        cases hp
      | cons d ds => exact ⟨d, ds, rfl⟩
    simp only [List.cons_append, List.cons.injEq] at hbody
    obtain ⟨rfl, rfl⟩ := hbody
    obtain rfl : ds = [] := hu ds times hw
    have hx := stroke_acts e h c
    generalize hafter : (e.stroke h c).1.macros = d' at hx hd
    generalize hreply : (e.stroke h c).2 = r at hx
    have hkey : ∀ acted, r = .handled acted → (e.key h c).1.macros = d' := by
      rintro acted rfl
      rw [← hafter]
      exact key_macros_of_handled (by simp [Machine.isRecording, hs]) hreply
    refine ⟨⟨times, hw⟩, ?_⟩
    cases hx with
    | kept vs acted =>
      rw [hkey acted rfl]
      exact ⟨hd, rfl⟩
    | started name' =>
      rw [hkey true rfl]
      exact ⟨hd, rfl⟩
    | asked =>
      rw [Machine.process_record hs] at hd
      exact absurd (hs.symm.trans (congrArg (·.state) hd)) (by simp)
    | stored hs' => exact absurd (hs.symm.trans hs') (by simp)
    | aborted hs' => exact absurd (hs.symm.trans hs') (by simp)

lemma key_stays_idle (hm : e.macros.machine.Resting) (hs : e.macros.machine.state = .idle)
    (h : Host) {c : Char} (hr : (e.key h c).1.macros.machine.isRecording = false) :
    (e.key h c).1.macros.machine = e.macros.machine ∧
      (e.key h c).1.macros.registry.macros = e.macros.registry.macros := by
  have hx := key_moves hm h c
  generalize (e.key h c).1.macros = d' at hx hr
  cases hx with
  | stayed hd hmac => exact ⟨by simpa [Machine.isRecording, hs] using hd, hmac⟩
  | started name => simp [Machine.process_record hs, Machine.isRecording] at hr
  | stored hs' => exact absurd (hs.symm.trans hs') (by simp)

def feed (e : Engine) (keys : List (Host × Char)) : Engine :=
  keys.foldl (fun e k => (e.key k.1 k.2).1) e

lemma feed_reachable (he : e.Reachable) (keys : List (Host × Char)) : (e.feed keys).Reachable := by
  induction keys generalizing e with
  | nil => exact he
  | cons k ks ih => exact ih (he.key k.1 k.2)

lemma key_while_recording (hm : e.macros.machine.Resting) (hs : e.macros.machine.state = .recording)
    (h : Host) (c : Char) :
    ((e.key h c).1.macros.machine.isRecording = true ∧ (e.key h c).1.macros.machine =
        { e.macros.machine with recorded := e.macros.machine.recorded ++ [c] } ∧
      (e.key h c).1.macros.registry.macros = e.macros.registry.macros) ∨
    (e.key h c).1.macros.machine.isRecording = false ∧ (e.key h c).1.macros = e.macros.store := by
  have hr : e.macros.machine.isRecording = true := by simp [Machine.isRecording, hs]
  have hx := key_moves hm h c
  generalize (e.key h c).1.macros = d' at hx
  cases hx with
  | stayed hd hmac =>
    rw [if_pos hr] at hd
    refine .inl ⟨?_, hd, hmac⟩
    rw [hd]
    exact hr
  | started name hs' => exact absurd (hs.symm.trans hs') (by simp)
  | stored => exact .inr ⟨rfl, rfl⟩

lemma feed_while_recording (he : e.Reachable) (hs : e.macros.machine.state = .recording)
    {keys : List (Host × Char)}
    (hr : ∀ p, p <+: keys → (e.feed p).macros.machine.isRecording = true) :
    (e.feed keys).macros.machine =
        { e.macros.machine with recorded := e.macros.machine.recorded ++ keys.map (·.2) } ∧
      (e.feed keys).macros.registry.macros = e.macros.registry.macros := by
  induction keys generalizing e with
  | nil => exact ⟨by simp [feed], rfl⟩
  | cons k ks ih =>
    rcases key_while_recording he.resting hs k.1 k.2 with ⟨-, hd, hmac⟩ | ⟨hn, -⟩
    · have hs' : (e.key k.1 k.2).1.macros.machine.state = .recording := by rw [hd]; exact hs
      obtain ⟨hd', hmac'⟩ := ih (he.key k.1 k.2) hs' fun p hp =>
        hr (k :: p) (List.cons_prefix_cons.mpr ⟨rfl, hp⟩)
      refine ⟨?_, hmac'.trans hmac⟩
      change ((e.key k.1 k.2).1.feed ks).macros.machine = _
      rw [hd', hd]
      simp
    · have := hr [k] (List.cons_prefix_cons.mpr ⟨rfl, List.nil_prefix⟩)
      exact absurd (hn.symm.trans this) nofun

lemma replayed_recorded {s : Stroke} (hm : s.engine.macros.machine.Replaying) (h : Host)
    (depth : Nat) :
    (keyAt h depth s.engine s.key).1.macros.machine.recorded = s.engine.macros.machine.recorded ∧
      (keyAt h depth s.engine s.key).1.macros.machine.isRecording =
        s.engine.macros.machine.isRecording := by
  -- an abort leads from playing while recording to recording, and both count as recording
  rcases (keyAt_unwinds h depth s.engine s.key hm).machine with hd | ⟨hs, hd⟩
  · rw [hd]
    exact ⟨rfl, rfl⟩
  · rw [hd]
    exact ⟨rfl, by simp [Machine.isRecording, Machine.abort, hs]⟩

lemma isEnter_of_isValidName {a : Char} (ha : isValidName [a] = true) : isEnter a = false := by
  cases hc : isEnter a with
  | false => rfl
  | true =>
    simp only [isEnter, Bool.or_eq_true, beq_iff_eq] at hc
    rcases hc with rfl | rfl <;> revert ha <;> decide +kernel

lemma start_recording (he : e.Reachable) (hs : e.macros.machine.state = .idle)
    (hq : ¬e.AwaitsName) {a : Char} (ha : isEnter a = false) (h h' : Host)
    (hr : (e.feed [(h, 'q'), (h', a)]).macros.machine.isRecording = true) :
    (e.feed [(h, 'q'), (h', a)]).macros.machine = e.macros.machine.process (.record [a]) ∧
      (e.feed [(h, 'q'), (h', a)]).macros.registry.macros = e.macros.registry.macros := by
  have hq' : (e.key h 'q').1.macros.machine.isRecording = false := by
    rw [← Bool.not_eq_true]
    exact fun hq' => hq (key_starts he.resting he.unnamed hs h rfl hq').1
  obtain ⟨hd, hmac⟩ := key_stays_idle he.resting hs h hq'
  have he' := he.key h 'q'
  obtain ⟨-, hd', hmac'⟩ := key_starts he'.resting he'.unnamed (by rw [hd, hs]) h' ha hr
  exact ⟨hd'.trans (by rw [hd]), hmac'.trans hmac⟩

/-- The keys behind `qa` are what is recorded, and the key that ends the recording stores them
under `a`; keys that are replayed meanwhile have no part in it. -/
theorem Reachable.records {e : Engine} (he : e.Reachable) (hs : e.macros.machine.state = .idle)
    (hq : ¬e.AwaitsName) {a : Char} (ha : isValidName [a] = true) (h h' : Host)
    (keys : List (Host × Char))
    (hr : ∀ p, p <+: keys → (e.feed ((h, 'q') :: (h', a) :: p)).macros.machine.isRecording = true) :
    let after := e.feed ((h, 'q') :: (h', a) :: keys)
    after.macros.machine.recorded = keys.map (·.2) ∧
      after.macros.machine.recording = some [a] ∧
      (∀ p k, p ++ [k] <+: keys →
        ∀ s ∈ (e.feed ((h, 'q') :: (h', a) :: p)).keyLog k.1 k.2,
          s.engine.macros.machine.playing ≠ [] → ∀ depth,
            (keyAt k.1 depth s.engine s.key).1.macros.machine.recorded =
                s.engine.macros.machine.recorded ∧
              (keyAt k.1 depth s.engine s.key).1.macros.machine.isRecording =
                s.engine.macros.machine.isRecording) ∧
      ∀ h c, (after.key h c).1.macros.machine.isRecording = false →
        (after.key h c).1.macros.registry.get? [a] = some (keys.map (·.2)) ∧
          (after.key h c).1.macros.registry.last = some [a] ∧
          (∀ name, name ≠ [a] →
            (after.key h c).1.macros.registry.get? name = e.macros.registry.get? name) ∧
          (after.key h c).1.macros.machine.state = .idle := by
  obtain ⟨hd, hmac⟩ := start_recording he hs hq (isEnter_of_isValidName ha) h h'
    (hr [] List.nil_prefix)
  rw [Machine.process_record hs] at hd
  have hstart := feed_reachable he [(h, 'q'), (h', a)]
  obtain ⟨start, hkeys⟩ : ∃ start : Engine, ∀ p, e.feed ((h, 'q') :: (h', a) :: p) = start.feed p :=
    ⟨e.feed [(h, 'q'), (h', a)], fun _ => rfl⟩
  rw [hkeys, show start.feed [] = start from rfl] at hd hmac hstart
  simp only [hkeys] at hr ⊢
  obtain ⟨hm, hmac'⟩ := feed_while_recording hstart (by rw [hd]) hr
  have hafter := feed_reachable hstart keys
  rw [hd] at hm
  refine ⟨by simp [hm], by simp [hm], ?_, fun h c hn => ?_⟩
  · intro p k _ s hk hp depth
    have hx := feed_reachable hstart p
    rcases (keyLog_follows (h := k.1) hx.resting k.2).1 s hk with hm | hm
    · exact absurd hm.2 hp
    · exact replayed_recorded hm k.1 depth
  · rcases key_while_recording hafter.resting (by rw [hm]) h c with ⟨hy, -⟩ | ⟨-, hd⟩
    · exact absurd (hn.symm.trans hy) nofun
    · rw [hd]
      simp only [Control.store, hm, Option.getD_some, List.nil_append]
      refine ⟨Table.get?_insert_self _ _ _, rfl, fun name hne => ?_, trivial⟩
      have hi := Table.get?_insert_of_ne hne (start.feed keys).macros.registry.macros
        (keys.map (·.2))
      exact hi.trans (by rw [hmac', hmac]; rfl)

theorem sample_records_aborted :
    let keys : List (Host × Char) := [({}, 'x'), ({}, '@'), ({}, 'b'), ({}, 'x')]
    let after := (sample "abc" [("b", "iy\x1bqiz\x1b")]).feed (({}, 'q') :: ({}, 'a') :: keys)
    after.macros.machine.recorded = ['x', '@', 'b', 'x'] ∧
      (after.key {} 'q').1.macros.registry.get? ['a'] = some ['x', '@', 'b', 'x'] := by
  intro keys after
  have hq : ¬(sample "abc" [("b", "iy\x1bqiz\x1b")]).AwaitsName := fun ⟨_, hb⟩ => nomatch hb
  have hr : ∀ n ≤ 4, ((sample "abc" [("b", "iy\x1bqiz\x1b")]).feed
      (({}, 'q') :: ({}, 'a') :: keys.take n)).macros.machine.isRecording = true := by
    decide +kernel
  have hrec := Reachable.records (sample_reachable "abc" [("b", "iy\x1bqiz\x1b")]) rfl hq
    (a := 'a') (by decide +kernel) {} {} keys fun p hp => by
      rw [List.prefix_iff_eq_take.mp hp]
      exact hr _ hp.length_le
  exact ⟨hrec.1, (hrec.2.2.2 {} 'q' (by decide +kernel)).1⟩

theorem not_records_late_name :
    ¬∀ e : Engine, e.Reachable → e.macros.machine.state = .idle → ∀ a, isValidName [a] = true →
      ∀ (h h' : Host) (keys : List (Host × Char)),
        (∀ p, p <+: keys →
          (e.feed ((h, 'q') :: (h', a) :: p)).macros.machine.isRecording = true) →
        (e.feed ((h, 'q') :: (h', a) :: keys)).macros.machine.recorded = keys.map (·.2) := by
  intro hall
  have he : ((sample "abc" []).key {} 'q').1.Reachable := (sample_reachable "abc" []).key {} 'q'
  have hrec := hall _ he (by decide +kernel) 'a' (by decide +kernel) {} {} [] fun p hp => by
    rw [List.prefix_nil.mp hp]
    decide +kernel
  revert hrec
  decide +kernel

end Engine

end ModalEdit
