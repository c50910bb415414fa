import Mathlib.Logic.Function.Iterate
import ModalEdit.Proofs.Slices

/-! Every call comes to an end: it is carried out in small steps, in which nothing but the limit of
the machine bounds the nesting of playbacks. On the way no more playbacks are active than the limit
allows. -/

namespace ModalEdit

open Macro (Control Machine)

namespace Moment

variable {h : Host} {m m' : Moment}

lemma run?_succ (h : Host) (n : Nat) (m : Moment) :
    m.run? h (n + 1) = (m.run? h n).bind (next? h) := by
  induction n generalizing m with
  | zero => cases hm : m.next? h <;> simp [run?, hm]
  | succ n ih =>
    rw [run?, run?]
    cases m.next? h with
    | none => rfl
    | some m' => exact ih m'

lemma run?_cases (m : Moment) (h : Host) (n : Nat) :
    m.run? h n = some ((next h)^[n] m) ∨ m.run? h n = none := by
  induction n generalizing m with
  | zero => exact .inl rfl
  | succ n ih =>
    unfold run? next?
    split
    · exact ih (m.next h)
    · exact .inr rfl

lemma eq_of_run? {n : Nat} (hr : m' ∈ m.run? h n) : m' = (next h)^[n] m := by
  rcases m.run?_cases h n with hx | hx
  · exact (Option.some.inj (hx.symm.trans hr)).symm
  · cases hx.symm.trans hr

lemma run?_of_firm (hm : ∀ n, ∀ m' ∈ m.run? h n, m'.Firm) (n : Nat) :
    (m.run? h n).isSome = true := by
  induction n with
  | zero => rfl
  | succ n ih =>
    obtain ⟨m', hr⟩ := Option.isSome_iff_exists.mp ih
    rw [run?_succ, hr, Option.bind_some, next?, if_pos ((hm n m' hr).canStep h)]
    rfl

end Moment

inductive Trace (h : Host) (P : Engine → Prop) : Moment → Moment → Prop
  | refl {m} (hp : P m.engine) : Trace h P m m
  | step {m m'} (hp : P m.engine) (ht : Trace h P (m.next h) m') : Trace h P m m'

namespace Trace

variable {h : Host} {P : Engine → Prop} {m m' m'' : Moment}

lemma trans (ht : Trace h P m m') (ht' : Trace h P m' m'') : Trace h P m m'' := by
  induction ht with
  | refl => exact ht'
  | step hp _ ih => exact .step hp (ih ht')

lemma last (ht : Trace h P m m') : P m'.engine := by
  induction ht with
  | refl hp => exact hp
  | step _ _ ih => exact ih

lemma iterate (ht : Trace h P m m') (hm : m'.tasks = []) :
    (∃ n, (Moment.next h)^[n] m = m') ∧ ∀ n, P ((Moment.next h)^[n] m).engine := by
  induction ht with
  | @refl m hp =>
    have hfix : ∀ n, (Moment.next h)^[n] m = m := by
      refine fun n => Function.iterate_fixed ?_ n
      simp only [Moment.next, hm]
    exact ⟨⟨0, rfl⟩, fun n => (hfix n).symm ▸ hp⟩
  | step hp _ ih =>
    obtain ⟨⟨n, hn⟩, hall⟩ := ih hm
    refine ⟨⟨n + 1, hn⟩, fun i => ?_⟩
    cases i with
    | zero => exact hp
    | succ i => exact hall i

end Trace

namespace Macro

namespace Machine

variable {m : Machine}

lemma Coherent.recordKey (hm : m.Coherent) (c : Char) : (m.recordKey c).Coherent := by
  unfold Machine.recordKey
  split
  · exact ⟨hm.idle, hm.recording, hm.playing, hm.named, hm.within, hm.roomy⟩
  · exact hm

def Fits (n : Nat) (m : Machine) : Prop := m.Coherent ∧ m.limit = n

lemma Fits.depth_le {n : Nat} (hm : m.Fits n) : m.depth ≤ n := hm.2 ▸ hm.1.within

lemma Fits.recordKeys {n : Nat} (hm : m.Fits n) (keys : Text) :
    (keys.foldl Machine.recordKey m).Fits n := by
  induction keys generalizing m with
  | nil => exact hm
  | cons c cs ih => exact ih ⟨hm.1.recordKey c, (recordKey_limit m c).trans hm.2⟩

lemma Returns.fits {m' : Machine} {n : Nat} (hr : Returns m m') (hm : m.Fits n) : m'.Fits n :=
  ⟨hr.coherent hm.1, hr.limit.trans hm.2⟩

end Machine

namespace Control

variable {d d' : Control} {n : Nat}

lemma Within.fits (hw : Within d d') (hp : ∀ f, (d.machine.push f).Replaying)
    (hn : d.machine.limit = n) : d'.machine.Fits n := by
  obtain ⟨f, hf⟩ := hw.frame
  exact hf.fits ⟨(hp f).1, hn⟩

lemma Within.depth (hw : Within d d') : d'.machine.depth = d.machine.depth + 1 := by
  obtain ⟨f, hf⟩ := hw.frame
  rw [Machine.depth, hf.playing]
  rfl

end Control

end Macro

namespace Engine

variable {h : Host} {e : Engine} {limit room : Nat}

def Fits (limit : Nat) (e : Engine) : Prop := e.macros.machine.Fits limit

lemma Acts.fits {d d' : Control} {r : Reply} (hx : Acts d d' r) (hd : d.machine.Fits limit)
    (ha : d.machine.aborting = false) : d'.machine.Fits limit := by
  rcases hd.1.resting_or_replaying ha with hm | hm
  · cases hx with
    | kept => exact hd
    | asked => exact hd
    | started name hs hn =>
      have hmoves : d.Moves [] { d with machine := d.machine.process (.record name) } :=
        .started name hs hn
      refine ⟨(hmoves.resting hm).1, ?_⟩
      rw [Machine.process_record hs]
      exact hd.2
    | stored hs =>
      have hmoves : d.Moves [] d.store := .stored hs
      exact ⟨(hmoves.resting hm).1, hd.2⟩
    | aborted hs => rcases hm.settled.2 with hi | hi <;> simp [hs] at hi
  · exact (hx.unwound hm).1.machine.fits hd

lemma Fits.close (he : e.Fits limit) (was : Bool) (before : Mode) (keys : Text) :
    ((e.record was keys).reportMode before).Fits limit := by
  rw [Fits, reportMode_macros, record_macros]
  split
  · exact Machine.Fits.recordKeys he keys
  · exact he

def KeyTraces (h : Host) (limit room : Nat) (key : KeyFunction) : Prop :=
  ∀ (e : Engine) (c : Char) (tasks : List Task), e.Fits limit → e.macros.machine.aborting = false →
    limit ≤ e.macros.machine.depth + room →
    Trace h (Fits limit) ⟨e, .key c :: tasks⟩ ⟨(key e c).1, tasks⟩

def PlayTraces (h : Host) (limit room : Nat) (key : KeyFunction) : Prop :=
  ∀ (e : Engine) (name : Text) (times : Nat) (tasks : List Task), e.Fits limit →
    limit ≤ e.macros.machine.depth + room →
    Trace h (Fits limit) ⟨e, .play name times :: tasks⟩ ⟨(playWith h key e name times).1, tasks⟩

lemma beginPlayback_refused (hd : e.macros.machine.limit ≤ e.macros.machine.depth) (name : Text) :
    ∃ i, e.macros.beginPlayback e.interaction name = (e.macros, i, none) := by
  have hb := e.macros.beginPlayback_begins e.interaction name
  generalize e.macros.beginPlayback e.interaction name = r at hb
  cases hb with
  | refused message => exact ⟨_, rfl⟩
  | begun keys last hk ha hlt => omega

lemma played_refused (hd : e.macros.machine.limit ≤ e.macros.machine.depth) (name : Text)
    (times : Nat) (tasks : List Task) :
    ∃ i, Moment.played e name times tasks = ⟨{ e with interaction := i }, tasks⟩ := by
  unfold Moment.played
  split
  · exact ⟨_, rfl⟩
  · obtain ⟨i, hi⟩ := beginPlayback_refused hd name
    exact ⟨i, by rw [hi]⟩

lemma playTraces_zero (key : KeyFunction) : PlayTraces h limit 0 key := by
  intro e name times tasks he hd
  have hd : e.macros.machine.limit ≤ e.macros.machine.depth := he.2.symm ▸ hd
  obtain ⟨i, hi⟩ := beginPlayback_refused hd name
  have hp : Moment.next h ⟨e, .play name times :: tasks⟩ =
      ⟨(playWith h key e name times).1, tasks⟩ := by
    simp only [Moment.next, Moment.played, playWith, hi]
    split <;> rfl
  refine .step he ?_
  rw [hp]
  refine .refl ?_
  unfold playWith
  split
  · exact he
  · rw [hi]
    exact he

section playback

variable {key : KeyFunction} (hk : KeyTraces h limit room key) (hu : Unwinds key)
include hk hu

lemma replay_trace (r : Rounds) (left : Nat) (bound : Option Text) (tasks : List Task) (keys : Text)
    (e : Engine) (he : e.Fits limit) (hp : e.macros.machine.playing ≠ [])
    (hd : limit ≤ e.macros.machine.depth + room) :
    Trace h (Fits limit) ⟨e, .round r left bound keys :: tasks⟩
      ⟨(replay key e keys).1,
        if (replay key e keys).2 then tasks else .round r left bound [] :: tasks⟩ := by
  induction keys generalizing e with
  | nil => exact .refl he
  | cons c cs ih =>
    unfold replay
    by_cases ha : e.macros.machine.aborting = true
    · rw [if_pos ha]
      refine .step he ?_
      simp only [Moment.next, ha, ↓reduceIte]
      exact .refl he
    · have ha' := (Bool.not_eq_true _).mp ha
      have hm := (hu e c (he.1.replaying hp ha')).machine
      rw [if_neg ha]
      refine .step he ?_
      simp only [Moment.next, ha', Bool.false_eq_true, ↓reduceIte]
      refine (hk e c _ he ha' hd).trans (ih _ (hm.fits he) ?_ ?_)
      · rwa [hm.playing]
      · rwa [Machine.depth, hm.playing]

lemma rounds_trace {d : Control} (hp : ∀ f, (d.machine.push f).Replaying)
    (hn : d.machine.limit = limit) (hd : limit ≤ d.machine.depth + (room + 1)) (r : Rounds)
    (left : Nat) (tasks : List Task) (e : Engine) (hw : d.Within e.macros) :
    Trace h (Fits limit) ⟨e, .rounds r left :: tasks⟩
      ⟨playRounds h key r.name r.keys r.total e left, tasks⟩ := by
  induction left generalizing e with
  | zero => exact .step (hw.fits hp hn) (.refl (hw.fits hp hn))
  | succ left ih =>
    have hs : d.Within (e.setRound (r.total - left) r.total).macros := by
      rw [setRound_macros]
      exact hw.setRound _ _
    have hc := hs.coherent hp
    have hr := hs.step (replay_unwound hu r.keys _ hc.1 hc.2)
    have ht := replay_trace hk hu r left e.pending.surface tasks r.keys _ (hs.fits hp hn) hc.2
      (by rw [hs.depth]; omega)
    refine .step (hw.fits hp hn) (ht.trans ?_)
    have hb : (e.setRound (r.total - left) r.total).pending = e.pending := by
      unfold setRound
      dsimp only
      split <;> rfl
    unfold playRounds
    dsimp only
    rw [hb]
    generalize replay key (e.setRound (r.total - left) r.total) r.keys = x at hr
    obtain ⟨e', stopped⟩ := x
    cases stopped with
    | true => exact .refl (hr.fits hp hn)
    | false =>
      refine .step (hr.fits hp hn) ?_
      simp only [Bool.false_eq_true, ↓reduceIte, Moment.next, Moment.roundEnded]
      split
      · refine .refl ?_
        dsimp only
        split <;> exact hr.fits hp hn
      · exact ih e' hr

lemma playTraces_succ : PlayTraces h limit (room + 1) key := by
  intro e name times tasks he hd
  have hb := e.macros.beginPlayback_begins e.interaction name
  refine .step he ?_
  unfold playWith
  simp only [Moment.next, Moment.played]
  split
  · exact .refl he
  · generalize e.macros.beginPlayback e.interaction name = x at hb
    cases hb with
    | refused => exact .refl he
    | begun keys last _ ha hlt =>
      have hp := fun f => he.1.push ha hlt f
      let begun : Engine := Engine.sayLabel
        { e with
          macros := { e.macros with
            machine := e.macros.machine.push { name }
            registry := { e.macros.registry with last } }
          pending := e.pending.clear }
      have hw : e.macros.Within begun.macros := ⟨⟨_, .refl _⟩, rfl⟩
      have ht := rounds_trace hk hu hp he.2 hd ⟨name, keys, times⟩ times
        (.finish e.pending :: tasks) begun hw
      have hw' := playRounds_within (h := h) hu hp name keys times times begun hw
      refine ht.trans (.step (hw'.fits hp he.2) (.refl ?_))
      exact (hw'.ends he.1 ha).machine.fits he

end playback

lemma replied_trace {key : KeyFunction} (hp : PlayTraces h limit room key) (tasks : List Task)
    (x : Engine × Reply) (hx : x.1.Fits limit) (hd : limit ≤ x.1.macros.machine.depth + room) :
    Trace h (Fits limit) (Moment.replied tasks x) ⟨(settle h key x).1, tasks⟩ := by
  obtain ⟨e, acted | ⟨name, times⟩⟩ := x
  · exact .refl hx
  · exact hp e name times tasks hx hd

lemma Acts.playing {d d' : Control} {r : Reply} (hx : Acts d d' r) :
    d'.machine.playing = d.machine.playing := by
  cases hx with
  | started name hs => rw [Machine.process_record hs]
  | kept => rfl
  | asked => rfl
  | stored => rfl
  | aborted => rfl

lemma keyWith_traces {inner : KeyFunction} (hp : PlayTraces h limit room inner) :
    KeyTraces h limit room (keyWith h inner) := by
  intro e c tasks he ha hd
  have hx := stroke_acts e h c
  have ht := replied_trace hp (.close e.macros.machine.isRecording e.mode (fun _ => [c]) :: tasks)
    (e.stroke h c) (hx.fits he ha) (by rwa [Machine.depth, hx.playing])
  exact .step he (ht.trans (.step ht.last (.refl (ht.last.close ..))))

/-- By induction on the room below the limit. A key that has `room` levels below it starts
playbacks whose keys have one level less. -/
theorem keyAt_traces (h : Host) (limit room : Nat) : KeyTraces h limit room (keyAt h room) := by
  induction room with
  | zero => exact keyWith_traces (playTraces_zero _)
  | succ room ih => exact keyWith_traces (playTraces_succ ih (keyAt_unwinds h room))

lemma keyAt_playTraces (h : Host) (limit room : Nat) :
    PlayTraces h limit (room + 1) (keyAt h room) :=
  playTraces_succ (keyAt_traces h limit room) (keyAt_unwinds h room)

lemma key_trace (hm : e.macros.machine.Resting) (hn : e.macros.machine.limit = limit) (h : Host)
    (c : Char) (tasks : List Task) :
    Trace h (Fits limit) ⟨e, .key c :: tasks⟩ ⟨(e.key h c).1, tasks⟩ := by
  unfold key
  rw [hn]
  exact keyAt_traces h limit limit e c tasks ⟨hm.1, hn⟩ hm.settled.1 (Nat.le_add_left ..)

lemma type_trace (h : Host) (keys : Text) (hm : e.macros.machine.Resting)
    (hn : e.macros.machine.limit = limit) :
    Trace h (Fits limit) ⟨e, keys.map .key⟩ ⟨(e.type h keys).1, []⟩ := by
  induction keys generalizing e with
  | nil => exact .refl ⟨hm.1, hn⟩
  | cons c cs ih =>
    have ht := key_trace hm hn h c (cs.map .key)
    rw [type_cons]
    exact ht.trans (ih ((key_moves hm h c).resting hm) ht.last.2)

lemma runWhole_trace (hm : e.macros.machine.Resting) (hn : e.macros.machine.limit = limit)
    (h : Host) (body : Text) :
    Trace h (Fits limit) ⟨e, [.whole body]⟩ ⟨(e.runWhole h body).1, []⟩ := by
  have hx := wholeStroke_acts e h body
  have he : e.Fits limit := ⟨hm.1, hn⟩
  have ht := replied_trace (keyAt_playTraces h limit limit)
    [.close e.macros.machine.isRecording e.mode (recordable · body)] (e.wholeStroke h body)
    (hx.fits he hm.settled.1) (by omega)
  unfold runWhole
  rw [hn]
  exact .step he (ht.trans (.step ht.last (.refl (ht.last.close ..))))

theorem perform_trace (hm : e.macros.machine.Resting) (hn : e.macros.machine.limit = limit)
    (h : Host) (call : Call) :
    Trace h (Fits limit) (.start e call) ⟨(e.perform h call).1, []⟩ := by
  have he : e.Fits limit := ⟨hm.1, hn⟩
  cases call with
  | key c => exact key_trace hm hn h c []
  | command t =>
    simp only [Moment.start, perform, command]
    split
    · exact runWhole_trace hm hn h _
    · exact type_trace h t hm hn
  | playback name times =>
    simp only [Moment.start, perform, playback]
    rw [hn]
    exact keyAt_playTraces h limit limit e name times [] he (by omega)
  | escape =>
    refine .step he (.refl ?_)
    rw [Moment.start, Moment.next, Fits, escape_macros]
    exact he

inductive Reaches (e : Engine) : Engine → Prop
  | refl : e.Reaches e
  | perform {e'} (h : Host) (call : Call) : e.Reaches e' → e.Reaches (e'.perform h call).1
  | surrounded {e'} (surface : Option Text) (workspace : Workspace) (registry : Macro.Registry)
      (interaction : Interaction) :
      e.Reaches e' → e.Reaches (e'.surrounded surface workspace registry interaction)

namespace Reaches

variable {e' : Engine}

lemma reachable (hr : e.Reaches e') (he : e.Reachable) : e'.Reachable := by
  induction hr with
  | refl => exact he
  | perform h call _ ih => exact ih.perform h call
  | surrounded _ _ _ _ _ ih => exact ih.surrounded ..

lemma same_limit (hr : e.Reaches e') (he : e.Reachable) :
    e'.macros.machine.limit = e.macros.machine.limit := by
  induction hr with
  | refl => rfl
  | perform h call hr ih => exact (perform_trace (hr.reachable he).resting ih h call).last.2
  | surrounded _ _ _ _ _ ih => exact ih

end Reaches

/-- A call on `e` comes to an end, or else to a cut within a character, at which it fails. It does
not fail as long as the cursor and the selection are in order. On the way at most `bound` playbacks
are active, and nothing is edited or recorded by one more that is asked for. -/
structure ComesBack (h : Host) (bound : Nat) (e : Engine) (call : Call) : Prop where
  ends : ∃ n, (Moment.start e call).run? h n = some ⟨(e.perform h call).1, []⟩ ∨
    (Moment.start e call).run? h n = none
  unfailing : (∀ n, ∀ m ∈ (Moment.start e call).run? h n, m.Firm) →
    ∃ n, (Moment.start e call).run? h n = some ⟨(e.perform h call).1, []⟩
  bounded n : ∀ m ∈ (Moment.start e call).run? h n, m.engine.macros.machine.depth ≤ bound
  refused n name times tasks : ∀ m ∈ (Moment.start e call).run? h n,
    m.tasks = .play name times :: tasks → bound ≤ m.engine.macros.machine.depth →
      ∃ i, m.next? h = some ⟨{ m.engine with interaction := i }, tasks⟩

theorem Reaches.comes_back {surface : Option Text} {workspace : Workspace}
    {registry : Macro.Registry} {config : Config} {interaction : Interaction}
    (he : (Engine.new surface workspace registry config interaction).Reaches e) (h : Host)
    (call : Call) : ComesBack h (max 1 config.maxDepth) e call := by
  have hm := (he.reachable (.new ..)).resting
  have hn : e.macros.machine.limit = max 1 config.maxDepth := he.same_limit (.new ..)
  obtain ⟨⟨n, hend⟩, hall⟩ := (perform_trace hm hn h call).iterate rfl
  have hends := (Moment.start e call).run?_cases h n
  rw [hend] at hends
  refine ⟨⟨n, hends⟩, fun hfirm => ⟨n, hends.resolve_right ?_⟩, fun n m hr => ?_,
    fun n name times tasks m hr ht hd => ?_⟩
  · exact Option.isSome_iff_ne_none.mp (Moment.run?_of_firm hfirm n)
  · rw [Moment.eq_of_run? hr]
    exact (hall n).depth_le
  · have hf := hall n
    rw [← Moment.eq_of_run? hr] at hf
    obtain ⟨e', _⟩ := m
    subst ht
    obtain ⟨i, hi⟩ := played_refused (hf.2.le.trans hd) name times tasks
    exact ⟨i, congrArg some hi⟩

theorem self_playing_comes_back :
    let config : Config := { maxDepth := 2 }
    let e := Engine.new (some "a".toList) (({} : Workspace).insert "a".toList [])
      (Macro.Registry.set {} "r".toList "ix\x1b2@r".toList) config {}
    ComesBack {} (max 1 config.maxDepth) e (.command "3@r".toList) ∧
      ((Moment.start e (.command "3@r".toList)).run? {} 200).map
        (fun m => (m.engine.surface?.map fun s => String.ofList s.text, m.tasks.length)) =
          some (some "xxxxxxxxx", 0) := by
  refine ⟨?_, by decide +kernel⟩
  exact Reaches.comes_back .refl {} _

example :
    let e := ((sample (String.ofList ['ɐ', 'é']) []).key {} '~').1
    ((Moment.start e (.key 'w')).next? {}).isNone = true := by
  decide +kernel

end Engine

end ModalEdit
