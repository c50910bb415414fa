import ModalEdit.Proofs.CallLog

/-! A playback does what typing the keys does. Two engines run in lockstep, one that is typed to
with an idle machine and one that replays: no key but a command about macros can tell them apart. -/

namespace ModalEdit

open Macro (Control Machine Outcome)

def Notice.isStatus : Notice → Bool
  | .status .. => true
  | _ => false

def Interaction.log (i : Interaction) : List Notice := i.notices.filter fun n => !n.isStatus

def Interaction.Agrees (i j : Interaction) : Prop := i.dialog = j.dialog ∧ i.log = j.log

namespace Interaction.Agrees

variable {i j : Interaction}

lemma note (h : Agrees i j) (n : Notice) : Agrees (i.note n) (j.note n) := by
  refine ⟨h.1, ?_⟩
  simp only [Interaction.log, Interaction.note, List.filter_cons]
  split
  · exact congrArg _ h.2
  · exact h.2

lemma say_right (h : Agrees i j) (pane text : Text) : Agrees i (j.say pane text) :=
  ⟨h.1, h.2⟩

lemma askChoice (h : Agrees i j) (title : Text) (choices : List Text) :
    Agrees (i.askChoice title choices).1 (j.askChoice title choices).1 ∧
      (i.askChoice title choices).2 = (j.askChoice title choices).2 := by
  have hn : Agrees (i.noteAsked (.askedChoice title choices))
      (j.noteAsked (.askedChoice title choices)) := by
    unfold Interaction.noteAsked
    rw [← h.1]
    split
    · exact h
    · exact h.note _
  unfold Interaction.askChoice
  rw [← h.1]
  exact ⟨⟨rfl, hn.2⟩, rfl⟩

end Interaction.Agrees

def Macro.Outcome.isDone : Outcome → Bool
  | .done .. => true
  | _ => false

namespace Macro.Control

structure SameNames (d d' : Control) : Prop where
  macros : d'.registry.macros = d.registry.macros
  variableTable : d'.registry.variableTable = d.registry.variableTable
  pane : d'.pane = d.pane

def Alike (x y : Step) : Prop := x.2.1.Agrees y.2.1 ∧ x.2.2 = y.2.2

section read

variable {d d' : Control} (hd : SameNames d d') {i j : Interaction} (hi : i.Agrees j)
include hd hi

lemma resolve_alike (name : Text) (k times : Nat) :
    Alike (d.resolve i name k times) (d'.resolve j name k times) := by
  have hr : d'.registry.isRecorded name = d.registry.isRecorded name := by
    unfold Registry.isRecorded
    rw [hd.macros]
  have hv : d'.registry.isVariable name = d.registry.isVariable name := by
    unfold Registry.isVariable
    rw [hd.variableTable]
  unfold resolve say
  rw [hr, hv, hd.pane]
  split_ifs
  · exact ⟨hi, rfl⟩
  · exact ⟨hi, rfl⟩
  · exact ⟨hi.note _, rfl⟩

lemma choose_alike (choices : List Text) (k times : Nat) :
    Alike (d.choose i choices k times) (d'.choose j choices k times) := by
  unfold choose say
  rw [hd.pane]
  split
  · exact ⟨hi.note _, rfl⟩
  · obtain ⟨ha, hn⟩ := hi.askChoice "Select Macro".toList choices
    generalize i.askChoice "Select Macro".toList choices = x at ha hn
    generalize j.askChoice "Select Macro".toList choices = y at ha hn
    obtain ⟨i', name⟩ := x
    obtain ⟨j', name'⟩ := y
    obtain rfl : name = name' := hn
    cases name with
    | none => exact ⟨ha, rfl⟩
    | some name => exact resolve_alike hd ha name k times

lemma search_alike (start : Text) (k times : Nat) (complete : Bool) :
    Alike (d.search i start k times complete) (d'.search j start k times complete) := by
  have hc : d'.registry.candidates start = d.registry.candidates start := by
    unfold Registry.candidates Registry.names
    rw [hd.macros, hd.variableTable]
  unfold search say
  rw [hc, hd.pane]
  split
  · exact ⟨hi.note _, rfl⟩
  · exact resolve_alike hd (hi.note _) _ k times
  · split_ifs
    · exact resolve_alike hd hi _ k times
    · exact choose_alike hd (hi.note _) _ k times
    · exact ⟨hi.note _, rfl⟩

lemma readPlayback_alike {rest : Text} (hr : rest ≠ ['@']) (k times : Nat) (complete : Bool) :
    Alike (d.readPlayback i rest k times complete) (d'.readPlayback j rest k times complete) := by
  unfold readPlayback
  dsimp only
  rw [hd.macros, if_neg hr, if_neg hr]
  split_ifs
  · exact choose_alike hd hi _ k times
  · exact ⟨hi, rfl⟩
  · exact resolve_alike hd hi _ k times
  · unfold say
    rw [hd.pane]
    exact ⟨hi.note _, rfl⟩
  · exact ⟨hi, rfl⟩
  · exact search_alike hd hi rest k times complete

end read

lemma readRecord_alike {d d' : Control} (hs : d.machine.state = .idle)
    (hs' : d'.machine.state = .playing) {i j : Interaction} {name : Text} {k : Nat} {complete : Bool}
    (ho : (d.readRecord i name k complete).2.2 = .incomplete) :
    d.readRecord i name k complete = (d, i, .incomplete) ∧
      d'.readRecord j name k complete = (d', j, .incomplete) := by
  obtain rfl := readRecord_incomplete ho
  cases complete with
  | false => simp [readRecord, hs, hs']
  | true =>
    simp only [readRecord, hs] at ho
    generalize i.askText "Enter Macro".toList [] = x at ho
    obtain ⟨i', name⟩ := x
    cases name with
    | none => cases ho
    | some name => exact absurd ho (startRecording_ne_incomplete i' name k)

/-- A command about macros is carried out: it has found its macro or variable, or it is a complete
`q`, or it is `@@`. -/
def Runs (body : Text) (o : Outcome) : Prop :=
  o.isDone = true ∨ o ≠ .incomplete ∧ body.head? = some 'q' ∨ body = ['@', '@']

instance (body : Text) (o : Outcome) : Decidable (Runs body o) :=
  inferInstanceAs (Decidable (_ ∨ _ ∧ _ ∨ _))

lemma read_alike {d d' : Control} (hd : SameNames d d') {i j : Interaction} (hi : i.Agrees j)
    (hs : d.machine.state = .idle) (hs' : d'.machine.state = .playing) {body : Text}
    {complete : Bool} {times : Nat} (hr : ¬Runs body (d.read i body complete times).2.2) :
    (d.read i body complete times).1 = d ∧ (d'.read j body complete times).1 = d' ∧
      Alike (d.read i body complete times) (d'.read j body complete times) := by
  simp only [Runs, not_or, not_and_or, not_not] at hr
  obtain ⟨-, hq, hl⟩ := hr
  -- a `q` sees the state of the machine and `@@` the last macro; nothing else tells the two apart
  unfold read at hq ⊢
  split
  · exact ⟨rfl, rfl, hi, rfl⟩
  · rename_i ht
    rw [if_neg ht] at hq
    split
    · exact ⟨rfl, rfl, hi, rfl⟩
    · obtain ⟨hx, hy⟩ := readRecord_alike (j := j) hs hs' (hq.resolve_right (by simp))
      rw [hx, hy]
      exact ⟨rfl, rfl, hi, rfl⟩
    · rename_i rest
      have hn : rest ≠ ['@'] := fun h => hl (by rw [h])
      exact ⟨readPlayback_macros .., readPlayback_macros .., readPlayback_alike hd hi hn _ _ _⟩
    · exact ⟨rfl, rfl, hi, rfl⟩

end Macro.Control

namespace Engine

structure Tracks (a b : Engine) : Prop where
  alike : Alike a b
  variableTable : b.macros.registry.variableTable = a.macros.registry.variableTable
  agrees : a.interaction.Agrees b.interaction
  idle : a.macros.machine.state = .idle
  playing : b.macros.machine.state = .playing
  going : b.macros.machine.aborting = false

lemma Tracks.sameNames {a b : Engine} (h : Tracks a b) : a.macros.SameNames b.macros :=
  ⟨h.alike.macros.symm, h.variableTable, h.alike.pane.symm⟩

lemma Alike.extend {a b : Engine} (h : Alike a b) (c : Char) : Alike (a.extend c) (b.extend c) :=
  ⟨h.mode, congrArg (·.append [c]) h.pending, h.workspace, h.typing, h.lastPattern, h.pane,
    h.macros⟩

lemma Tracks.noted {a b : Engine} (h : Tracks a b) (n : Notice) : Tracks (a.noted n) (b.noted n) :=
  ⟨{ h.alike with }, h.2, h.3.note n, h.4, h.5, h.6⟩

lemma tracks_congruence : KeyCongruence Tracks where
  alike h := h.alike
  mode _ h := ⟨{ h.alike with mode := rfl }, h.2, h.3, h.4, h.5, h.6⟩
  clearPending h := ⟨{ h.alike with pending := congrArg Pending.clear h.alike.pending },
    h.2, h.3, h.4, h.5, h.6⟩
  bind s h := ⟨{ h.alike with pending := congrArg (·.bind s) h.alike.pending },
    h.2, h.3, h.4, h.5, h.6⟩
  workspace _ h := ⟨{ h.alike with workspace := rfl }, h.2, h.3, h.4, h.5, h.6⟩
  typing _ h := ⟨{ h.alike with typing := rfl }, h.2, h.3, h.4, h.5, h.6⟩
  lastPattern _ h := ⟨{ h.alike with lastPattern := rfl }, h.2, h.3, h.4, h.5, h.6⟩
  noted _ h := h.noted _
  extend c h := ⟨h.alike.extend c, h.2, h.3, h.4, h.5, h.6⟩
  takeBack h := ⟨{ h.alike with pending := congrArg Pending.pop h.alike.pending },
    h.2, h.3, h.4, h.5, h.6⟩

lemma Tracks.reportMode {a b : Engine} (h : Tracks a b) (before : Mode) :
    Tracks (a.reportMode before) (b.reportMode before) := by
  obtain ⟨d, r, i, rfl⟩ := tracks_congruence.exists_beside h
  unfold Engine.reportMode
  rw [beside_mode]
  split
  · exact h
  · exact h.noted (.status modePane a.mode.label.toList)

/-- The key carries out a command about macros. -/
def RunsMacro (e : Engine) (c : Char) : Prop :=
  ∃ r ∈ e.reads? c, Control.Runs r.1 (e.macros.read e.interaction r.1 (isEnter c) r.2).2.2

instance (e : Engine) (c : Char) : Decidable (e.RunsMacro c) :=
  inferInstanceAs (Decidable (∃ r ∈ e.reads? c, _))

lemma Tracks.interaction {a b : Engine} (h : Tracks a b) {i j : Interaction} (hi : i.Agrees j) :
    Tracks { a with interaction := i } { b with interaction := j } :=
  ⟨{ h.alike with }, h.2, hi, h.4, h.5, h.6⟩

lemma runMacro_tracks {a b : Engine} (hab : Tracks a b) (h : Host) {body : Text} {times : Nat}
    {complete : Bool}
    (hr : ¬Control.Runs body (a.macros.read a.interaction body complete times).2.2) :
    PlainStep Tracks (a.runMacro h body times complete) (b.runMacro h body times complete) := by
  obtain ⟨hx, hy, hi, ho⟩ := Control.read_alike hab.sameNames hab.agrees hab.idle hab.playing hr
  unfold runMacro
  generalize a.macros.read a.interaction body complete times = x at hx hi ho hr
  generalize b.macros.read b.interaction body complete times = y at hy hi ho
  obtain ⟨d, i, o⟩ := x
  obtain ⟨d', j, o'⟩ := y
  obtain rfl : d = a.macros := hx
  obtain rfl : d' = b.macros := hy
  obtain rfl : o = o' := ho
  have hk := hab.interaction hi
  have hc := tracks_congruence.clearPending hk
  cases o with
  | incomplete =>
    cases complete with
    | false => exact ⟨⟨hk, rfl⟩, rfl⟩
    | true => exact ⟨⟨hc, rfl⟩, rfl⟩
  | ignored => exact ⟨⟨hc, rfl⟩, rfl⟩
  | cancelled => exact ⟨⟨hc, rfl⟩, rfl⟩
  | notFound => exact ⟨⟨hc, rfl⟩, rfl⟩
  | done => exact absurd (.inl rfl) hr

theorem stroke_tracks {a b : Engine} (hab : Tracks a b) (h : Host) {c : Char}
    (hr : ¬a.RunsMacro c) : PlainStep Tracks (a.stroke h c) (b.stroke h c) := by
  cases ha : a.reads? c with
  | none => exact stroke_plain tracks_congruence hab ha h
  | some r =>
    obtain ⟨body, times⟩ := r
    have hb : b.reads? c = some (body, times) := by
      rw [← ha]
      unfold reads?
      rw [hab.alike.mode, hab.alike.pending]
    rw [stroke_of_reads ha h, stroke_of_reads hb h]
    have hn : ¬Control.Runs body (a.macros.read a.interaction body (isEnter c) times).2.2 :=
      fun hn => hr ⟨(body, times), ha, hn⟩
    unfold reader
    split
    · exact runMacro_tracks hab h hn
    · exact runMacro_tracks (tracks_congruence.extend c hab) h hn

lemma keyWith_tracks {a b : Engine} (hab : Tracks a b) (h : Host) {c : Char}
    (hr : ¬a.RunsMacro c) (inner inner' : KeyFunction) :
    Tracks (keyWith h inner a c).1 (keyWith h inner' b c).1 := by
  obtain ⟨⟨hs, ho⟩, hn⟩ := stroke_tracks hab h hr
  have ha : a.macros.machine.isRecording = false := by simp [Machine.isRecording, hab.idle]
  have hb : b.macros.machine.isRecording = false := by simp [Machine.isRecording, hab.playing]
  unfold keyWith record
  rw [ha, hb, hab.alike.mode]
  generalize a.stroke h c = x at hs ho hn
  generalize b.stroke h c = y at hs ho
  obtain ⟨a', r⟩ := x
  obtain ⟨b', r'⟩ := y
  obtain rfl : r = r' := ho
  cases r with
  | play => cases hn
  | handled => exact hs.reportMode b.mode

lemma key_tracks {a b : Engine} (hab : Tracks a b) (h : Host) {c : Char} (hr : ¬a.RunsMacro c)
    (depth : Nat) : Tracks (a.key h c).1 (keyAt h depth b c).1 := by
  obtain ⟨inner, -, hi⟩ := keyAt_eq h a.macros.machine.limit
  obtain ⟨inner', -, hi'⟩ := keyAt_eq h depth
  rw [key, hi, hi']
  exact keyWith_tracks hab h hr inner inner'

/-- The key neither carries out a command about macros nor turns to another surface. -/
def Stays (h : Host) (e : Engine) (c : Char) : Prop :=
  ¬e.RunsMacro c ∧ (e.key h c).1.pending.surface = e.pending.surface

instance (h : Host) (e : Engine) (c : Char) : Decidable (Stays h e c) :=
  inferInstanceAs (Decidable (_ ∧ _))

lemma type_surface {h : Host} {e : Engine} {keys : Text} (hk : Along h (Stays h) e keys) :
    (e.type h keys).1.pending.surface = e.pending.surface := by
  induction keys generalizing e with
  | nil => rfl
  | cons c cs ih =>
    rw [type_cons, ih hk.2]
    exact hk.1.2

lemma replay_tracks {h : Host} {keys : Text} {a b : Engine} (hab : Tracks a b)
    (hk : Along h (Stays h) a keys) (depth : Nat) :
    Tracks (a.type h keys).1 (replay (keyAt h depth) b keys).1 ∧
      (replay (keyAt h depth) b keys).2 = false := by
  induction keys generalizing a b with
  | nil => exact ⟨hab, rfl⟩
  | cons c cs ih =>
    rw [type_cons]
    unfold replay
    rw [hab.going, if_neg Bool.false_ne_true]
    exact ih (key_tracks hab h hk.1.1 depth) hk.2

lemma Tracks.sayLabel {a b : Engine} (hab : Tracks a b) : Tracks a b.sayLabel :=
  ⟨{ hab.alike with }, hab.2, hab.3.say_right _ _, hab.4, hab.5, hab.6⟩

lemma Tracks.setRound {a b : Engine} (hab : Tracks a b) (round rounds : Nat) :
    Tracks a (b.setRound round rounds) := by
  have hs : Tracks a { b with
      macros := { b.macros with machine := b.macros.machine.setRound round rounds } } :=
    ⟨{ hab.alike with }, hab.2, hab.3, hab.4, by simpa using hab.5, by simpa using hab.6⟩
  unfold Engine.setRound
  dsimp only
  split
  · exact hs.sayLabel
  · exact hs

lemma playRounds_tracks {h : Host} (name keys : Text) (rounds left : Nat) {a b : Engine}
    (hab : Tracks a b) (hk : Along h (Stays h) a (copies left keys)) (depth : Nat) :
    Tracks (a.type h (copies left keys)).1
      (playRounds h (keyAt h depth) name keys rounds b left) := by
  -- on the rounds to come; what a round leaves pending is where the next one begins
  induction left generalizing a b with
  | zero => exact hab
  | succ left ih =>
    rw [copies_succ] at hk ⊢
    obtain ⟨hk, hks⟩ := (along_append ..).mp hk
    have hs := hab.setRound (rounds - left) rounds
    obtain ⟨hr, hf⟩ := replay_tracks hs hk depth
    have hbound : (replay (keyAt h depth) (b.setRound (rounds - left) rounds) keys).1.pending.surface
        = (b.setRound (rounds - left) rounds).pending.surface := by
      rw [← hr.alike.pending, type_surface hk, hs.alike.pending]
    rw [type_append]
    unfold playRounds
    dsimp only
    generalize replay (keyAt h depth) (b.setRound (rounds - left) rounds) keys = x at hr hf hbound
    obtain ⟨b', stopped⟩ := x
    obtain rfl : stopped = false := hf
    dsimp only at hbound ⊢
    rw [if_neg (fun hn => hn.1 hbound)]
    exact ih hr hks

lemma beginPlayback_resting {d : Control} (hm : d.machine.Resting) {name keys : Text}
    (hk : d.registry.get? name = some keys) (i : Interaction) :
    d.beginPlayback i name =
      ({ d with machine := d.machine.push { name }, registry := d.registry.setLast name }, i,
        some keys) := by
  have hd : d.machine.depth = 0 := congrArg List.length hm.2
  have hp : d.machine.process? (.play name) = some (d.machine.push { name }) := by
    rw [Machine.process?_play, hm.settled.1, hd]
    simp [Nat.pos_iff_ne_zero.mp hm.1.roomy]
  have hdepth : (d.machine.push { name }).depth = 1 := congrArg (· + 1) hd
  simp only [Control.beginPlayback, hk, hp, hdepth, ↓reduceIte]

def starting (e : Engine) (name : Text) : Engine :=
  Engine.sayLabel
    { e with
      macros := { e.macros with
        machine := e.macros.machine.push { name }
        registry := e.macros.registry.setLast name }
      pending := e.pending.clear }

lemma starting_tracks {e : Engine} (hm : e.macros.machine.Resting)
    (hs : e.macros.machine.state = .idle) (name : Text) :
    Tracks e.clearPending (e.starting name) := by
  refine Tracks.sayLabel ⟨⟨rfl, rfl, rfl, rfl, rfl, rfl, rfl⟩, rfl, ⟨rfl, rfl⟩, hs, ?_,
    hm.settled.1⟩
  simp [Machine.push, Machine.State.playing, hs]

lemma playback_of_resting {e : Engine} (hm : e.macros.machine.Resting) {name keys : Text}
    (hk : e.macros.registry.get? name = some keys) {n : Nat} (hn : n ≠ 0) (h : Host) :
    let after := playRounds h (keyAt h e.macros.machine.limit) name keys n (e.starting name) n
    e.playback h name n =
      ({ after with macros := after.macros.endPlayback, pending := e.pending }.sayLabel,
        !after.macros.machine.aborting) := by
  unfold playback playWith
  rw [if_neg hn, beginPlayback_resting hm hk]
  rfl

/-- Playing a macro does what typing its keys does, unless a key carries out a command about macros
or turns to another surface. -/
theorem Reachable.playback_eq_type {e : Engine} (he : e.Reachable)
    (hs : e.macros.machine.state = .idle) {name keys : Text}
    (hk : e.macros.registry.get? name = some keys) {n : Nat} (hn : 1 ≤ n) (h : Host)
    (hstays : Along h (Stays h) e.clearPending (copies n keys)) :
    let typed := (e.clearPending.type h (copies n keys)).1
    let played := (e.playback h name n).1
    (e.playback h name n).2 = true ∧ played.surface? = typed.surface? ∧
      played.workspace = typed.workspace ∧ played.mode = typed.mode ∧
      played.typing = typed.typing ∧ played.lastPattern = typed.lastPattern ∧
      played.interaction.log = typed.interaction.log ∧
      played.interaction.dialog = typed.interaction.dialog ∧
      played.macros.machine = e.macros.machine ∧ played.macros.machine.state = .idle ∧
      played.pending = e.pending := by
  have hm := he.resting
  have hback := (playback_macros hm h name n).1
  have hpending : (e.playback h name n).1.pending = e.pending := playWith_pending ..
  have ht := playRounds_tracks name keys n n (starting_tracks hm hs name) hstays
    e.macros.machine.limit
  have hplay := playback_of_resting hm hk (Nat.one_le_iff_ne_zero.mp hn) h
  have hsurface := type_surface hstays
  generalize playRounds h (keyAt h e.macros.machine.limit) name keys n (e.starting name) n = after
    at ht hplay
  have hworkspace : (e.playback h name n).1.workspace =
      (e.clearPending.type h (copies n keys)).1.workspace := by
    rw [hplay]
    exact ht.alike.workspace.symm
  refine ⟨?_, ?_, hworkspace, ?_, ?_, ?_, ?_, ?_, hback, ?_, hpending⟩
  · rw [hplay, ht.going]
    rfl
  · unfold surface?
    rw [hworkspace, hpending, hsurface]
    rfl
  · rw [hplay]
    exact ht.alike.mode.symm
  · rw [hplay]
    exact ht.alike.typing.symm
  · rw [hplay]
    exact ht.alike.lastPattern.symm
  · rw [hplay]
    exact ht.agrees.2.symm
  · rw [hplay]
    exact ht.agrees.1.symm
  · rw [hback, hs]

theorem sample_playback_eq_type :
    let e := ((sample "abc def" [("b", "xie\x1b2")]).key {} '3').1
    (e.playback {} ['b'] 2).2 = true ∧
      (e.playback {} ['b'] 2).1.surface?.map (·.text) = some "ec def".toList ∧
      (e.playback {} ['b'] 2).1.pending.text = ['3'] := by
  have he := (sample_reachable "abc def" [("b", "xie\x1b2")]).key {} '3'
  have hk : ((sample "abc def" [("b", "xie\x1b2")]).key {} '3').1.macros.registry.get? ['b'] =
      some "xie\x1b2".toList := by decide +kernel
  obtain ⟨hc, hs, -, -, -, -, -, -, -, -, hp⟩ := Reachable.playback_eq_type he
    (by decide +kernel) hk (n := 2) (by decide) {} (by decide +kernel)
  refine ⟨hc, ?_, ?_⟩
  · rw [hs]
    decide +kernel
  · rw [hp]
    decide +kernel

end Engine

end ModalEdit
