import ModalEdit.Engine.Playback
import ModalEdit.Proofs.CommandCongruence
import ModalEdit.Proofs.MacroCommands
import ModalEdit.Proofs.Prefix

namespace ModalEdit

def Reply.isPlay : Reply → Bool
  | .play .. => true
  | .handled _ => false

namespace Engine

def reads? (e : Engine) (c : Char) : Option (Text × Nat) :=
  if e.mode.isInsert then none
  else if c = escapeKey then none
  else if e.pending.kind.isLine then none
  else if isEnter c then macroBody? e.pending.text
  else if isErasing c && !e.pending.text.isEmpty then none
  else macroBody? (e.pending.text ++ [c])

def reader (e : Engine) (c : Char) : Engine := if isEnter c then e else e.extend c

@[simp] lemma reader_macros (e : Engine) (c : Char) : (e.reader c).macros = e.macros := by
  unfold reader
  split <;> rfl

@[simp] lemma reader_interaction (e : Engine) (c : Char) :
    (e.reader c).interaction = e.interaction := by
  unfold reader
  split <;> rfl

@[simp] lemma reader_resolved (e : Engine) (c : Char) : (e.reader c).resolved = e.resolved := by
  unfold reader
  split <;> rfl

lemma runPending_of_body {e : Engine} {body : Text} {times : Nat}
    (hb : macroBody? e.pending.text = some (body, times)) (h : Host) (complete : Bool) :
    e.runPending h complete = e.runMacro h body times complete := by
  unfold macroBody? at hb
  unfold runPending
  split at hb
  · cases hb
  · rename_i p b hs
    split at hb
    · rename_i hm
      cases hb
      simp only [hs, hm, ↓reduceIte]
    · cases hb

theorem stroke_of_reads {e : Engine} {c : Char} {body : Text} {times : Nat}
    (hr : e.reads? c = some (body, times)) (h : Host) :
    e.stroke h c = (e.reader c).runMacro h body times (isEnter c) := by
  unfold reads? at hr
  split_ifs at hr with hi he hl hc hx
  · have hp : e.pendingIsMacro = true := by
      rw [pendingIsMacro, any_isMacroBody, hr]
      rfl
    simp only [stroke, commandKey, enterKey, reader, hi, he, hl, hc, hp, ↓reduceIte,
      Bool.false_eq_true]
    exact runPending_of_body hr h true
  · have hk : (e.extend c).pending.kind.isLine = false := by
      cases hk : (e.extend c).pending.kind.isLine with
      | false => rfl
      | true =>
        rw [macroBody?_of_isLine (t := e.pending.text ++ [c]) hk] at hr
        cases hr
    simp only [stroke, commandKey, reader, hi, he, hl, hc, hx, hk, ↓reduceIte, Bool.false_eq_true]
    exact runPending_of_body (e := e.extend c) hr h false

section plain

variable {R : Engine → Engine → Prop} (hR : Congruence R) {a b : Engine} (hab : R a b)
include hR hab

def PlainStep (R : Engine → Engine → Prop) (x y : Engine × Reply) : Prop :=
  Both R x y ∧ x.2.isPlay = false

omit hR hab in
lemma PlainStep.handle {x y : Engine × Bool} (h : Both R x y) :
    PlainStep R (Engine.handle x) (Engine.handle y) :=
  ⟨⟨h.1, congrArg Reply.handled h.2⟩, rfl⟩

omit hR hab in
lemma PlainStep.ite {x x' y y' : Engine × Reply} {p : Prop} [Decidable p]
    (hx : p → PlainStep R x y) (hx' : ¬p → PlainStep R x' y') :
    PlainStep R (if p then x else x') (if p then y else y') := by
  by_cases hp : p
  · rw [if_pos hp, if_pos hp]
    exact hx hp
  · rw [if_neg hp, if_neg hp]
    exact hx' hp

lemma runPending_plain (hn : macroBody? a.pending.text = none) (h : Host) (complete : Bool) :
    PlainStep R (a.runPending h complete) (b.runPending h complete) := by
  have hp := (hR.alike hab).pending
  have hm := (hR.alike hab).mode
  unfold macroBody? at hn
  unfold runPending
  rw [← hp, ← hm]
  dsimp only
  split
  · exact ⟨⟨hab, rfl⟩, rfl⟩
  · rename_i p body hs
    rw [hs] at hn
    have hb : ¬isMacroBody body = true := by
      intro hb
      simp [hb] at hn
    rw [if_neg hb, if_neg hb]
    split
    · refine ⟨⟨?_, rfl⟩, rfl⟩
      cases complete with
      | false => exact hab
      | true => exact hR.clearPending hab
    · exact ⟨⟨hR.clearPending hab, rfl⟩, rfl⟩
    · obtain ⟨hx, he⟩ := hR.execute (hR.clearPending hab) h a.pending.text ‹_›
      exact ⟨⟨hx, congrArg Reply.handled he⟩, rfl⟩

end plain

section key

variable {R : Engine → Engine → Prop} (hR : KeyCongruence R) {a b : Engine} (hab : R a b)
include hR hab

lemma lineKey_plain (h : Host) (c : Char) : Both R (a.lineKey h c) (b.lineKey h c) :=
  .ite (fun _ => hR.finishLine hab h) fun _ =>
    .ite (fun _ => ⟨hR.takeBack hab, rfl⟩) fun _ => ⟨hR.extend c hab, rfl⟩

theorem stroke_plain {c : Char} (hn : a.reads? c = none) (h : Host) :
    PlainStep R (a.stroke h c) (b.stroke h c) := by
  have hp := (hR.alike hab).pending
  unfold reads? at hn
  unfold stroke
  rw [← (hR.alike hab).mode]
  refine .ite (fun _ => .handle (hR.insertKey hab c)) fun hi => ?_
  rw [if_neg hi] at hn
  unfold commandKey
  rw [← hp]
  dsimp only
  refine .ite (fun _ => .ite (fun _ => .handle (hR.escapeMode hab))
    fun _ => ⟨⟨hR.clearPending hab, rfl⟩, rfl⟩) fun he => ?_
  rw [if_neg he] at hn
  refine .ite (fun _ => .handle (lineKey_plain hR hab h c)) fun hl => ?_
  rw [if_neg hl] at hn
  refine .ite (fun hc => ?_) fun hc => ?_
  · rw [if_pos hc] at hn
    have hm : ∀ e : Engine, e.pending = a.pending → e.pendingIsMacro = false := by
      intro e he
      rw [pendingIsMacro, any_isMacroBody, he, hn]
      rfl
    unfold enterKey
    rw [hm a rfl, hm b hp.symm, ← hp]
    simp only [Bool.false_eq_true, ↓reduceIte]
    exact .ite (fun _ => .handle (hR.nextLine hab)) fun _ => ⟨⟨hR.clearPending hab, rfl⟩, rfl⟩
  · rw [if_neg hc] at hn
    refine .ite (fun _ => ⟨⟨hR.takeBack hab, rfl⟩, rfl⟩) fun hx => ?_
    rw [if_neg hx] at hn
    have hab' := hR.extend c hab
    rw [← (hR.alike hab').pending]
    exact .ite (fun _ => ⟨⟨hab', rfl⟩, rfl⟩) fun _ => runPending_plain hR.toCongruence hab' hn h false

end key

def Carries (d : Macro.Control) (resolved : Option Text) (a b : Engine) : Prop :=
  a = b ∧ a.macros = d ∧ a.resolved = resolved

lemma carries_congruence (d : Macro.Control) (resolved : Option Text) :
    KeyCongruence (Carries d resolved) where
  alike := by
    rintro a _ ⟨rfl, -⟩
    exact ⟨rfl, rfl, rfl, rfl, rfl, rfl, rfl⟩
  mode := by
    rintro a _ m ⟨rfl, hd, hr⟩
    exact ⟨rfl, hd, hr⟩
  clearPending := by
    rintro a _ ⟨rfl, hd, hr⟩
    exact ⟨rfl, hd, hr⟩
  bind := by
    rintro a _ s ⟨rfl, hd, hr⟩
    exact ⟨rfl, hd, hr⟩
  workspace := by
    rintro a _ w ⟨rfl, hd, hr⟩
    exact ⟨rfl, hd, hr⟩
  typing := by
    rintro a _ t ⟨rfl, hd, hr⟩
    exact ⟨rfl, hd, hr⟩
  lastPattern := by
    rintro a _ p ⟨rfl, hd, hr⟩
    exact ⟨rfl, hd, hr⟩
  noted := by
    rintro a _ _ - ⟨rfl, hd, hr⟩
    exact ⟨rfl, hd, hr⟩
  extend := by
    rintro a _ c ⟨rfl, hd, hr⟩
    exact ⟨rfl, hd, hr⟩
  takeBack := by
    rintro a _ ⟨rfl, hd, hr⟩
    exact ⟨rfl, hd, hr⟩

lemma carries_self (e : Engine) : Carries e.macros e.resolved e e := ⟨rfl, rfl, rfl⟩

theorem stroke_plain_macros {e : Engine} {c : Char} (hn : e.reads? c = none) (h : Host) :
    (e.stroke h c).1.macros = e.macros ∧ (e.stroke h c).2.isPlay = false :=
  have hp := stroke_plain (carries_congruence _ _) (carries_self e) hn h
  ⟨hp.1.1.2.1, hp.2⟩

inductive Acts (d : Macro.Control) : Macro.Control → Reply → Prop
  | kept (vs : Table Macro.Variable) (acted : Bool) :
      Acts d { d with registry := { d.registry with variableTable := vs } } (.handled acted)
  | asked (name : Text) (times : Nat) (hr : d.registry.isRecorded name = true) :
      Acts d d (.play name times)
  | started (name : Text) (hs : d.machine.state = .idle) (hn : Macro.isValidName name = true) :
      Acts d { d with machine := d.machine.process (.record name) } (.handled true)
  | stored (hs : d.machine.state = .recording) : Acts d d.store (.handled true)
  | aborted (hs : d.machine.state = .playingWhileRecording) :
      Acts d { d with machine := d.machine.abort } (.handled true)

lemma Acts.plain (d : Macro.Control) {r : Reply} (hr : r.isPlay = false) : Acts d d r := by
  cases r with
  | handled acted => exact .kept d.registry.variableTable acted
  | play => cases hr

lemma Acts.of_play {d d' : Macro.Control} {name : Text} {times : Nat}
    (h : Acts d d' (.play name times)) : d' = d := by
  cases h
  rfl

lemma Acts.aborting {d d' : Macro.Control} {r : Reply} (h : Acts d d' r)
    (hm : d.machine.Resting) : d'.machine.aborting = false := by
  have ha := hm.settled.1
  cases h with
  | kept => exact ha
  | asked => exact ha
  | started name hs => simpa [Macro.Machine.process, Macro.Machine.process?, hs] using ha
  | stored => exact ha
  | aborted hs => rcases hm.settled.2 with hi | hi <;> simp [hs] at hi

lemma expandVariable_macros (e : Engine) (h : Host) (name : Text) (times : Nat) :
    ∃ vs, (e.expandVariable h name times).1.macros =
      { e.macros with registry := { e.macros.registry with variableTable := vs } } := by
  unfold expandVariable editedBy editable
  split
  · exact ⟨_, rfl⟩
  · rename_i s _
    by_cases hr : (h.readonly || s.readonly) = true
    · rw [if_pos hr]
      exact ⟨_, rfl⟩
    · rw [if_neg hr]
      dsimp only
      -- only the answers kept for the variables may be new
      let x : Macro.Context :=
        { environment := h.environment, now := h.now, filename := s.name, line := s.cursor.line }
      obtain ⟨vs, hv⟩ := e.macros.expand_same e.interaction x name
      refine ⟨vs, ?_⟩
      rw [← hv]
      split
      · rename_i he
        rw [he]
      · rename_i he
        rw [he]
        unfold putSurface
        dsimp only
        split <;> rfl

theorem runMacro_acts (e : Engine) (h : Host) (body : Text) (times : Nat) (complete : Bool) :
    Acts e.macros (e.runMacro h body times complete).1.macros
      (e.runMacro h body times complete).2 := by
  have hr := e.macros.read_reads e.interaction body complete times
  unfold runMacro
  generalize e.macros.read e.interaction body complete times = step at hr
  cases hr with
  | kept i o ho =>
    dsimp only
    cases o with
    | incomplete => cases complete <;> exact .plain _ rfl
    | ignored => exact .plain _ rfl
    | cancelled => exact .plain _ rfl
    | notFound => exact .plain _ rfl
    | done k r =>
      cases r with
      | none => exact .plain _ rfl
      | some r =>
        cases r with
        | play name n => exact .asked name n (ho k _ rfl).1
        | expand name n =>
          obtain ⟨vs, hv⟩ := expandVariable_macros
            ({ e with interaction := i }.clearPending.noteResolved name) h name n
          dsimp only
          rw [hv]
          exact .kept vs _
  | started i name k hs hn => exact .started name hs hn
  | stored i hs => exact .stored hs
  | aborted i hs => exact .aborted hs

lemma runMacro_machine (e : Engine) (h : Host) (body : Text) (times : Nat) (complete : Bool) :
    (e.runMacro h body times complete).1.macros.machine =
      (e.macros.read e.interaction body complete times).1.machine := by
  unfold runMacro
  generalize e.macros.read e.interaction body complete times = step
  obtain ⟨d, i, o⟩ := step
  cases o with
  | incomplete => cases complete <;> rfl
  | ignored => rfl
  | cancelled => rfl
  | notFound => rfl
  | done k r =>
    cases r with
    | none => rfl
    | some r =>
      cases r with
      | play => rfl
      | expand name n =>
        obtain ⟨vs, hv⟩ := expandVariable_macros
          ({ e with macros := d, interaction := i }.clearPending.noteResolved name) h name n
        exact congrArg (·.machine) hv

theorem stroke_acts (e : Engine) (h : Host) (c : Char) :
    Acts e.macros (e.stroke h c).1.macros (e.stroke h c).2 := by
  cases hr : e.reads? c with
  | none =>
    obtain ⟨hd, hp⟩ := stroke_plain_macros hr h
    rw [hd]
    exact .plain _ hp
  | some r =>
    rw [stroke_of_reads hr h, ← reader_macros e c]
    exact runMacro_acts ..

theorem wholeStroke_acts (e : Engine) (h : Host) (body : Text) :
    Acts e.macros (e.wholeStroke h body).1.macros (e.wholeStroke h body).2 := by
  have hc := carries_congruence e.macros none
  have hs : Carries e.macros none { e with resolved := none, pending := e.pending.set body }
      { e with resolved := none, pending := e.pending.set body } := ⟨rfl, rfl, rfl⟩
  unfold wholeStroke
  dsimp only
  split
  · obtain ⟨⟨-, hd, -⟩, -⟩ := hc.finishLine hs h
    have hd' : (handle (({ e with resolved := none, pending := e.pending.set body } :
        Engine).finishLine h)).1.macros = e.macros := hd
    rw [hd']
    exact .plain _ rfl
  · cases hb : macroBody? body with
    | none =>
      obtain ⟨⟨⟨-, hd, -⟩, -⟩, hp⟩ := runPending_plain hc.toCongruence hs hb h true
      rw [hd]
      exact .plain _ hp
    | some r =>
      rw [runPending_of_body hb h true]
      exact runMacro_acts { e with resolved := none, pending := e.pending.set body } h r.1 r.2 true

end Engine

end ModalEdit
