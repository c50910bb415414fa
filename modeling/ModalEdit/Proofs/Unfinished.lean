import ModalEdit.Proofs.Recording

namespace ModalEdit

open Macro (Control Machine)

namespace Macro.Control

lemma Reads.macros_of_incomplete {d : Control} {times : Nat} {step : Step} (hr : Reads d times step)
    (ho : step.2.2 = .incomplete) : step.1 = d := by
  cases hr with
  | kept => rfl
  | started => cases ho
  | stored => cases ho
  | aborted => cases ho

end Macro.Control

namespace Engine

variable {e e' e'' : Engine} {h : Host}

def Unmoved (e : Engine) (x : Engine × Reply) : Prop :=
  ∃ t i acted, x = ({ e with pending := e.pending.set t, interaction := i }, .handled acted)

def UnmovedIfPending (e : Engine) (x : Engine × Reply) : Prop :=
  x.1.pending.text ≠ [] → Unmoved e x

lemma clearPending_unmoved (acted : Bool) : Unmoved e (e.clearPending, .handled acted) :=
  ⟨[], e.interaction, acted, rfl⟩

lemma Unmoved.ifPending {x : Engine × Reply} (hx : Unmoved e x) : UnmovedIfPending e x :=
  fun _ => hx

lemma ifPending_of_text {x : Engine × Reply} (ht : x.1.pending.text = []) :
    UnmovedIfPending e x :=
  fun hp => absurd ht hp

lemma ifPending_of_holds {x : Engine × Reply} (hx : Holds [] x.1 x.1) : UnmovedIfPending e x :=
  ifPending_of_text (by simpa using hx.2)

lemma runMacro_unmoved (body : Text) (times : Nat) (complete : Bool) :
    UnmovedIfPending e (e.runMacro h body times complete) := by
  rcases e.runMacro_text h body times complete with ht | ⟨rfl, ho, -⟩
  · exact ifPending_of_text ht
  · refine Unmoved.ifPending ?_
    have hd := (e.macros.read_reads e.interaction body false times).macros_of_incomplete ho
    unfold runMacro
    generalize e.macros.read e.interaction body false times = step at ho hd
    obtain ⟨d, i, o⟩ := step
    obtain rfl : o = _ := ho
    obtain rfl : d = _ := hd
    exact ⟨e.pending.text, i, false, rfl⟩

lemma runPending_unmoved (complete : Bool) :
    UnmovedIfPending e (e.runPending h complete) := by
  have hs : Holds [] e.clearPending e.clearPending := ⟨rfl, .inl rfl⟩
  unfold runPending
  dsimp only
  split
  · exact Unmoved.ifPending ⟨_, _, _, rfl⟩
  · split
    · exact runMacro_unmoved _ _ _
    · split
      · cases complete with
        | true => exact (clearPending_unmoved false).ifPending
        | false => exact Unmoved.ifPending ⟨_, _, _, rfl⟩
      · exact (clearPending_unmoved false).ifPending
      · exact ifPending_of_holds ⟨rfl, ((holds_congruence []).execute hs h _ _).1.2⟩

lemma lineKey_unmoved (c : Char) : UnmovedIfPending e (handle (e.lineKey h c)) := by
  unfold lineKey
  split
  · exact ifPending_of_text (finishLine_text e h)
  · split <;> exact Unmoved.ifPending ⟨_, _, _, rfl⟩

lemma enterKey_unmoved : UnmovedIfPending e (e.enterKey h) := by
  unfold enterKey
  split
  · exact runPending_unmoved true
  · split
    · rename_i ht
      have hs : Holds [] e e := ⟨rfl, .inl (by simpa using ht)⟩
      exact ifPending_of_holds ⟨rfl, ((holds_congruence []).nextLine hs).1.2⟩
    · exact (clearPending_unmoved false).ifPending

lemma commandKey_unmoved (c : Char) : UnmovedIfPending e (e.commandKey h c) := by
  unfold commandKey
  split
  · split
    · rename_i ht
      have hs : Holds [] e e := ⟨rfl, .inl (by simpa using ht)⟩
      exact ifPending_of_holds ⟨rfl, ((holds_congruence []).escapeMode hs).1.2⟩
    · exact (clearPending_unmoved true).ifPending
  · split
    · exact lineKey_unmoved c
    · split
      · exact enterKey_unmoved
      · split
        · exact Unmoved.ifPending ⟨_, _, _, rfl⟩
        · dsimp only
          split
          · exact Unmoved.ifPending ⟨_, _, _, rfl⟩
          · exact runPending_unmoved (e := e.extend c) false

/-- The pending text may be new, messages may have been said, and a recording has taken the
keys. -/
structure Untouched (keys : Text) (e e' : Engine) : Prop where
  editor : e'.editor = e.editor
  lastPattern : e'.lastPattern = e.lastPattern
  registry : e'.macros.registry = e.macros.registry
  machine : e'.macros.machine =
    if e.macros.machine.isRecording then
      { e.macros.machine with recorded := e.macros.machine.recorded ++ keys }
    else e.macros.machine

namespace Untouched

variable {keys keys' : Text}

protected lemma refl (e : Engine) : Untouched [] e e := ⟨rfl, rfl, rfl, by simp⟩

protected lemma trans (hu : Untouched keys e e') (hu' : Untouched keys' e' e'') :
    Untouched (keys ++ keys') e e'' := by
  refine ⟨hu'.editor.trans hu.editor, hu'.lastPattern.trans hu.lastPattern,
    hu'.registry.trans hu.registry, ?_⟩
  rw [hu'.machine, hu.machine]
  by_cases hr : e.macros.machine.isRecording = true
  · have hr' : Machine.isRecording
        { e.macros.machine with recorded := e.macros.machine.recorded ++ keys } = true := hr
    simp only [hr, hr', ↓reduceIte, List.append_assoc]
  · simp only [if_neg hr]

lemma mode (hu : Untouched keys e e') : e'.mode = e.mode := congrArg Editor.mode hu.editor

end Untouched

lemma key_of_unmoved (hm : e.macros.machine.Resting) {c : Char} (hw : Unmoved e (e.stroke h c)) :
    Untouched [c] e (e.key h c).1 := by
  obtain ⟨t, i, acted, hx⟩ := hw
  have hk : (e.key h c).1 = { e with
      pending := e.pending.set t, interaction := i, macros := e.macros.jot [c] } := by
    rw [key_of_handled hx rfl]
    exact if_pos rfl
  rw [hk]
  exact ⟨rfl, rfl, congrArg (·.registry) (e.macros.jot_eq [c]), Control.jot_machine [c] hm⟩

lemma key_untouched (hm : e.macros.machine.Resting) (hi : e.mode.isInsert = false) {c : Char}
    (hp : (e.key h c).1.pending.text ≠ []) : Untouched [c] e (e.key h c).1 := by
  have hs : e.stroke h c = e.commandKey h c := by simp [stroke, hi]
  refine key_of_unmoved hm ?_
  rw [key_pending] at hp
  rw [hs] at hp ⊢
  exact commandKey_unmoved c hp

lemma escape_untouched (hm : e.macros.machine.Resting) (hi : e.mode.isInsert = false)
    (hp : e.pending.text ≠ []) :
    Untouched [escapeKey] e (e.key h escapeKey).1 ∧
      (e.key h escapeKey).1.pending = e.pending.clear := by
  have hs : e.stroke h escapeKey = (e.clearPending, .handled true) := by
    simp [stroke, hi, commandKey, hp]
  refine ⟨key_of_unmoved hm (hs ▸ clearPending_unmoved true), ?_⟩
  rw [key_pending, hs]
  rfl

lemma feed_untouched (he : e.Reachable) (hi : e.mode.isInsert = false)
    {keys : List (Host × Char)}
    (hp : ∀ p, p <+: keys → p ≠ [] → (e.feed p).pending.text ≠ []) :
    Untouched (keys.map (·.2)) e (e.feed keys) := by
  induction keys generalizing e with
  | nil => exact .refl e
  | cons k ks ih =>
    have hu := key_untouched he.resting hi (c := k.2) (h := k.1)
      (hp [k] (List.cons_prefix_cons.mpr ⟨rfl, List.nil_prefix⟩) nofun)
    have hi' : (e.key k.1 k.2).1.mode.isInsert = false := hu.mode ▸ hi
    exact hu.trans (ih (he.key k.1 k.2) hi' fun p hks _ =>
      hp (k :: p) (List.cons_prefix_cons.mpr ⟨rfl, hks⟩) nofun)

/-- As long as a command is pending, its keys have no effect, and the escape key takes them back. -/
theorem Reachable.pending_untouched (he : e.Reachable) (hi : e.mode.isInsert = false) :
    (∀ h c, (e.key h c).1.pending.text ≠ [] → Untouched [c] e (e.key h c).1) ∧
      ∀ keys : List (Host × Char), e.pending.text = [] → keys ≠ [] →
        (∀ p, p <+: keys → p ≠ [] → (e.feed p).pending.text ≠ []) →
        ∀ h, Untouched (keys.map (·.2) ++ [escapeKey]) e ((e.feed keys).key h escapeKey).1 ∧
          ((e.feed keys).key h escapeKey).1.pending = e.pending := by
  refine ⟨fun h c hp => key_untouched he.resting hi hp, fun keys ht hn hp h => ?_⟩
  have hu := feed_untouched he hi hp
  have hx := escape_untouched (h := h) (feed_reachable he keys).resting (hu.mode ▸ hi)
    (hp keys List.prefix_rfl hn)
  refine ⟨hu.trans hx.1, ?_⟩
  have hb : (e.feed keys).pending.surface = e.pending.surface := congrArg Editor.bound hu.editor
  rw [hx.2, Pending.clear, hb]
  exact congrArg (Pending.mk · _) ht.symm

theorem sample_pending_untouched :
    let e := ((sample "abc" [("bx", "x"), ("by", "y")]).type {} "qav".toList).1
    let keys : List (Host × Char) := [({}, '2'), ({}, '@'), ({}, 'b')]
    Untouched ['2', '@', 'b', escapeKey] e ((e.feed keys).key {} escapeKey).1 ∧
      ((e.feed keys).key {} escapeKey).1.pending = e.pending := by
  intro e keys
  have he : e.Reachable := (sample_reachable "abc" _).type {} _
  have hp : ∀ n ≤ 3, keys.take n ≠ [] → (e.feed (keys.take n)).pending.text ≠ [] := by
    decide +kernel
  exact (he.pending_untouched (by decide +kernel)).2 keys (by decide +kernel) nofun
    (fun p hk => by
      rw [List.prefix_iff_eq_take.mp hk]
      exact hp _ hk.length_le) {}

end Engine

end ModalEdit
