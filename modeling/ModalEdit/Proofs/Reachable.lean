import ModalEdit.Engine.Steps
import ModalEdit.Proofs.PendingCommand

namespace ModalEdit

namespace Engine

open Macro (Control Machine)

def surrounded (e : Engine) (surface : Option Text) (workspace : Workspace)
    (registry : Macro.Registry) (interaction : Interaction) : Engine :=
  { e with
    macros := { e.macros with registry }
    pending := e.pending.bind surface
    workspace
    interaction }

inductive Reachable : Engine → Prop
  | new (surface : Option Text) (workspace : Workspace) (registry : Macro.Registry)
      (config : Config) (interaction : Interaction) :
      Reachable (.new surface workspace registry config interaction)
  | perform {e} (h : Host) (call : Call) : Reachable e → Reachable (e.perform h call).1
  | surrounded {e} (surface : Option Text) (workspace : Workspace) (registry : Macro.Registry)
      (interaction : Interaction) :
      Reachable e → Reachable (e.surrounded surface workspace registry interaction)

lemma type_cons (e : Engine) (h : Host) (c : Char) (cs : Text) :
    (e.type h (c :: cs)).1 = ((e.key h c).1.type h cs).1 := by
  have hf : ∀ (cs : Text) (e : Engine) (b b' : Bool),
      (cs.foldl (fun (p : Engine × Bool) c => p.1.key h c) (e, b)).1 =
        (cs.foldl (fun (p : Engine × Bool) c => p.1.key h c) (e, b')).1 := by
    intro cs
    cases cs with
    | nil => exact fun _ _ _ => rfl
    | cons c cs => exact fun _ _ _ => rfl
  exact hf cs _ _ _

def Along (h : Host) (P : Engine → Char → Prop) : Engine → Text → Prop
  | _, [] => True
  | e, c :: cs => P e c ∧ Along h P (e.key h c).1 cs

lemma type_append (e : Engine) (h : Host) (ks ls : Text) :
    (e.type h (ks ++ ls)).1 = ((e.type h ks).1.type h ls).1 := by
  induction ks generalizing e with
  | nil => rfl
  | cons c cs ih => rw [List.cons_append, type_cons, type_cons, ih]

lemma along_append {h : Host} {P : Engine → Char → Prop} (ks ls : Text) (e : Engine) :
    Along h P e (ks ++ ls) ↔ Along h P e ks ∧ Along h P (e.type h ks).1 ls := by
  induction ks generalizing e with
  | nil => simp [Along, type]
  | cons c cs ih => rw [List.cons_append, Along, Along, type_cons, ih, and_assoc]

instance decidableAlong (h : Host) (P : Engine → Char → Prop) [∀ e c, Decidable (P e c)] :
    ∀ e keys, Decidable (Along h P e keys)
  | _, [] => .isTrue trivial
  | _, _ :: cs => @instDecidableAnd _ _ _ (decidableAlong h P _ cs)

theorem Reachable.key {e : Engine} (he : e.Reachable) (h : Host) (c : Char) :
    (e.key h c).1.Reachable :=
  he.perform h (.key c)

theorem Reachable.type {e : Engine} (he : e.Reachable) (h : Host) (keys : Text) :
    (e.type h keys).1.Reachable := by
  induction keys generalizing e with
  | nil => exact he
  | cons c cs ih =>
    rw [type_cons]
    exact ih (he.key h c)

def sample (text : String) (macros : List (String × String)) : Engine :=
  .new (some "a".toList) (({} : Workspace).insert "a".toList text.toList)
    (macros.foldl (fun r m => r.set m.1.toList m.2.toList) {}) {} {}

lemma sample_reachable (text : String) (macros : List (String × String)) :
    (sample text macros).Reachable :=
  .new ..

theorem Reachable.invariant {P : Engine → Prop}
    (hnew : ∀ surface workspace registry config interaction,
      P (.new surface workspace registry config interaction))
    (hkey : ∀ {e} h c, P e → P (e.key h c).1)
    (hwhole : ∀ {e} h body, isWhole body = true → P e → P (e.runWhole h body).1)
    (hplay : ∀ {e} h name times, P e → P (e.playback h name times).1)
    (hescape : ∀ {e}, P e → P e.escape.1)
    (haround : ∀ {e} surface workspace registry interaction,
      P e → P (e.surrounded surface workspace registry interaction))
    {e : Engine} (he : e.Reachable) : P e := by
  induction he with
  | new => exact hnew ..
  | surrounded _ _ _ _ _ ih => exact haround _ _ _ _ ih
  | perform h call _ ih =>
    rename_i e _
    cases call with
    | key c => exact hkey h c ih
    | playback name times => exact hplay h name times ih
    | escape => exact hescape ih
    | command t =>
      -- a command that is not run as a whole is typed key by key
      have htype : ∀ (keys : Text) {e : Engine}, P e → P (e.type h keys).1 := by
        intro keys
        induction keys with
        | nil => exact fun he => he
        | cons c cs ih =>
          intro e he
          rw [type_cons]
          exact ih (hkey h c he)
      change P (e.command h t).1
      unfold command
      split
      · rename_i hw
        simp only [Bool.and_eq_true] at hw
        exact hwhole h _ hw.2 ih
      · exact htype t ih

theorem Reachable.resting {e : Engine} (he : e.Reachable) : e.macros.machine.Resting := by
  refine he.invariant (P := fun e => e.macros.machine.Resting) ?_ ?_ ?_ ?_ ?_ ?_
  · exact fun _ _ _ config _ => ⟨Machine.coherent_new config.maxDepth, rfl⟩
  · exact fun h c hm => (key_moves hm h c).resting hm
  · intro e h body _ hm
    obtain ⟨keys, hk⟩ := runWhole_moves hm h body
    exact hk.resting hm
  · intro e h name times hm
    rw [(playback_macros hm h name times).1]
    exact hm
  · intro e hm
    rw [escape_macros]
    exact hm
  · exact fun _ _ _ _ hm => hm

lemma finishLine_text (e : Engine) (h : Host) : (e.finishLine h).1.pending.text = [] := by
  unfold finishLine
  split <;> rfl

lemma runWhole_text (e : Engine) (h : Host) {body : Text} (hb : isWhole body = true) :
    (e.runWhole h body).1.pending.text = [] := by
  unfold runWhole
  rw [reportMode_pending, record_pending, settle_pending]
  unfold wholeStroke
  dsimp only
  split
  · exact finishLine_text _ h
  · rename_i hl
    rw [isWhole, any_isMacroBody, (Bool.not_eq_true _).mp hl, Bool.false_or] at hb
    obtain ⟨⟨b, times⟩, hm⟩ := Option.isSome_iff_exists.mp hb
    rw [runPending_of_body hm]
    rcases runMacro_text { e with resolved := none, pending := e.pending.set body } h b times true
      with ht | ⟨ht, -⟩
    · exact ht
    · cases ht

theorem Reachable.unnamed {e : Engine} (he : e.Reachable) : e.Unnamed := by
  have hnil : ∀ e : Engine, e.pending.text = [] → e.Unnamed := by
    intro e he name times hq
    rw [he] at hq
    cases hq
  refine he.invariant ?_ ?_ ?_ ?_ ?_ ?_
  · exact fun _ _ _ _ _ => hnil _ rfl
  · exact fun h c hu => hu.key h c
  · exact fun h body hb _ => hnil _ (runWhole_text _ h hb)
  · intro e h name times hu
    unfold Unnamed
    rw [playback, playWith_pending]
    exact hu
  · intro e _
    refine hnil _ ?_
    have hc := (holds_congruence []).escapeMode (a := e.clearPending) ⟨rfl, .inl rfl⟩
    have := hc.1.2
    unfold escape
    dsimp only
    rw [reportMode_pending]
    simpa using this
  · exact fun _ _ _ _ hu => hu

end Engine

end ModalEdit
