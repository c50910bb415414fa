import ModalEdit.Proofs.Matches
import ModalEdit.Proofs.OnLine
import ModalEdit.Proofs.Reachable
import ModalEdit.Proofs.Unbroken

/-! The cursor is at a valid position all along a run, as long as no turn needs more care than it is
given. -/

namespace ModalEdit

open Text

/-- A case switch keeps the length of the text, and a selection of characters is still within the
text that it is used on. -/
def Command.Careful (s : Surface) : Command → Prop
  | .simple .toggleCase count _ =>
    byteLength (Case.toggle.map (s.aheadText count)) = byteLength (s.aheadText count)
  | .visualAction a _ _ => a.usesChars = true → ∀ selection ∈ s.selection, selection.Fits s.text
  | _ => True

def LineCommand.Careful (s : Surface) : LineCommand → Prop
  | .substitute r pattern replacement all =>
    ∀ p ∈ Pattern.ofText? pattern,
      s.RewritesInPlace (p.replace all (Pattern.Template.ofShort replacement))
        (lineRange (r.resolve s.cursor.line s.lineCount).1 (r.resolve s.cursor.line s.lineCount).2)
  | _ => True

lemma Address.resolve_lt (a : Address) (current : Nat) {n : Nat} (hn : 0 < n) :
    a.resolve current n < n := by
  cases a <;> simp only [resolve] <;> omega

lemma LineRange.resolve_lt (r : LineRange) (current : Nat) {n : Nat} (hn : 0 < n) :
    (r.resolve current n).2 < n := by
  unfold resolve
  split
  · exact Nat.sub_one_lt_of_lt hn
  · have hstart := (r.start.getD .current).resolve_lt current hn
    cases r.stop with
    | none => simpa using hstart
    | some a => exact Nat.max_lt.mpr ⟨hstart, a.resolve_lt current hn⟩

def Turn.Careful (t : Turn) : Prop :=
  ∀ s ∈ t.engine.surface?,
    (∀ c ∈ t.input.command? t.engine, c.Careful s) ∧
      ∀ l ∈ t.input.line? t.engine, (LineCommand.parse l).Careful s

section decidable

instance (s : Surface) (c : Command) : Decidable (c.Careful s) := by
  unfold Command.Careful
  split <;> infer_instance

instance (s : Surface) (c : LineCommand) : Decidable (c.Careful s) := by
  unfold LineCommand.Careful
  split <;> infer_instance

instance (t : Turn) : Decidable t.Careful :=
  inferInstanceAs (Decidable (∀ s ∈ t.engine.surface?, _))

end decidable

open Surface (landed)

section makes

variable {h : Host} {s s' : Surface}

lemma Simple.Makes.sound {c : Simple} {count : Nat} {register : Option Char}
    (hc : c.Makes s count register s') (hs : s.Sound)
    (hcare : (Command.simple c count register).Careful s) : s'.Sound := by
  cases hc with
  | yankLines => exact Operator.apply_sound _ hs (Operator.lineRegion_begins ..) _
  | deleteForward =>
    exact Operator.apply_sound _ hs (within_begins hs hs.2 (clustersAhead_spec hs count).1) _
  | deleteBackward hlt =>
    exact Operator.apply_sound _ hs
      (within_begins hs (clustersBehind_boundary hs count) (Nat.le_of_lt hlt)) _
  | deleteToEnd => exact Operator.apply_sound _ hs (within_begins hs hs.2 hs.2.le) _
  | changeToEnd => exact Operator.apply_sound _ hs (within_begins hs hs.2 hs.2.le) _
  | paste side t => exact Surface.setCursor_sound (Surface.paste_lands ..)
  | joinLines => exact Surface.join_valid ..
  | toggleCase hstop hlt hs' =>
    subst hs'
    exact Surface.setCursor_sound (normalize_valid (Surface.toggle_lands hs hstop hlt hcare)).2

lemma Command.Makes.sound {c : Command} {m : Mode} (hc : c.Makes h m s s') (hs : s.Sound)
    (hcare : c.Careful s) : s'.Sound := by
  cases hc with
  | move ht =>
    subst ht
    exact Surface.setCursor_sound (normalize_valid (Motion.target_valid _ hs _ _).2).2
  | operate => exact Operator.apply_sound _ hs (Operator.region_begins _ hs ..) _
  | operateLines => exact Operator.apply_sound _ hs (Operator.lineRegion_begins ..) _
  | simple _ hc => exact hc.sound hs hcare
  | replace _ hr hstop =>
    subst hstop
    exact Surface.setCursor_sound (Motion.iterate_keeps
      (fun _ _ => Grapheme.nextBoundary_boundary ..) _ (Surface.replaceChars_keep hs hr).2)
  | insert => exact Insertion.prepare_sound _ hs _
  | visualAction hsel => exact VisualAction.apply_valid (fun ha => (hcare ha _ hsel).begins) _ _

lemma LineCommand.Makes.sound {c : LineCommand} (hc : c.Makes h s s') (hs : s.Sound)
    (hcare : c.Careful s) : s'.Sound := by
  cases hc with
  | goTo => exact Surface.setCursor_sound (firstNonBlank_lands ..)
  | delete => exact Surface.setCursor_sound (firstNonBlank_lands ..)
  | yank => exact hs
  | substitute _ hp hr =>
    have hin := hcare _ hp
    rw [hr] at hin
    exact hin.stands isSpot_boundary hs
  | setReadonly => exact hs

lemma Surface.Types.sound (ht : s.Types s') (hs : s.Sound) : s'.Sound := by
  cases ht with
  | erase joint hj =>
    have hv : Valid s.text joint := hj ▸ ⟨hs.1, Grapheme.prevBoundary_boundary ..⟩
    have hle : joint ≤ s.cursor := hj ▸ .inr ⟨rfl, Grapheme.prevBoundary_le ..⟩
    exact setCursor_sound (erase_keep_start hv hle hs.1).2
  | insert c => exact setCursor_sound (insert_stop_valid hs [c]).2
  | overwrite c stop hstop =>
    have hle : s.cursor ≤ stop := hstop ▸ .inr ⟨rfl, Grapheme.le_nextBoundary hs.2.le⟩
    have hl : stop.line < s.lineCount := hstop ▸ hs.1
    exact setCursor_sound (insert_stop_valid (erase_keep_start hs hle hl) [c]).2

end makes

namespace Workspace

def Every (Q : Surface → Prop) (w : Workspace) : Prop := ∀ name s, w.get? name = some s → Q s

variable {Q : Surface → Prop} {w : Workspace} {name text : Text} {s : Surface}

lemma every_empty : Every Q {} := by
  intro name s hs
  cases hs

lemma Every.update (hw : w.Every Q) (hs : Q s) : (w.update name s).Every Q := by
  intro other s' hs'
  by_cases hn : other = name
  · subst hn
    rw [get?, Workspace.update, Table.get?_insert_self] at hs'
    exact Option.some.inj hs' ▸ hs
  · rw [get?, Workspace.update, Table.get?_insert_of_ne hn] at hs'
    exact hw other s' hs'

lemma Every.mono {Q' : Surface → Prop} (hw : w.Every Q) (hq : ∀ s, Q s → Q' s) : w.Every Q' :=
  fun name s hs => hq s (hw name s hs)

lemma Every.insert_sound (hw : w.Every Surface.Sound) : (w.insert name text).Every Surface.Sound :=
  hw.update (s := { serial := w.fresh, name, text }) ⟨lineCount_pos text, isCharBoundary_zero _⟩

end Workspace

lemma Editor.Goes.every {Q : Surface → Prop} {h : Host} {K : Mode → Surface → Surface → Prop}
    {x y : Editor} (hg : x.Goes h K y) (hx : x.workspace.Every Q)
    (hselect : ∀ s selection, Q s → Q { s with selection })
    (hnew : ∀ serial name, Q { serial, name, text := [] })
    (hk : ∀ m s s', x.surface? = some s → K m s s' → Q s → Q s')
    (htypes : ∀ s s', s.Types s' → Q s → Q s')
    (hfinish : ∀ s, Q s → Q (x.typing.finish x.mode s)) :
    y.workspace.Every Q := by
  have hput : ∀ {s}, Q s → (x.put s).workspace.Every Q := by
    intro s hs
    unfold Editor.put
    split
    · exact hx.update hs
    · exact hx
  have hbound : ∀ {s}, x.surface? = some s → Q s := by
    intro s hs
    obtain ⟨name, -, hg⟩ := Editor.exists_bound hs
    exact hx name s hg
  cases hg with
  | kept => exact hx
  | unbound => exact hx
  | opened name =>
    unfold Workspace.activate
    dsimp only
    split
    · exact hx
    · exact hx.update (hnew _ name)
  | put _ hs hm => exact hput (hk _ _ _ hs hm (hbound hs))
  | selected _ hs => exact hput (hselect _ _ (hbound hs))
  | deselected _ hs hm =>
    refine hput (hselect _ _ ?_)
    rcases hm with rfl | hm
    · exact hbound hs
    · exact hk _ _ _ hs hm (hbound hs)
  | begun _ hs _ hm => exact hput (hk _ _ _ hs hm (hbound hs))
  | changed _ _ hs _ hm => exact hput (hselect _ _ (hk _ _ _ hs hm (hbound hs)))
  | typed _ hs hm => exact hput (htypes _ _ hm (hbound hs))
  | finished _ hs => exact hput (hselect _ _ (hfinish _ (hbound hs)))

lemma Turn.Careful.puts {t : Turn} {m : Mode} {s s' : Surface} (ht : t.Careful)
    (hb : t.engine.surface? = some s) (hp : t.engine.Puts t.host t.input m s s') (hs : s.Sound) :
    s'.Sound := by
  obtain ⟨hc, hl⟩ := ht s hb
  cases hp with
  | command hd hm => exact hm.makes.sound hs (hc _ hd)
  | line hd hm => exact hm.sound hs (hl _ hd)
  | found _ _ hc =>
    obtain ⟨p, d, hc⟩ := Engine.exists_search hc
    exact Surface.setCursor_sound (Finder.search_lands hc)
  | descended => exact Surface.setCursor_sound (firstNonBlank_lands ..)
  | expanded text => exact Surface.setCursor_sound (Surface.insert_stop_valid hs text).2

namespace Engine

/-- The line of a cursor is always there. As long as the turns of a run are careful, the cursor is
also at the boundary of a character. -/
theorem cursors_valid (e : Engine) (run : List (Host × Call))
    (he : e.workspace.Every Surface.Sound) :
    (e.after run).workspace.Every Surface.OnLine ∧
      ((∀ t ∈ e.runTurns run, t.Careful) → (e.after run).workspace.Every Surface.Sound ∧
        ∀ t ∈ e.runTurns run, t.engine.workspace.Every Surface.Sound) := by
  constructor
  · refine (run_keeps (P := fun x => x.workspace.Every Surface.OnLine) (fun _ _ _ hy => hy) run e
      (fun t ht hx => ?_) (he.mono fun s => Surface.Sound.onLine)).1
    exact (runTurn_goes ht).every hx (fun _ _ hs => hs) (fun _ _ => Nat.zero_lt_one)
      (fun _ _ _ _ hp => hp.onLine) (fun _ _ hm _ => hm.onLine)
      fun _ hs => (Typing.finish_sound hs _ _).onLine
  · intro hc
    refine run_keeps (P := fun x => x.workspace.Every Surface.Sound) (fun _ _ _ hy => hy) run e
      (fun t ht hx => ?_) he
    exact (runTurn_goes ht).every hx (fun _ _ hs => hs)
      (fun _ _ => ⟨Nat.zero_lt_one, isCharBoundary_zero _⟩)
      (fun _ _ _ hb hp => (hc t ht).puts hb hp) (fun _ _ hm => hm.sound)
      fun _ hs => Typing.finish_sound hs.onLine _ _

theorem sample_cursor_kept :
    let e := sample "éb c\ndé\nxyz" []
    let run : List (Host × Call) := [({}, .command "l~vld".toList),
      ({}, .command ":%s/d/ö/".toList), ({}, .command "j\x16jI+\x1b".toList)]
    (e.after run).workspace.Every Surface.OnLine ∧ (e.after run).workspace.Every Surface.Sound ∧
      ∀ t ∈ e.runTurns run, t.engine.workspace.Every Surface.Sound :=
  have h := cursors_valid (sample "éb c\ndé\nxyz" []) [({}, .command "l~vld".toList),
    ({}, .command ":%s/d/ö/".toList), ({}, .command "j\x16jI+\x1b".toList)]
    Workspace.every_empty.insert_sound
  ⟨h.1, h.2 (by decide +kernel)⟩

example : [("ɐé", ["~"]), ("aéé", ["lv", ":s/a/é/", "d"]), ("xé\naé", ["jl", ":1s/x/\u2028/"])].all
    (fun (t, calls) =>
      ((sample t []).after (calls.map fun c => ({}, .command c.toList))).surface?.all
        fun s => decide ¬s.Sound) = true := by
  decide +kernel

end Engine

end ModalEdit
