import ModalEdit.Proofs.Reachable
import ModalEdit.Proofs.Removal
import ModalEdit.Proofs.Stroke
import ModalEdit.Proofs.Turns

namespace ModalEdit

open Text
open Surface (landed)

/-- A text comes into the unnamed register and into that of the letter that was asked for, where a
capital letter keeps what was there in front of it. -/
structure Registers.Gains (r : Registers) (register : Option Char) (t : Text) (r' : Registers) :
    Prop where
  unnamed : r'.unnamed = t
  letter : ∀ c ∈ register, ∀ l, RegisterName.ofChar? c = some (.letter l) → r'.letters l = t
  append : ∀ c ∈ register, ∀ l, RegisterName.ofChar? c = some (.append l) →
    r'.letters l = r.letters l ++ t

def Registers.Accepts (register : Option Char) : Prop :=
  ∀ c ∈ register, (RegisterName.ofChar? c).isSome = true

instance : (register : Option Char) → Decidable (Registers.Accepts register)
  | none => .isTrue nofun
  | some c => decidable_of_iff ((RegisterName.ofChar? c).isSome = true) (by simp [Registers.Accepts])

lemma Registers.Accepts.gains {register : Option Char} (h : Accepts register) (r : Registers)
    (t : Text) : r.Gains register t (r.set (register.getD '"') t) := by
  cases register with
  | none => exact ⟨rfl, nofun, nofun⟩
  | some c =>
    obtain ⟨name, hname⟩ := Option.isSome_iff_exists.mp (h c rfl)
    have hc : ∀ {c' name'}, c' ∈ some c → RegisterName.ofChar? c' = some name' → name = name' := by
      rintro _ name' ⟨⟩ hn
      exact Option.some.inj (hname.symm.trans hn)
    refine ⟨?_, fun c' hc' l hl => ?_, fun c' hc' l hl => ?_⟩
    · cases name <;> simp [set, set?, hname]
    · obtain rfl := hc hc' hl
      simp [set, set?, hname, setLetter]
    · obtain rfl := hc hc' hl
      simp [set, set?, hname, setLetter]

def Operator.deletes : Operator → Bool
  | delete | change => true
  | _ => false

def VisualAction.deletes : VisualAction → Bool
  | delete | deleteLines | change | changeLines => true
  | _ => false

def Simple.deletes : Simple → Bool
  | deleteForward | deleteBackward | deleteToEnd | changeToEnd => true
  | _ => false

def Insertion.deletes : Insertion → Bool
  | substituteChars | substituteLine => true
  | _ => false

def Simple.deletion (s : Surface) (count : Nat) : Simple → Span
  | deleteBackward => s.within (s.clustersBehind count) s.cursor.byte
  | deleteToEnd | changeToEnd => s.within s.cursor.byte s.currentLine.byteLength
  | _ => s.within s.cursor.byte (s.clustersAhead count)

def Insertion.deletion (s : Surface) (count : Nat) : Insertion → Span
  | substituteLine => .lines s.cursor.line s.cursor.line
  | _ => s.within s.cursor.byte (s.clustersAhead count)

namespace Command

def deletes : Command → Bool
  | operate op .. | operateLines op .. => op.deletes
  | simple c .. => c.deletes
  | insert i _ => i.deletes
  | visualAction a .. => a.deletes
  | _ => false

def deletion? (s : Surface) : Command → Option Span
  | operate op m count explicit _ => some (op.region s m count explicit)
  | operateLines _ count _ => some (Operator.lineRegion s count)
  | simple c count _ => some (c.deletion s count)
  | insert i count => some (i.deletion s count)
  | visualAction a .. => s.selection.map fun x => a.widen (.ofSelection s.text x)
  | _ => none

def lineCount : Command → Nat
  | operateLines _ count _ => count
  | _ => 1

def register? : Command → Option Char
  | operate _ _ _ _ r | operateLines _ _ r | simple _ _ r | visualAction _ r _ => r
  | _ => none

end Command

def Prefix.registerFor (p : Prefix) : Command → Option Char
  | .operate .. | .operateLines .. | .simple .. | .visualAction .. => p.register
  | _ => none

namespace Command

structure Follows (p : Prefix) (c : Command) : Prop where
  register : c.register? = p.registerFor c
  lineCount : 0 < c.lineCount

variable {p : Prefix} {key : Char} {rest : Text} {c : Command}

lemma parseOperator_follows {op : Operator} (hp : 0 < p.countOrOne)
    (h : parseOperator op key p rest = .complete c) : c.Follows p := by
  rcases parseOperator_cases hp h with ⟨n, hn, -, ⟨m, explicit, rfl⟩ | rfl⟩
  · exact ⟨rfl, Nat.one_pos⟩
  · exact ⟨rfl, hn⟩

lemma parseNormal_follows (hp : 0 < p.countOrOne) (h : parseNormal p key rest = .complete c) :
    c.Follows p := by
  unfold parseNormal at h
  split at h
  · exact parseOperator_follows hp h
  · obtain ⟨-, rfl⟩ := Parse.ofKey_complete h
    exact ⟨rfl, Nat.one_pos⟩
  · obtain ⟨-, rfl⟩ := Parse.ofKey_complete h
    exact ⟨rfl, Nat.one_pos⟩
  · split at h
    · unfold parseReplace at h
      split at h
      · cases h
      · split at h
        · cases h
          exact ⟨rfl, Nat.one_pos⟩
        · obtain ⟨-, rfl⟩ := Parse.ofKey_complete h
          exact ⟨rfl, Nat.one_pos⟩
    · cases h

lemma parse_follows {visual : Bool} {t body : Text} (ht : Prefix.split? t = some (p, body))
    (h : parse visual t = .complete c) : c.Follows p := by
  have hp := Prefix.countOrOne_pos ht
  simp only [parse, ht] at h
  obtain - | ⟨key, rest⟩ := body
  · cases h
  · unfold parseBody at h
    dsimp only at h
    split at h
    · cases h
      exact ⟨rfl, Nat.one_pos⟩
    · split at h
      · obtain ⟨-, rfl⟩ := Parse.ofKey_complete h
        exact ⟨rfl, Nat.one_pos⟩
      · split at h
        · obtain ⟨_, -, rfl⟩ := Parse.map_complete h
          exact ⟨rfl, Nat.one_pos⟩
        · split at h
          · unfold parseVisual at h
            split at h
            · obtain ⟨-, rfl⟩ := Parse.ofKey_complete h
              exact ⟨rfl, Nat.one_pos⟩
            · cases h
          · exact parseNormal_follows hp h

end Command

namespace Surface

def SelectsValid (s : Surface) : Prop :=
  ∀ selection ∈ s.selection, Valid s.text selection.anchor ∧ Valid s.text selection.head

instance (s : Surface) : Decidable s.SelectsValid :=
  inferInstanceAs (Decidable (∀ selection ∈ s.selection, _))

structure Strips (s : Surface) (span : Span) (register : Option Char) (s' : Surface) : Prop where
  text : s'.text = (span.erase s).text ∨ s'.text = (VisualAction.clearRegion s span).1.text
  registers : s'.registers = s.registers.set (register.getD '"') (span.textOf s.text)

variable {s s' : Surface} {span : Span} {register : Option Char}

lemma registers_eraseSpan (s : Surface) (span : Span) :
    (span.erase s).registers = s.registers := by
  cases span with
  | chars start stop => rfl
  | lines first last => rfl
  | block first last left right =>
    rw [Span.erase]
    generalize (Span.block first last left right).segments s.text = gs
    induction gs with
    | nil => rfl
    | cons g gs ih =>
      rw [List.foldr_cons]
      split <;> exact ih

lemma Strips.loses (hs : s.Strips span register s') (hc : span.Covers s.text)
    (hf : (∀ l ∈ s.text.lines, Unbroken l) ∨ span.InLine s.text)
    (ha : Registers.Accepts register) :
    ∃ ps r, Loses s.text s'.text ps ∧ span.KeptAs ps r ∧
      s.registers.Gains register r s'.registers := by
  have hr := ha.gains s.registers (span.textOf s.text)
  rw [← hs.registers] at hr
  rcases hs.text with ht | ht
  · obtain ⟨ps, hloses, hkept⟩ := hc.erase_loses hf
    exact ⟨ps, _, ht ▸ hloses, hkept, hr⟩
  · obtain ⟨ps, hloses, hkept⟩ := hc.clear_loses hf
    exact ⟨ps, _, ht ▸ hloses, hkept, hr⟩

end Surface

section covers

variable {s : Surface} {first last : Nat}

lemma Text.IsCharBoundary.min {l : Text} {n : Nat} (h : IsCharBoundary l n) :
    IsCharBoundary l (min n (byteLength l)) := by
  rwa [Nat.min_eq_left h.le]

lemma within_covers (hs : s.Sound) (hf : IsCharBoundary s.currentLine first)
    (hl : IsCharBoundary s.currentLine last) (hle : first ≤ last) :
    (s.within first last).Covers s.text :=
  ⟨within_begins hs hf hle, Text.IsCharBoundary.min hl⟩

lemma clustersBehind_le (s : Surface) (n : Nat) : s.clustersBehind n ≤ s.cursor.byte :=
  Motion.iterate_keeps (P := fun b => b ≤ s.cursor.byte)
    (fun _ hb => Nat.le_trans (Grapheme.prevBoundary_le ..) hb) n (Nat.le_refl _)

lemma regionEnd_lands {t : Text} {m : Motion} {p q : Position} (hq : Lands t q) :
    Lands t (Operator.regionEnd t m p q) := by
  unfold Operator.regionEnd
  split_ifs
  · exact Grapheme.nextBoundary_boundary ..
  · exact isCharBoundary_length _
  · exact hq

lemma Operator.region_covers (op : Operator) (hs : s.Sound) (m : Motion) (count : Nat)
    (explicit : Bool) : (op.region s m count explicit).Covers s.text := by
  have hb := op.region_begins hs m count explicit
  unfold region at hb ⊢
  dsimp only at hb ⊢
  have ht := Motion.target_valid (op.adjust s m) hs count explicit
  generalize Motion.target _ s.text s.cursor count explicit = target at hb ht ⊢
  split
  · exact ⟨Nat.le_trans (Nat.min_le_left ..) (Nat.le_max_left ..), Nat.max_lt.mpr ⟨hs.1, ht.1⟩⟩
  · rename_i hm
    rw [if_neg hm] at hb
    by_cases hlt : target < s.cursor
    · rw [if_pos hlt] at hb ⊢
      exact ⟨hb, Text.IsCharBoundary.min (regionEnd_lands hs.2)⟩
    · rw [if_neg hlt] at hb ⊢
      exact ⟨hb, Text.IsCharBoundary.min (regionEnd_lands ht.2)⟩

lemma Operator.lineRegion_covers (hs : s.Sound) {count : Nat} (hc : 0 < count) :
    (lineRegion s count).Covers s.text := by
  have hl : s.cursor.line < s.text.lineCount := hs.1
  refine ⟨?_, ?_⟩
  · exact Nat.le_min.mpr ⟨by omega, Nat.le_sub_one_of_lt hl⟩
  · exact Nat.lt_of_le_of_lt (Nat.min_le_right ..) (Nat.sub_lt (Nat.zero_lt_of_lt hl) Nat.one_pos)

lemma Surface.SelectsValid.covers (h : s.SelectsValid) {selection : Selection}
    (hsel : s.selection = some selection) : (Span.ofSelection s.text selection).Covers s.text := by
  obtain ⟨ha, hh⟩ := h _ hsel
  have hle := selection.start_le_stop
  obtain ⟨hstart, hstop⟩ := Selection.start_stop_of (P := Valid s.text) ha hh
  have hlines : selection.start.line ≤ selection.stop.line := by
    rw [Position.le_def] at hle
    omega
  have hb : (Span.ofSelection s.text selection).Begins s.text :=
    Selection.Fits.begins fun _ => ⟨hstart, hstop.1⟩
  unfold Span.ofSelection at hb ⊢
  cases hk : selection.kind with
  | characterwise =>
    rw [hk] at hb
    refine ⟨hb, ?_⟩
    dsimp only
    split
    · exact Span.min_boundary (Nat.le_succ _)
    · exact Text.IsCharBoundary.min (Grapheme.nextBoundary_boundary ..)
  | linewise => exact ⟨hlines, hstop.1⟩
  | blockwise => exact ⟨hlines, hstop.1⟩

lemma Span.Covers.widen {t : Text} {span : Span} (h : span.Covers t) (a : VisualAction) :
    (a.widen span).Covers t := by
  have hlines : (Span.lines span.firstLine span.lastLine).Covers t := by
    cases span with
    | chars start stop =>
      obtain ⟨⟨-, hle, hl⟩, -⟩ := h
      rw [Position.le_def] at hle
      exact ⟨by dsimp only [firstLine, lastLine]; omega, hl⟩
    | lines first last => exact h
    | block first last left right => exact h
  cases a <;> first | exact h | exact hlines

lemma within_ahead_covers (hs : s.Sound) (count : Nat) :
    (s.within s.cursor.byte (s.clustersAhead count)).Covers s.text :=
  within_covers hs hs.2 (clustersAhead_boundary hs count) (clustersAhead_spec hs count).1

lemma within_rest_covers (hs : s.Sound) :
    (s.within s.cursor.byte s.currentLine.byteLength).Covers s.text :=
  within_covers hs hs.2 (isCharBoundary_length _) hs.2.le

lemma Simple.deletion_covers (hs : s.Sound) (c : Simple) (count : Nat) :
    (c.deletion s count).Covers s.text := by
  cases c with
  | deleteBackward =>
    exact within_covers hs (clustersBehind_boundary hs count) hs.2 (clustersBehind_le ..)
  | deleteToEnd => exact within_rest_covers hs
  | changeToEnd => exact within_rest_covers hs
  | _ => exact within_ahead_covers hs count

lemma Insertion.deletion_covers (hs : s.Sound) (i : Insertion) (count : Nat) :
    (i.deletion s count).Covers s.text := by
  cases i with
  | substituteLine => exact ⟨Nat.le_refl _, hs.1⟩
  | _ => exact within_ahead_covers hs count

lemma Command.Follows.covers {p : Prefix} {c : Command} {visual : Bool} (hc : c.Follows p)
    (hv : c.isFor visual = true) (hs : s.Sound) (hsel : visual = true → s.SelectsValid)
    {span : Span} (hd : span ∈ c.deletion? s) : span.Covers s.text := by
  cases c with
  | operate op m count explicit =>
    obtain rfl := Option.some.inj hd
    exact op.region_covers hs m count explicit
  | operateLines op count =>
    obtain rfl := Option.some.inj hd
    exact Operator.lineRegion_covers hs hc.lineCount
  | simple c count =>
    obtain rfl := Option.some.inj hd
    exact c.deletion_covers hs count
  | insert i count =>
    obtain rfl := Option.some.inj hd
    exact i.deletion_covers hs count
  | visualAction a =>
    obtain ⟨selection, hx, rfl⟩ := Option.map_eq_some_iff.mp hd
    exact ((hsel hv).covers hx).widen a
  | _ => cases hd

end covers

section strips

variable {s s' : Surface} {span : Span} {register : Option Char}

lemma Surface.Strips.of_erase (ht : s'.text = (span.erase s).text)
    (hr : s'.registers = ((span.erase s).store register (span.textOf s.text)).registers) :
    s.Strips span register s' := by
  refine ⟨.inl ht, hr.trans ?_⟩
  rw [Surface.store, Surface.setRegister, Surface.registers_eraseSpan]

lemma Surface.Strips.of_clear {r : Surface × Text} (hc : r = VisualAction.clearRegion s span)
    (ht : s'.text = r.1.text) (hr : s'.registers = (r.1.store register r.2).registers) :
    s.Strips span register s' := by
  subst hc
  cases span with
  | chars start stop => exact .of_erase ht hr
  | lines first last => exact ⟨.inr ht, hr⟩
  | block first last left right => exact .of_erase ht hr

lemma Operator.apply_strips {op : Operator} (h : op.deletes = true) (s : Surface) (span : Span)
    (register : Option Char) : s.Strips span register (op.apply s span register) := by
  cases op with
  | delete => exact .of_erase rfl rfl
  | change => cases span <;> exact .of_clear rfl rfl rfl
  | yank => cases h
  | shift => cases h

lemma VisualAction.apply_strips {a : VisualAction} (h : a.deletes = true) (s : Surface)
    (span : Span) (register : Option Char) (count : Nat) :
    s.Strips (a.widen span) register (landed (a.apply s span register count)) := by
  cases a with
  | delete => exact .of_erase rfl rfl
  | deleteLines => exact .of_erase rfl rfl
  | change => exact .of_clear rfl rfl rfl
  | changeLines => exact .of_clear rfl rfl rfl
  | _ => cases h

lemma Insertion.substituteChars_strips (hs : s.Sound) (count : Nat) :
    s.Strips (s.within s.cursor.byte (s.clustersAhead count)) none
      (substituteChars.prepare s count) := by
  have hstop : Valid s.text ⟨s.cursor.line, s.clustersAhead count⟩ :=
    ⟨hs.1, clustersAhead_boundary hs count⟩
  obtain ⟨hd, -⟩ := Span.delete_within (s := s) hs hstop rfl (clustersAhead_spec hs count).1
  exact ⟨.inl rfl, congrArg (s.registers.set '"') hd⟩

lemma Insertion.substituteLine_strips (hs : s.Sound) (count : Nat) :
    s.Strips (.lines s.cursor.line s.cursor.line) none (substituteLine.prepare s count) := by
  have hstart : Valid s.text ⟨s.cursor.line, 0⟩ := ⟨hs.1, isCharBoundary_zero _⟩
  have hstop : Valid s.text ⟨s.cursor.line, s.currentLine.byteLength⟩ :=
    ⟨hs.1, isCharBoundary_length _⟩
  obtain ⟨hd, -⟩ := Span.delete_within (s := s) hstart hstop rfl (Nat.zero_le _)
  have hline := hd.trans (Span.textOf_from s.text s.cursor.line 0)
  have htext : (Span.lines s.cursor.line s.cursor.line).textOf s.text = s.currentLine ++ ['\n'] :=
    Span.textOf_lines s.text s.cursor.line 0
  refine ⟨.inr rfl, ?_⟩
  rw [htext]
  exact congrArg (fun l => s.registers.set '"' (l ++ ['\n'])) hline

lemma Insertion.prepare_strips {i : Insertion} (h : i.deletes = true) (hs : s.Sound)
    (count : Nat) : s.Strips (i.deletion s count) none (i.prepare s count) := by
  cases i with
  | substituteChars => exact substituteChars_strips hs count
  | substituteLine => exact substituteLine_strips hs count
  | _ => cases h

lemma Simple.Makes.strips {c : Simple} {count : Nat} (hc : c.Makes s count register s')
    (hd : c.deletes = true) : s.Strips (c.deletion s count) register s' := by
  cases hc with
  | deleteForward => exact Operator.apply_strips rfl ..
  | deleteBackward => exact Operator.apply_strips rfl ..
  | deleteToEnd => exact Operator.apply_strips rfl ..
  | changeToEnd => exact Operator.apply_strips rfl ..
  | _ => cases hd

lemma Command.Makes.strips {h : Host} {m : Mode} {c : Command} (hc : c.Makes h m s s')
    (hs : s.Sound) (hd : c.deletes = true) :
    ∃ span ∈ c.deletion? s, s.Strips span c.register? s' := by
  cases hc with
  | operate => exact ⟨_, rfl, Operator.apply_strips hd ..⟩
  | operateLines => exact ⟨_, rfl, Operator.apply_strips hd ..⟩
  | simple _ hc => exact ⟨_, rfl, hc.strips hd⟩
  | insert => exact ⟨_, rfl, Insertion.prepare_strips hd hs _⟩
  | visualAction hsel => exact ⟨_, congrArg (Option.map _) hsel, VisualAction.apply_strips hd ..⟩
  | _ => cases hd

end strips

namespace Engine

lemma reads?_of_complete {e : Engine} {k : Char} {c : Command}
    (hc : Command.parse e.mode.isVisual (e.pending.text ++ [k]) = .complete c) :
    e.reads? k = none := by
  have hn : macroBody? (e.pending.text ++ [k]) = none := by
    refine Option.not_isSome_iff_eq_none.mp fun hm => ?_
    cases hc.symm.trans (Command.parse_of_macroBody _ hm)
  have hn' : macroBody? e.pending.text = none := by
    cases hm : macroBody? e.pending.text with
    | none => rfl
    | some b => cases hn.symm.trans (macroBody?_append hm [k])
  unfold reads?
  split_ifs <;> first | rfl | assumption

lemma keyAt_editor {e : Engine} {h : Host} {k : Char} (hp : (e.stroke h k).2.isPlay = false)
    (depth : Nat) : (keyAt h depth e k).1.editor = (e.stroke h k).1.editor := by
  have hw : ∀ inner, (keyWith h inner e k).1.editor = (e.stroke h k).1.editor := by
    intro inner
    simp only [keyWith, reportMode_editor, record_editor]
    generalize e.stroke h k = r at hp ⊢
    obtain ⟨e', acted | _⟩ := r
    · rfl
    · cases hp
  cases depth <;> exact hw _

/-- What a command deletes is afterwards in the unnamed register and in that of the letter in front
of the command, as long as the name in front is a register's. -/
theorem deleted_text_kept {e : Engine} {k : Char} {c : Command} {p : Prefix} {body name : Text}
    {s : Surface} (h : Host) (depth : Nat) (hi : e.mode.isInsert = false)
    (hp : Prefix.split? (e.pending.text ++ [k]) = some (p, body))
    (hc : Command.parse e.mode.isVisual (e.pending.text ++ [k]) = .complete c)
    (hd : c.deletes = true) (hb : e.pending.surface = some name)
    (hs : e.workspace.get? name = some s) (hcur : s.Sound)
    (hsel : e.mode.isVisual = true → s.SelectsValid) (ha : Registers.Accepts (p.registerFor c))
    (hf : (∀ l ∈ s.text.lines, Unbroken l) ∨ ∀ span ∈ c.deletion? s, span.InLine s.text) :
    ∃ s', (keyAt h depth e k).1.workspace.get? name = some s' ∧
      (s'.text = s.text ∨ ∃ span ∈ c.deletion? s, ∃ ps r, Loses s.text s'.text ps ∧
        span.KeptAs ps r ∧ s.registers.Gains (p.registerFor c) r s'.registers) := by
  have hg : e.editor.Goes h (e.Puts h (.key k)) (e.stroke h k).1.editor :=
    act_goes (d := .key k) nofun
  obtain ⟨m, s', selection, hget, hk⟩ := hg.exists_surface hi hb hs
  have hplain := (stroke_plain_macros (reads?_of_complete hc) h).2
  have hcommand : (Input.key k).command? e = some c := by
    simp [Input.command?, hi, hc, Parse.toOption]
  refine ⟨_, (congrArg (·.workspace.get? name) (keyAt_editor hplain depth)).trans hget, ?_⟩
  rcases hk with rfl | hk
  · exact .inl rfl
  · have hfollows := Command.parse_follows hp hc
    have hworks := hk.works hcommand
    obtain ⟨span, hspan, hstrips⟩ := hworks.makes.strips hcur hd
    rw [hfollows.register] at hstrips
    obtain ⟨ps, r, hloses⟩ := hstrips.loses (hfollows.covers hworks.suits hcur hsel hspan)
      (hf.imp_right fun hin => hin span hspan) ha
    exact .inr ⟨span, hspan, ps, r, hloses⟩

theorem sample_deleted_text_kept :
    let s : Surface :=
      { name := "a".toList, text := "ab\ncd\nef".toList, cursor := ⟨1, 0⟩
        registers := ({} : Registers).set 'a' "x".toList }
    let e : Engine :=
      { workspace := ({} : Workspace).update "a".toList s
        pending := ⟨"\"Ad".toList, some "a".toList⟩ }
    (keyAt {} 1 e 'd').1.surface?.map (fun s => (s.text, s.registers.letters 'a')) =
        some ("ab\nef".toList, "xcd\n".toList) ∧
      ∃ s', (keyAt {} 1 e 'd').1.workspace.get? "a".toList = some s' ∧
        (s'.text = s.text ∨ ∃ span, some (Operator.lineRegion s 1) = some span ∧ ∃ ps r,
          Loses s.text s'.text ps ∧ span.KeptAs ps r ∧
            s.registers.Gains (some 'A') r s'.registers) := by
  intro s e
  refine ⟨by decide +kernel, ?_⟩
  exact deleted_text_kept (e := e) (k := 'd') (p := ⟨some 'A', none⟩)
    (c := .operateLines .delete 1 (some 'A')) {} 1 rfl rfl rfl rfl rfl
    (Table.get?_insert_self _ _ _) (by decide +kernel) (by decide +kernel) (by decide +kernel)
    (.inl (by decide +kernel))

example : ["\"%dd", "\"as"].map (fun keys =>
    ((sample "ab\ncd" []).after [({}, .command keys.toList)]).surface?.map
      fun s => (s.text, s.registers.unnamed, s.registers.letters 'a')) =
    [some ("cd".toList, [], []), some ("b\ncd".toList, "a".toList, [])] := by
  decide +kernel

end Engine

end ModalEdit
