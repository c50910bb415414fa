import ModalEdit.Proofs.Cursor
import ModalEdit.Proofs.LineByLine
import ModalEdit.Proofs.WholeLine

/-! What a substitution leaves in a text whose lines end with line feeds only. It visits the lines
of its range by their numbers, so where a line comes apart all later ones move away from under it;
only the last line of the range may come apart. -/

namespace ModalEdit

open Text

lemma LineRange.resolve_le (r : LineRange) (current n : Nat) :
    (r.resolve current n).1 ≤ (r.resolve current n).2 := by
  unfold resolve
  split
  · exact Nat.zero_le _
  · exact Nat.le_trans (Nat.min_le_left ..) (Nat.le_max_left ..)

namespace Surface

variable {s : Surface} {f : Text → Text} {first last : Nat}

def changedCount (s : Surface) (f : Text → Text) (is : List Nat) : Nat :=
  is.countP fun i => f (s.lineAt i) ≠ s.lineAt i

lemma mapLine_mapsLine (f : Text → Text) (n : Nat) :
    MapsLine f fun s i => (mapLine f (s, n) i).1 := by
  intro s i hs hi hx
  dsimp only
  rw [mapLine_eq]
  split_ifs with hf
  · rw [hf]
    exact (set_lineAt hi).symm
  · exact (RewritesLine.of_unbroken hs hi hx).2

lemma foldl_mapLine_surface (f : Text → Text) (is : List Nat) (s : Surface) (n : Nat) :
    (is.foldl (mapLine f) (s, n)).1 = is.foldl (fun s i => (mapLine f (s, 0) i).1) s := by
  induction is generalizing s n with
  | nil => rfl
  | cons i is ih =>
    rw [List.foldl_cons, List.foldl_cons, ← mapLine_surface f s n i]
    exact ih (mapLine f (s, n) i).1 (mapLine f (s, n) i).2

lemma mapLine_count (f : Text → Text) (s : Surface) (n i : Nat) :
    (mapLine f (s, n) i).2 = n + s.changedCount f [i] := by
  rw [mapLine_eq, changedCount]
  split_ifs with hf <;> simp [hf]

lemma foldl_mapLine_count (hs : ∀ l ∈ s.text.lines, Unbroken l) {is : List Nat} (hn : is.Nodup)
    (his : ∀ i ∈ is, i < s.lineCount ∧ Unbroken (f (s.lineAt i))) (n : Nat) :
    (is.foldl (mapLine f) (s, n)).2 = n + s.changedCount f is := by
  induction is generalizing s n with
  | nil => rfl
  | cons i is ih =>
    obtain ⟨hni, hn⟩ := List.nodup_cons.mp hn
    obtain ⟨⟨hi, hx⟩, his⟩ := List.forall_mem_cons.mp his
    have hset : (mapLine f (s, n) i).1.text.lines = _ := mapLine_mapsLine f n s i hs hi hx
    have hcount := mapLine_count f s n i
    rw [List.foldl_cons]
    generalize mapLine f (s, n) i = acc at hset hcount ⊢
    obtain ⟨s', n'⟩ := acc
    obtain rfl : n' = n + s.changedCount f [i] := hcount
    have hline : ∀ j ∈ is, s'.lineAt j = s.lineAt j := fun j hj =>
      lineAt_set_ne hset (ne_of_mem_of_not_mem hj hni)
    have hrest := ih (unbroken_set hset hs hx) hn (n := n + s.changedCount f [i]) fun j hj => by
      rw [hline j hj, lineCount, lineCount_set hset]
      exact his j hj
    have hsame : s'.changedCount f is = s.changedCount f is :=
      List.countP_congr fun j hj => by rw [hline j hj]
    rw [hrest, hsame, Nat.add_assoc, changedCount, changedCount, changedCount,
      ← List.countP_append, List.singleton_append]

lemma mapLine_text (hs : FeedsOnly s.text) {i : Nat} (hi : i < s.lineCount) (n : Nat) :
    (mapLine f (s, n) i).1.text = Span.joinLines (s.text.lines.set i (f (s.lineAt i))) := by
  obtain ⟨a, b, hab, h⟩ := exists_around hs.unbroken hi
  have hl : Unbroken (s.text.lineAt i) := lineAt_unbroken hs.unbroken i
  have hset := h.joinLines_set hl (hab ▸ hs)
  rw [← hab] at hset
  rw [← hset, mapLine_eq]
  split_ifs with hf
  · rw [hf]
    exact hab
  · exact rewriteLine_text h (clearLine_text h hab hl) _

lemma mapLines_spec (hs : FeedsOnly s.text) (hle : first ≤ last) (hl : last < s.lineCount)
    (hf : ∀ i < last, first ≤ i → Unbroken (f (s.lineAt i))) :
    (s.mapLines first last f).1.text =
        Span.joinLines (s.text.lines.mapIdx fun i l => if first ≤ i ∧ i ≤ last then f l else l) ∧
      (s.mapLines first last f).2 = s.changedCount f (lineRange first last) := by
  obtain ⟨n, rfl⟩ := Nat.exists_eq_add_of_le hle
  have hr : lineRange first (first + n) = List.range' first n ++ [first + n] := by
    rw [lineRange, show first + n + 1 - first = n + 1 by omega, List.range'_1_concat]
  have his : ∀ i ∈ List.range' first n, i < s.lineCount ∧ Unbroken (f (s.lineAt i)) := by
    intro i hi
    obtain ⟨hge, hlt⟩ := List.mem_range'_1.mp hi
    exact ⟨Nat.lt_trans hlt hl, hf i hlt hge⟩
  -- the lines before the last one, which stays as it is meanwhile
  have hnd : (List.range' first n).Nodup := List.nodup_range' ..
  have hcount := foldl_mapLine_count hs.unbroken hnd his 0
  obtain ⟨hu, hlines⟩ := (mapLine_mapsLine f 0).foldl hs.unbroken hnd his
  rw [← foldl_mapLine_surface f _ s 0] at hu hlines
  rw [mapLines, hr, List.foldl_append]
  generalize (List.range' first n).foldl (mapLine f) (s, 0) = acc at hu hlines hcount
  obtain ⟨s', k⟩ := acc
  have hlast : s'.lineAt (first + n) = s.lineAt (first + n) := by
    simp [lineAt, Text.lineAt, line?, hlines]
  have hl' : first + n < s'.lineCount := by
    rw [lineCount, lineCount_eq_length] at hl ⊢
    rwa [hlines, List.length_mapIdx]
  refine ⟨?_, ?_⟩
  · have ht := mapLine_text (f := f) (feedsOnly_of_unbroken hu) hl' k
    rw [hlast, hlines] at ht
    refine ht.trans (congrArg Span.joinLines (List.ext_getElem? fun i => ?_))
    rw [lineCount, lineCount_eq_length] at hl
    by_cases hi : i = first + n
    · subst hi
      simp [hl, lineAt, Text.lineAt, line?]
    · simp [Ne.symm hi, List.getElem?_set_ne, show i < first + n ↔ i ≤ first + n by omega]
  · have hcount' : k = s.changedCount f (List.range' first n) := by simpa using hcount
    have hone : s'.changedCount f [first + n] = s.changedCount f [first + n] := by
      simp only [changedCount, List.countP_singleton, hlast]
    change (mapLine f (s', k) (first + n)).2 = _
    rw [mapLine_count, hone, hcount', changedCount, changedCount, changedCount, List.countP_append]

end Surface

namespace Engine

variable {e : Engine} {h : Host} {s : Surface} {r : LineRange} {pattern replacement : Text}
  {all : Bool} {p : Pattern}

/-- A substitution by `f` is done: each line of the range became what `f` makes of it, and the
number of lines that this changed is said, or that there are none. -/
structure Substituted (e : Engine) (s : Surface) (f : Text → Text) (first last : Nat)
    (pattern : Text) (x : Engine × Bool) : Prop where
  text : x.1.surface?.map (·.text) =
    some (Span.joinLines (s.text.lines.mapIdx fun i l => if first ≤ i ∧ i ≤ last then f l else l))
  said : x.1.interaction = e.interaction.say textPane
    (if s.changedCount f (lineRange first last) = 0 then "pattern not found: ".toList ++ pattern
    else Nat.toDigits 10 (s.changedCount f (lineRange first last)) ++ " lines changed".toList)
  acted : x.2 = decide (s.changedCount f (lineRange first last) ≠ 0)
  mode : x.1.mode = e.mode

lemma putSurface_interaction (e : Engine) (s : Surface) :
    (e.putSurface s).interaction = e.interaction := by
  unfold putSurface
  split <;> rfl

section substitute

variable (hs : e.surface? = some s) (ht : FeedsOnly s.text) (hp : Pattern.ofText? pattern = some p)
  (hf : ∀ i < (r.resolve s.cursor.line s.lineCount).2,
    (r.resolve s.cursor.line s.lineCount).1 ≤ i →
    Unbroken (p.replace all (Pattern.Template.ofShort replacement) (s.lineAt i)))
include hs ht hp hf

lemma substitute_substituted :
    e.Substituted s (p.replace all (Pattern.Template.ofShort replacement))
      (r.resolve s.cursor.line s.lineCount).1 (r.resolve s.cursor.line s.lineCount).2 pattern
      (e.substitute s r pattern replacement all) := by
  obtain ⟨htext, hcount⟩ := Surface.mapLines_spec ht (r.resolve_le s.cursor.line s.lineCount)
    (r.resolve_lt s.cursor.line (lineCount_pos s.text)) hf
  unfold substitute
  rw [hp]
  dsimp only
  generalize s.mapLines _ _ _ = m at htext hcount ⊢
  obtain ⟨s', n⟩ := m
  dsimp only at htext hcount
  have hs' : (e.putSurface s').surface?.map (·.text) = some s'.text := by
    rw [surface?_putSurface hs]
    rfl
  rw [htext] at hs'
  have hi := putSurface_interaction e s'
  cases n with
  | zero => refine ⟨hs', ?_, ?_, putSurface_mode⟩ <;> simp [← hcount, tellUnknownPattern, say, hi]
  | succ n => refine ⟨hs', ?_, ?_, putSurface_mode⟩ <;> simp [← hcount, say, hi]

lemma runWhole_substituted (hu : Unlocked h s) {body : Text}
    (hk : CommandKind.ofText body = .line)
    (hc : LineCommand.parse body = .substitute r pattern replacement all) :
    e.Substituted s (p.replace all (Pattern.Template.ofShort replacement))
      (r.resolve s.cursor.line s.lineCount).1 (r.resolve s.cursor.line s.lineCount).2 pattern
      (e.runWhole h body) := by
  let start : Engine := { e with resolved := none, pending := e.pending.set body }
  have hs' : start.surface? = some s := hs
  have hk' : start.pending.kind = .line := hk
  have hline : start.runLine h s = start.substitute s r pattern replacement all := by
    have hu' : (h.readonly || s.readonly) = false := hu
    have hc' : LineCommand.parse start.pending.text = .substitute r pattern replacement all := hc
    simp only [runLine, hk', runLineCommand, hc', editedBy, editable, hu', Bool.false_eq_true,
      ↓reduceIte]
  have hsub : start.Substituted s _ _ _ pattern
      (start.substitute s r pattern replacement all) := substitute_substituted hs' ht hp hf
  have hfinish : start.finishLine h =
      ({ (start.runLine h s).1 with pending := (start.runLine h s).1.pending.clear },
        (start.runLine h s).2) := by
    rw [finishLine, hs']
  have hbody : (CommandKind.ofText body).isLine = true := by
    rw [hk]
    rfl
  obtain ⟨hw, -, -⟩ := runWhole_of_line (e := e) (h := h) hbody
  have hw' : e.runWhole h body = (reportMode
      { (start.finishLine h).1 with macros := e.macros.jot (body ++ ['\r']) } e.mode,
      (start.finishLine h).2) := hw
  rw [hw', hfinish, hline, reportMode, if_pos hsub.mode]
  exact ⟨hsub.text, hsub.said, hsub.acted, hsub.mode⟩

/-- A substitution, as one command or typed with an Enter, maps each line of its range once, as
long as no line before the last one of the range comes apart. -/
theorem substitution_line_by_line (hi : e.mode.isInsert = false) (hu : Unlocked h s) {t : Text}
    (hk : CommandKind.ofText (withoutEnter t) = .line)
    (hc : LineCommand.parse (withoutEnter t) = .substitute r pattern replacement all) :
    let f := p.replace all (Pattern.Template.ofShort replacement)
    let range := r.resolve s.cursor.line s.lineCount
    e.Substituted s f range.1 range.2 pattern (e.command h t) ∧
      (e.pending.text = [] → (∀ c ∈ t, Typable c) →
        e.Substituted s f range.1 range.2 pattern (e.type h (t ++ ['\r']))) := by
  intro f range
  have hl : (CommandKind.ofText (withoutEnter t)).isLine = true := by
    rw [hk]
    rfl
  have hrun := runWhole_substituted hs ht hp hf hu hk hc
  refine ⟨?_, fun hn htyp => ?_⟩
  · have hw : (!e.mode.isInsert && isWhole (withoutEnter t)) = true := by simp [hi, isWhole, hl]
    rw [command, if_pos hw]
    exact hrun
  · rw [withoutEnter_of_typable htyp] at hl hrun
    rw [runWhole_eq_type hi hn hl htyp] at hrun
    exact ⟨hrun.text, hrun.said, hrun.acted, hrun.mode⟩

end substitute

theorem sample_substitution_line_by_line :
    let x := (sample "b\na\nb" []).command {} ":2,$s/b/x\ry/".toList
    x.1.surface?.map (·.text) = some "b\na\nx\ry".toList ∧
      x.1.interaction.notices = [.status textPane "1 lines changed".toList] ∧ x.2 = true := by
  have hp : Pattern.ofText? ['b'] =
      some ((Pattern.ofText? ['b']).get (by decide +kernel)) := by simp
  have hc : LineCommand.parse (withoutEnter ":2,$s/b/x\ry/".toList) =
      .substitute ⟨some (.line 2), some .last, false⟩ ['b'] "x\ry".toList false := by decide +kernel
  obtain ⟨hx, -⟩ := substitution_line_by_line (e := sample "b\na\nb" []) (h := {}) rfl
    (by decide +kernel) hp (by decide +kernel) rfl rfl (by decide +kernel) hc
  refine ⟨hx.text.trans (by decide +kernel), ?_, hx.acted.trans (by decide +kernel)⟩
  rw [hx.said]
  decide +kernel

end Engine

end ModalEdit
