import ModalEdit.Proofs.OnLine
import ModalEdit.Proofs.Spelling

namespace ModalEdit

open Text

namespace Text

variable {t a b b' x : Text} {i n : Nat}

lemma lines_nil : lines [] = [[]] := rfl

lemma lines_wholeLines (ht : ∀ l ∈ t.lines, Unbroken l) (i n : Nat) (b : Text) :
    lines (t.wholeLines i n ++ b) = (List.range' i n).map t.lineAt ++ lines b := by
  induction n generalizing i with
  | zero => rfl
  | succ n ih =>
    rw [wholeLines_cons, List.append_assoc, List.cons_append,
      lines_unbroken (lineAt_unbroken ht i) (lines_feed _), ih, List.range'_succ]
    rfl

lemma lines_without (ht : ∀ l ∈ t.lines, Unbroken l) (h : Around a b' i)
    (hab : t = a ++ (t.wholeLines i n ++ b)) :
    lines (a ++ b) = t.lines.take i ++ t.lines.drop (i + n) := by
  obtain ⟨pre, rfl, hw⟩ := h.lines_append
  have hl : t.lines = pre ++ ((List.range' pre.length n).map t.lineAt ++ lines b) := by
    have hl := congrArg lines hab
    rwa [hw, lines_wholeLines ht] at hl
  rw [hl, hw, List.take_left, ← List.drop_drop, List.drop_left, List.drop_left' (by simp)]

lemma lines_upto (h : Around a b' i) (hx : Unbroken x) (w : Text) :
    lines (a ++ x) = (lines (a ++ x ++ '\n' :: w)).take (i + 1) := by
  obtain ⟨pre, rfl, hw⟩ := h.lines_append
  have hend := lines_unbroken hx lines_nil
  have hmore : lines (a ++ x ++ '\n' :: w) = pre ++ [x] ++ lines w := by
    rw [List.append_assoc, hw, lines_unbroken hx (lines_feed w)]
    simp
  rw [List.append_nil] at hend
  rw [hw, hend, hmore, List.take_left' (by simp)]

lemma Around.lineCount_lt (h : Around a b' i) (b : Text) : i < lineCount (a ++ b) := by
  obtain ⟨pre, rfl, hw⟩ := h.lines_append
  have hpos := lineCount_pos b
  rw [lineCount_eq_length] at hpos ⊢
  rw [hw, List.length_append]
  omega

lemma Around.lineCount_last (h : Around a b' i) (hx : Unbroken x) :
    lineCount (a ++ x) = i + 1 := by
  obtain ⟨pre, rfl, hw⟩ := h.lines_append
  have hl := lines_unbroken hx lines_nil
  rw [List.append_nil] at hl
  rw [lineCount_eq_length, hw, hl, List.length_append]
  rfl

end Text

namespace Surface

variable {s : Surface} {p : Position} {a b b' x : Text} {i : Nat}

lemma paste_above (ht : s.text = a ++ b) (h : Around a b' i) (hp : p.line = i) (body : Text) :
    (s.paste p (body ++ ['\n']) .before 1).1.text = a ++ (body ++ ['\n'] ++ b) := by
  have hcount : i < s.lineCount := by
    rw [lineCount, ht]
    exact h.lineCount_lt b
  have ho := h.offset unbroken_nil b
  rw [List.append_nil, ← ht] at ho
  have hlast : (body ++ ['\n']).getLast? = some '\n' := by simp
  have htext := insert_between ht ho (body ++ ['\n'])
  simpa [paste, hlast, pasteLines, hp, hcount, copies] using htext

lemma paste_below (ht : s.text = a ++ x) (h : Around a b' i) (hx : Unbroken x) (hp : p.line = i)
    (body : Text) :
    (s.paste p (body ++ ['\n']) .after 1).1.text = a ++ x ++ '\n' :: body := by
  have hcount : s.text.lineCount = i + 1 := by
    rw [ht]
    exact h.lineCount_last hx
  have ho : s.text.offsetOf ⟨i, s.lineLength i⟩ = byteLength (a ++ x) := by
    rw [← ht]
    exact offsetOf_end hcount.symm
  have hlast : (body ++ ['\n']).getLast? = some '\n' := by simp
  have htext := insert_between (ht.trans (List.append_nil _).symm) ho ('\n' :: body)
  simpa [paste, hlast, pasteLines, hp, lineCount, hcount, copies] using htext

end Surface

lemma Span.textOf_lines_ne_nil {t : Text} {first last : Nat} (hle : first ≤ last) :
    (Span.lines first last).textOf t ≠ [] := by
  obtain ⟨n, rfl⟩ : ∃ n, last = first + n := ⟨last - first, by omega⟩
  rw [textOf_lines]
  simp

lemma Prefix.escapeKey_not_mem {q : Text} {p : Prefix} (hq : split? q = some (p, []))
    (hr : Registers.Accepts p.register) : escapeKey ∉ q := by
  intro hx
  rcases (mem_header hq).1 _ hx with hx | hx | hx
  · cases hx
  · cases hx
  · cases hr _ hx

namespace Operator

variable {s : Surface} {first n : Nat} {register : Option Char}

lemma delete_lines_cursor (s : Surface) (first last : Nat) (register : Option Char) :
    (delete.apply s (.lines first last) register).cursor.line =
      min first ((delete.apply s (.lines first last) register).lineCount - 1) := by
  change min (min first _) _ = min first _
  exact min_eq_left (Nat.min_le_right ..)

lemma delete_lines_unnamed (hr : Registers.Accepts register) (s : Surface) (span : Span) :
    (delete.apply s span register).registers.unnamed = span.textOf s.text := by
  have hg := (hr.gains s.registers (span.textOf s.text)).unnamed
  rwa [← Surface.registers_eraseSpan s span] at hg

lemma delete_paste_above (hs : ∀ l ∈ s.text.lines, Unbroken l)
    (hn : first + n + 1 < s.lineCount) {s' : Surface}
    (hs' : delete.apply s (.lines first (first + n)) register = s') :
    s'.text.lines = s.text.lines.take first ++ s.text.lines.drop (first + n + 1) ∧
      (s'.paste s'.cursor ((Span.lines first (first + n)).textOf s.text) .before 1).1.text =
        s.text := by
  obtain ⟨a, b, b', h, ht, ht'⟩ := Span.erase_lines_inner hs hn
  have htext : s'.text = a ++ b := by
    rw [← hs', ← ht']
    rfl
  have hline : s'.cursor.line = first := by
    have hcount := h.lineCount_lt b
    rw [← htext] at hcount
    rw [← hs', delete_lines_cursor, hs']
    exact Nat.min_eq_left (Nat.le_sub_one_of_lt hcount)
  rw [Span.textOf_lines, Surface.paste_above htext h hline]
  refine ⟨by rw [htext, lines_without hs h ht, Nat.add_assoc], ?_⟩
  rw [wholeLines_succ, ← List.append_assoc (wholeLines _ _ _)] at ht
  exact ht.symm

lemma delete_paste_below (hs : ∀ l ∈ s.text.lines, Unbroken l)
    (hn : first + 1 + n + 1 = s.lineCount) {s' : Surface}
    (hs' : delete.apply s (.lines (first + 1) (first + 1 + n)) register = s') :
    s'.text.lines = s.text.lines.take (first + 1) ∧
      (s'.paste s'.cursor ((Span.lines (first + 1) (first + 1 + n)).textOf s.text) .after 1).1.text =
        s.text := by
  obtain ⟨a, b', h, ht, ht'⟩ := Span.erase_lines_tail hs hn
  have hx := lineAt_unbroken hs first
  have htext : s'.text = a ++ s.text.lineAt first := by
    rw [← hs', ← ht']
    rfl
  have hline : s'.cursor.line = first := by
    have hcount : s'.lineCount = first + 1 := by
      rw [Surface.lineCount, htext, h.lineCount_last hx]
    rw [← hs', delete_lines_cursor, hs', hcount]
    exact Nat.min_eq_right (Nat.le_succ _)
  rw [Span.textOf_lines, Surface.paste_below htext h hx hline]
  refine ⟨?_, ht.symm⟩
  rw [htext, lines_upto h hx, ← ht]

lemma delete_paste (hs : ∀ l ∈ s.text.lines, Unbroken l) {last : Nat} (hle : first ≤ last)
    (hl : last ≤ s.lastLine) {s' : Surface}
    (hs' : delete.apply s (.lines first last) register = s') {t : Text}
    (ht : (Span.lines first last).textOf s.text = t) :
    (last < s.lastLine ∨ 0 < first →
        s'.text.lines = s.text.lines.take first ++ s.text.lines.drop (last + 1)) ∧
      (last < s.lastLine → (s'.paste s'.cursor t .before 1).1.text = s.text) ∧
      (last = s.lastLine → 0 < first → (s'.paste s'.cursor t .after 1).1.text = s.text) := by
  have hcount : s.text.lineCount = s.lastLine + 1 :=
    (Nat.sub_add_cancel (lineCount_pos s.text)).symm
  obtain ⟨n, rfl⟩ : ∃ n, last = first + n := ⟨last - first, by omega⟩
  by_cases hnext : first + n < s.lastLine
  · obtain ⟨hlines, htext⟩ :=
      delete_paste_above hs (by change _ < s.text.lineCount; omega) hs'
    rw [ht] at htext
    exact ⟨fun _ => hlines, fun _ => htext, fun he => absurd hnext (Nat.not_lt_of_le he.ge)⟩
  · have hend : first + n = s.lastLine := by omega
    cases first with
    | zero => exact ⟨fun h => by omega, fun h => absurd h hnext, fun _ h => absurd h (by decide)⟩
    | succ first =>
      obtain ⟨hlines, htext⟩ :=
        delete_paste_below hs (by change _ = s.text.lineCount; omega) hs'
      have hnone : s.text.lines.drop (first + 1 + n + 1) = [] := by
        refine List.drop_eq_nil_of_le ?_
        rw [← lineCount_eq_length]
        omega
      rw [ht] at htext
      exact ⟨fun _ => by rw [hlines, hnone, List.append_nil], fun h => absurd h hnext,
        fun _ _ => htext⟩

end Operator

namespace Engine

variable {e : Engine} {h : Host} {s : Surface} {t : Text} {n : Nat} {p : Prefix}

def pasteKey : Surface.Side → Char
  | .after => 'p'
  | .before => 'P'

lemma surface?_type_paste (side : Surface.Side) (hm : e.mode = .normal)
    (hs : e.surface? = some s) (hu : Unlocked h s) (hp : e.pending.text = [])
    (ht : s.registers.unnamed = t) (hne : t ≠ []) :
    (e.type h [pasteKey side]).1.surface? = some (Surface.landed (s.paste s.cursor t side 1)) := by
  have hparse : Command.parse false [pasteKey side] = .complete (.simple (.paste side) 1 none) := by
    cases side <;> rfl
  have hkey : ∀ k ∈ [pasteKey side], Typable k :=
    List.forall_mem_singleton.mpr (by cases side <;> decide)
  obtain ⟨heditor, -⟩ := editor_type_of_complete (h := h) (by rw [hm]; rfl) hs (by simp [hp])
    (List.cons_ne_nil _ _) hkey (by rwa [hp, hm])
  obtain ⟨c, t, rfl⟩ := List.exists_cons_of_ne_nil hne
  have hget : s.registers.get? '"' = some (c :: t) := congrArg some ht
  simp only [runCommand, runSimple, editedBy, editable, if_neg (Bool.eq_false_iff.mp hu),
    pasteRegister, Option.getD_none, hget] at heditor
  rw [← editor_surface?, heditor, editor_putSurface]
  exact Editor.surface?_put hs

lemma exists_deleted (hm : e.mode = .normal) (hs : e.surface? = some s) (hu : Unlocked h s)
    (hq : Prefix.split? e.pending.text = some (p, [])) (hr : Registers.Accepts p.register)
    {digits : Text} {count : Nat} (hd : ∀ k ∈ digits, Typable k)
    (hcount : Prefix.split? (e.pending.text ++ digits) = some (⟨p.register, some count⟩, []))
    (hcap : count ≤ countCap) {s' : Surface}
    (hs' : Operator.delete.apply s (Operator.lineRegion s count) p.register = s') :
    let deleted := (e.type h (digits ++ ['d', 'd'])).1
    deleted.mode = .normal ∧ deleted.surface? = some s' ∧ Unlocked h s' ∧
      deleted.pending.text = [] := by
  have hkey : Operator.ofKey? 'd' = some .delete := rfl
  obtain ⟨heditor, hpend⟩ := editor_type_doubled hm hs hu hkey rfl hcount
    (Prefix.escapeKey_not_mem hq hr) hd
  simp only [Prefix.countOrOne, Option.getD_some, Nat.min_eq_left hcap, hs'] at heditor
  refine ⟨congrArg Editor.mode heditor, ?_, ?_, hpend⟩
  · rw [← editor_surface?, heditor]
    exact Editor.surface?_operated hs
  · have hro : s'.readonly = s.readonly := hs' ▸ Surface.readonly_eq (outline_applyOperator ..)
    rw [Unlocked, hro, hu]

/-- Deleted lines come back at the next `P` if a line followed them, and else at the next `p` if a
line is left. A register and a count may be pending in front of the typed count. -/
theorem lines_put_back (hm : e.mode = .normal) (hs : e.surface? = some s) (hu : Unlocked h s)
    (hc : s.OnLine) (ht : FeedsOnly s.text) (hq : Prefix.split? e.pending.text = some (p, []))
    (hr : Registers.Accepts p.register) (hn : 0 < n) :
    ∃ count,
      Prefix.split? (e.pending.text ++ Nat.toDigits 10 n) =
        some (⟨p.register, some count⟩, []) ∧
      (p.count = none → count = min n countCap) ∧
      let last := min (s.cursor.line + count - 1) s.lastLine
      let deleted := (e.type h (Nat.toDigits 10 n ++ ['d', 'd'])).1
      (last < s.lastLine ∨ 0 < s.cursor.line →
        deleted.surface?.map (·.text.lines) =
          some (s.text.lines.take s.cursor.line ++ s.text.lines.drop (last + 1))) ∧
      (last < s.lastLine → (deleted.type h ['P']).1.surface?.map (·.text) = some s.text) ∧
      (last = s.lastLine → 0 < s.cursor.line →
        (deleted.type h ['p']).1.surface?.map (·.text) = some s.text) := by
  obtain ⟨count, hcount, hpos, hcap, hnone⟩ := Prefix.split?_append_toDigits hq hn
  refine ⟨count, hcount, hnone, ?_⟩
  intro last deleted
  have hle : s.cursor.line ≤ last := by
    have hlast : s.cursor.line ≤ s.lastLine := Nat.le_sub_one_of_lt hc
    exact Nat.le_min.mpr ⟨by omega, hlast⟩
  generalize hs' : Operator.delete.apply s (.lines s.cursor.line last) p.register = s'
  obtain ⟨hdm, hd, hdu, hpend⟩ :=
    exists_deleted hm hs hu hq hr Prefix.typable_toDigits hcount hcap hs'
  have hun : s'.registers.unnamed = (Span.lines s.cursor.line last).textOf s.text :=
    hs' ▸ Operator.delete_lines_unnamed hr s _
  obtain ⟨hlines, habove, hbelow⟩ :=
    Operator.delete_paste ht.unbroken hle (Nat.min_le_right ..) hs' rfl
  have hpaste : ∀ side, (deleted.type h [pasteKey side]).1.surface?.map (·.text) =
      some (s'.paste s'.cursor ((Span.lines s.cursor.line last).textOf s.text) side 1).1.text :=
    fun side => by
      rw [surface?_type_paste side hdm hd hdu hpend hun (Span.textOf_lines_ne_nil hle)]
      rfl
  refine ⟨fun h => ?_, fun h => ?_, fun h hpos => ?_⟩
  · rw [hd, Option.map_some, hlines h]
  · exact (hpaste .before).trans (congrArg some (habove h))
  · exact (hpaste .after).trans (congrArg some (hbelow h hpos))

theorem sample_lines_put_back :
    let e := { sample "a\n\nb" [] with pending := ⟨['"', 'x'], some ['a']⟩ }
    let deleted := (e.type {} (Nat.toDigits 10 2 ++ ['d', 'd'])).1
    deleted.surface?.map (·.text.lines) = some [['b']] ∧
      (deleted.type {} ['P']).1.surface?.map (·.text) = some "a\n\nb".toList := by
  intro e deleted
  obtain ⟨s, hs⟩ : ∃ s, e.surface? = some s := ⟨_, rfl⟩
  obtain rfl := Option.some.inj hs
  have hq : Prefix.split? ['"', 'x', '2'] = some (⟨some 'x', some 2⟩, []) := by decide
  obtain ⟨count, hcount, -, hlines, hP, -⟩ :=
    lines_put_back (h := {}) (p := ⟨some 'x', none⟩) (n := 2) rfl hs rfl (lineCount_pos _)
      (by decide) (by decide) (by decide) (by decide)
  obtain rfl : count = 2 := by
    cases hcount.symm.trans hq
    rfl
  exact ⟨hlines (.inl (by decide)), hP (by decide)⟩

theorem lines_not_put_back_pending :
    let e := ((sample "a\nb\nc" []).type {} ['d']).1
    let deleted := (e.type {} (Nat.toDigits 10 2 ++ ['d', 'd'])).1
    (e.mode = .normal ∧ e.isReadonly {} = false ∧
      e.surface?.map (fun s => (s.text, s.cursor)) = some ("a\nb\nc".toList, .origin)) ∧
    deleted.surface?.map (·.text) = some ['c'] ∧
      (deleted.type {} ['P']).1.surface?.map (·.text) ≠ some "a\nb\nc".toList := by
  decide +kernel

end Engine

end ModalEdit
