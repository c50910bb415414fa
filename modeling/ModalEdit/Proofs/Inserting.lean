import ModalEdit.Proofs.KeptPositions
import ModalEdit.Proofs.Spelling

namespace ModalEdit

open Text Grapheme

namespace Text

variable {a b : Text} {i k : Nat}

lemma Ends.change_plain (h : Ends a b i k) (ha : '\r' ∉ a) (b' : Text) : Ends a b' i k :=
  h.change_apart fun _ hr => absurd (List.mem_of_getLast? hr) ha

lemma Ends.back (h : Ends a b i k) {n : Nat} (hn : IsCharBoundary (lineAt (a ++ b) i) n)
    (hle : n ≤ k) : ∃ a' w, a = a' ++ w ∧ n + byteLength w = k ∧ Ends a' (w ++ b) i n := by
  have hv : Valid (a ++ b) ⟨i, n⟩ := ⟨h.valid.1, hn⟩
  obtain ⟨a', b', hab, hlen, hends⟩ := hv.ends
  have hoff : byteLength a' ≤ byteLength a := by
    rw [hlen, ← h.offset]
    exact offsetOf_mono h.valid.1 (.inr ⟨rfl, hle⟩)
  obtain ⟨w, rfl, rfl⟩ := exists_append_of_le hab.symm hoff
  refine ⟨a', w, rfl, ?_, hends⟩
  obtain ⟨-, -, -, ho⟩ := h.spec
  obtain ⟨-, -, -, ho'⟩ := hends.spec
  rw [← List.append_assoc] at ho'
  rw [byteLength_append] at ho
  dsimp only at ho'
  omega

end Text

lemma Grapheme.prevBoundary_lt (l : Text) {b : Nat} (hb : 0 < b) : prevBoundary l b < b := by
  unfold prevBoundary
  split
  · exact hb
  · cases hm : ((starts l).takeWhile (· < b)).getLast? with
    | none => exact hb
    | some k => simpa using List.mem_takeWhile_imp (List.mem_of_getLast? hm)

namespace Surface

variable {s : Surface} {x y v r : Text} {c : Char}

@[simp] lemma stepBack_text (s : Surface) : s.stepBack.text = s.text := by
  unfold stepBack
  split <;> rfl

def typeKey (acc : Surface × Text) (c : Char) : Surface × Text :=
  let (s, r) := acc
  if isErasing c then
    if s.cursor.byte = 0 then (s, r)
    else
      let joint : Position := ⟨s.cursor.line, prevBoundary s.currentLine s.cursor.byte⟩
      ((s.erase joint s.cursor).setCursor joint, r.dropLast)
  else
    let c := if c = '\r' then '\n' else c
    (landed (s.insert s.cursor [c]), r ++ [c])

structure Between (x y : Text) (s : Surface) (v : Text) : Prop where
  text : s.text = x ++ (v ++ y)
  ends : Ends (x ++ v) y s.cursor.line s.cursor.byte
  plain : '\r' ∉ x ++ v

namespace Between

lemma offset (h : Between x y s v) : s.text.offsetOf s.cursor = byteLength (x ++ v) := by
  rw [h.text, ← List.append_assoc]
  exact h.ends.offset

lemma insert (h : Between x y s v) (hc : '\r' ∉ r) :
    Between x y (landed (s.insert s.cursor r)) (v ++ r) := by
  have hxy : s.text = x ++ v ++ y := by rw [h.text, List.append_assoc]
  have ht : (s.insert s.cursor r).1.text = x ++ (v ++ r ++ y) := by
    rw [insert_between hxy h.offset]
    simp
  have hends : Ends (x ++ (v ++ r)) y (s.insert s.cursor r).2.line (s.insert s.cursor r).2.byte := by
    rw [← List.append_assoc]
    exact insert_ends hxy h.offset r
  have hcursor : (landed (s.insert s.cursor r)).cursor = (s.insert s.cursor r).2 := by
    have hv := hends.valid
    rw [List.append_assoc, ← ht] at hv
    exact clamp_of_valid hv
  refine ⟨ht, by rwa [hcursor], ?_⟩
  rw [← List.append_assoc, List.mem_append, not_or]
  exact ⟨h.plain, hc⟩

lemma erase (h : Between x y s v) (hpos : 0 < s.cursor.byte) :
    let joint : Position := ⟨s.cursor.line, prevBoundary s.currentLine s.cursor.byte⟩
    ∃ a w, x ++ v = a ++ w ∧ w ≠ [] ∧ Between a y ((s.erase joint s.cursor).setCursor joint) [] := by
  intro joint
  have hline : s.currentLine = Text.lineAt (x ++ v ++ y) s.cursor.line := by
    rw [currentLine, lineAt, h.text, List.append_assoc]
  have hbound : IsCharBoundary (Text.lineAt (x ++ v ++ y) s.cursor.line) joint.byte :=
    hline ▸ prevBoundary_boundary s.currentLine s.cursor.byte
  obtain ⟨a, w, haw, hlen, hends⟩ := h.ends.back hbound (prevBoundary_le ..)
  have hs : s.text = a ++ (w ++ y) := by
    rw [h.text, ← List.append_assoc x, haw, List.append_assoc]
  have hw : w ≠ [] := by
    rintro rfl
    have hlt := prevBoundary_lt s.currentLine hpos
    rw [byteLength_nil, Nat.add_zero] at hlen
    exact Nat.ne_of_lt hlt hlen
  have hplain : '\r' ∉ a := fun hm => h.plain (haw ▸ List.mem_append_left w hm)
  have htext : (s.erase joint s.cursor).text = a ++ y := by
    refine (delete_between hs ?_ ?_).1
    · rw [hs]
      exact hends.offset
    · rw [← haw]
      exact stopOffset_of_ends h.ends (by rw [h.text, List.append_assoc])
  have hends' := hends.change_plain hplain y
  have hcursor : ((s.erase joint s.cursor).setCursor joint).cursor = joint := by
    have hv := hends'.valid
    rw [← htext] at hv
    exact clamp_of_valid hv
  refine ⟨a, w, haw, hw, htext, ?_, by simpa using hplain⟩
  rw [hcursor, List.append_nil]
  exact hends'

lemma of_offset (ht : s.text = x ++ y) (hc : s.text.clamp s.cursor = s.cursor)
    (ho : s.text.offsetOf s.cursor = byteLength x) (hr : '\r' ∉ s.text) : Between x y s [] := by
  have hl : s.cursor.line < s.text.lineCount := hc ▸ clamp_line s.text s.cursor
  have hb : s.cursor.byte ≤ byteLength (s.text.lineAt s.cursor.line) := by
    have hle : (s.text.clamp s.cursor).byte ≤ s.text.lineLength (s.text.clamp s.cursor).line :=
      Nat.min_le_right ..
    rwa [hc] at hle
  obtain ⟨a, b, hab, ha⟩ := exists_line hl
  rw [offsetOf, hc, ← ha] at ho
  -- the prefix ends within the line, which it parts at the byte of the cursor
  obtain ⟨u, rfl, hu⟩ := exists_append_of_le (hab.symm.trans ht) (by omega)
  rw [byteLength_append, Nat.add_left_cancel_iff] at ho
  obtain ⟨w, hlw, -⟩ := exists_append_of_le hu.symm (by omega)
  have hv : Valid s.text s.cursor := by
    refine ⟨hl, ?_⟩
    rw [Lands, hlw, ho]
    exact isCharBoundary_between u w
  have hends := hv.ends_at ht (by rw [offsetOf, hc, ← ha, ho, byteLength_append])
  refine ⟨ht, by simpa using hends, fun hm => hr ?_⟩
  rw [ht]
  exact List.mem_append_left _ (by simpa using hm)

end Between

end Surface

namespace Engine

variable {e : Engine} {h : Host} {m : Mode} {s : Surface} {typing : Typing} {c : Char} {ks : Text}

structure Inserts (e : Engine) (m : Mode) (s : Surface) (typing : Typing) : Prop where
  mode : e.mode = m
  surface : e.surface? = some s
  typing : e.typing = typing

def textAfter (e : Engine) (h : Host) (ks : Text) : Option Text :=
  (e.type h ks).1.surface?.map (·.text)

lemma textAfter_append (ls : Text) :
    e.textAfter h (ks ++ ls) = (e.type h ks).1.textAfter h ls := by
  rw [textAfter, type_append, textAfter]

lemma Inserts.textAfter (he : (e.type h ks).1.Inserts m s typing) :
    e.textAfter h ks = some s.text := by
  rw [Engine.textAfter, he.surface]
  rfl

lemma inserts_of_editor {e' : Engine} (he : e.Inserts m s typing) (hs : e'.editor = e.editor) :
    e'.Inserts m s typing :=
  ⟨(congrArg Editor.mode hs).trans he.mode, (congrArg Editor.surface? hs).trans he.surface,
    (congrArg Editor.typing hs).trans he.typing⟩

lemma editor_key_insert (hi : e.mode.isInsert = true) (c : Char) :
    (e.key h c).1.editor = (e.insertKey c).1.editor := by
  have hs : Carries e.macros e.resolved e e := ⟨rfl, rfl, rfl⟩
  obtain ⟨-, hd, -⟩ := ((carries_congruence e.macros e.resolved).insertKey hs c).1
  have hstroke : e.stroke h c = ((e.insertKey c).1, .handled (e.insertKey c).2) := by
    rw [stroke, if_pos hi]
    rfl
  rw [key_of_handled hstroke hd, reportMode_editor]
  rfl

lemma Inserts.key (he : e.Inserts m s typing) (hi : m.isInsert = true)
    (ho : typing.overwrite = false) (hc : c ≠ escapeKey) :
    (e.key h c).1.Inserts m (Surface.typeKey (s, typing.text) c).1
      { typing with text := (Surface.typeKey (s, typing.text) c).2 } := by
  obtain ⟨rfl, hs, rfl⟩ := he
  refine inserts_of_editor (e := (e.insertKey c).1) ?_ (editor_key_insert hi c)
  simp only [insertKey, if_neg hc, hs, Surface.typeKey]
  split
  · rw [eraseBack]
    split
    · exact ⟨rfl, hs, rfl⟩
    · exact ⟨putSurface_mode, surface?_putSurface hs, by simp⟩
  · simp only [typeChar, ho, Bool.false_eq_true, false_and, ↓reduceIte]
    exact ⟨putSurface_mode, surface?_putSurface hs, by simp [ho]⟩

lemma Inserts.escape (he : e.Inserts m s typing) (hi : m.isInsert = true) :
    (e.key h escapeKey).1.surface? = some { typing.finish m s with selection := none } := by
  obtain ⟨rfl, hs, rfl⟩ := he
  have hn : e.mode ≠ .normal := by
    intro hn
    rw [hn] at hi
    cases hi
  have hx : (e.enter .normal none).editor = _ := enter_normal hn hs
  rw [if_pos hi] at hx
  have hkey : (e.key h escapeKey).1.editor = (e.enter .normal none).editor := editor_key_insert hi _
  rw [← editor_surface?, hkey, hx]
  exact Editor.surface?_put (x := e.editor) hs

end Engine

end ModalEdit
