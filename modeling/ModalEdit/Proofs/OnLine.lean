import ModalEdit.Proofs.LineRewriting
import ModalEdit.Proofs.Turns

/-! The line of the cursor is there after every edit: an edit brings the cursor back into the text,
or only inserts. Most edits end by placing the cursor anew. -/

namespace ModalEdit

open Text

namespace Surface

def OnLine (s : Surface) : Prop := s.cursor.line < s.lineCount

variable {s : Surface}

lemma Sound.onLine (hs : s.Sound) : s.OnLine := hs.1

lemma setCursor_onLine (s : Surface) (p : Position) : (s.setCursor p).OnLine := clamp_line s.text p

lemma erase_onLine (s : Surface) (start stop : Position) : (s.erase start stop).OnLine :=
  clamp_line _ s.cursor

lemma insert_onLine (hs : s.OnLine) (p : Position) (t : Text) : (s.insert p t).1.OnLine := by
  have hle := lineCount_le_insert (takeBytes (offsetOf s.text p) s.text) t
    (dropBytes (offsetOf s.text p) s.text)
  rw [takeBytes_append_dropBytes, ← insert_text] at hle
  exact Nat.lt_of_lt_of_le hs hle

lemma rewriteLine_onLine (s : Surface) (i : Nat) (x : Text) : (s.rewriteLine i x).OnLine :=
  insert_onLine (erase_onLine ..) _ _

lemma mapLine_onLine (f : Text → Text) {acc : Surface × Nat} (h : acc.1.OnLine) (i : Nat) :
    (mapLine f acc i).1.OnLine := by
  obtain ⟨s, n⟩ := acc
  rw [mapLine_eq]
  split
  · exact h
  · dsimp only
    exact rewriteLine_onLine s i _

lemma mapLines_onLine (hs : s.OnLine) (first last : Nat) (f : Text → Text) :
    (s.mapLines first last f).1.OnLine :=
  List.foldlRecOn (motive := fun (acc : Surface × Nat) => acc.1.OnLine) _ _ hs
    fun _ h i _ => mapLine_onLine f h i

lemma stepBack_stands {P : Text → Nat → Prop} (hP : IsSpot P)
    (hback : ∀ l b, P l (Grapheme.prevBoundary l b)) (hs : s.OnLine) :
    Stands P s.stepBack.text s.stepBack.cursor := by
  unfold stepBack
  split
  · exact clamp_stands hP (hback ..)
  · rename_i hz
    refine ⟨hs, ?_⟩
    rw [Nat.eq_zero_of_not_pos hz]
    exact hP.zero _

end Surface

open Surface (setCursor_onLine)

inductive Surface.Places (s s' : Surface) : Prop
  | same (ht : s'.text = s.text) (hc : s'.cursor = s.cursor)
  | set (p : Position) (hc : s'.cursor = s'.text.clamp p)

variable {h : Host} {s s' : Surface}

lemma Surface.Places.stands {P : Text → Nat → Prop} (hp : s.Places s')
    (hP : ∀ l n, P l (min n (byteLength l))) (hs : Stands P s.text s.cursor) :
    Stands P s'.text s'.cursor := by
  cases hp with
  | same ht hc => rwa [ht, hc]
  | set p hc =>
    rw [hc]
    exact ⟨clamp_line _ p, hP ..⟩

lemma Surface.Places.onLine (hp : s.Places s') (hs : s.OnLine) : s'.OnLine :=
  (hp.stands (P := fun _ _ => True) (fun _ _ => trivial) ⟨hs, trivial⟩).1

lemma Operator.apply_places (op : Operator) (s : Surface) (span : Span) (register : Option Char) :
    s.Places (op.apply s span register) := by
  cases op with
  | yank =>
    simp only [apply]
    split
    · exact .same rfl rfl
    · exact .set _ rfl
  | delete => exact .set _ rfl
  | change => cases span <;> exact .set _ rfl
  | shift d => exact .set _ rfl

lemma Simple.Makes.places {c : Simple} {count : Nat} {register : Option Char}
    (hc : c.Makes s count register s') : s.Places s' := by
  cases hc with
  | paste side t => exact .set _ rfl
  | joinLines => exact .set _ rfl
  | toggleCase => exact .set _ rfl
  | _ => exact Operator.apply_places ..

lemma Command.Makes.places {c : Command} {m : Mode} (hc : c.Makes h m s s') : s.Places s' := by
  cases hc with
  | move => exact .set _ rfl
  | operate => exact Operator.apply_places ..
  | operateLines => exact Operator.apply_places ..
  | simple _ hc => exact hc.places
  | replace => exact .set _ rfl
  | @insert i => cases i <;> exact .set _ rfl
  | visualAction => exact .set _ rfl

lemma LineCommand.Makes.onLine {c : LineCommand} (hc : c.Makes h s s') (hs : s.OnLine) :
    s'.OnLine := by
  cases hc with
  | goTo => exact setCursor_onLine ..
  | delete => exact setCursor_onLine ..
  | yank => exact hs
  | substitute => exact Surface.mapLines_onLine hs _ _ _
  | setReadonly => exact hs

lemma Engine.Puts.onLine {e : Engine} {d : Input} {m : Mode} (hp : e.Puts h d m s s')
    (hs : s.OnLine) : s'.OnLine := by
  cases hp with
  | command _ hc => exact hc.makes.places.onLine hs
  | line _ hc => exact hc.onLine hs
  | found => exact setCursor_onLine ..
  | descended => exact setCursor_onLine ..
  | expanded => exact setCursor_onLine ..

lemma Surface.Types.onLine (ht : s.Types s') : s'.OnLine := by
  cases ht <;> exact setCursor_onLine ..

lemma Typing.finish_stands {P : Text → Nat → Prop} (hP : IsSpot P)
    (hback : ∀ l b, P l (Grapheme.prevBoundary l b)) (hs : s.OnLine) (t : Typing) (m : Mode) :
    Stands P (t.finish m s).text (t.finish m s).cursor := by
  refine Surface.stepBack_stands hP hback ?_
  split
  · unfold repeatInBlock
    split
    · split
      · exact hs
      · refine List.foldlRecOn (motive := Surface.OnLine) _ _ hs fun s hs i _ => ?_
        unfold repeatInRow
        dsimp only
        split
        · exact hs
        · exact Surface.insert_onLine hs _ _
    · exact hs
  · unfold repeatByCount
    split
    · exact setCursor_onLine ..
    · exact hs

lemma Typing.finish_sound (hs : s.OnLine) (t : Typing) (m : Mode) : (t.finish m s).Sound :=
  finish_stands isSpot_boundary Grapheme.prevBoundary_boundary hs t m

end ModalEdit
