import ModalEdit.Proofs.KeptPositions

/-! An insertion is undone by deleting up to the position behind it, unless a carriage return and a
line feed become one line end. -/

namespace ModalEdit

open Text

/-- A line feed comes behind the carriage return that broke the line before `p`: they are one line
end then, and the line of `p` begins behind it. -/
def Text.Pairs (t : Text) (p : Position) (new : Text) : Prop :=
  p.byte = 0 ∧ (takeBytes (offsetOf t p) t).getLast? = some '\r' ∧ new.head? = some '\n'

instance (t : Text) (p : Position) (new : Text) : Decidable (t.Pairs p new) :=
  inferInstanceAs (Decidable (_ ∧ _))

lemma Text.not_pairs {t : Text} (ht : '\r' ∉ t) (p : Position) (new : Text) : ¬t.Pairs p new := by
  rintro ⟨-, hr, -⟩
  have hm := List.mem_append_left (dropBytes (offsetOf t p) t) (List.mem_of_getLast? hr)
  rw [takeBytes_append_dropBytes] at hm
  exact ht hm

namespace Surface

variable {s : Surface} {p : Position} {a b u v t : Text}

lemma delete_insert_of_ends (ht : s.text = a ++ b) (hp : offsetOf s.text p = byteLength a)
    (hstart : Ends (a ++ u) (v ++ b) p.line p.byte) :
    ((s.insert p (u ++ v)).1.delete p (s.insert p (u ++ v)).2).1.text = a ++ u ++ b ∧
      ((s.insert p (u ++ v)).1.delete p (s.insert p (u ++ v)).2).2 = v := by
  have htext : (s.insert p (u ++ v)).1.text = a ++ u ++ (v ++ b) := by
    simp [insert_between ht hp]
  have hstop := insert_ends ht hp (u ++ v)
  rw [← List.append_assoc] at hstop
  refine delete_between htext ?_ ?_
  · rw [htext]
    exact hstart.offset
  · exact stopOffset_of_ends hstop (by rw [htext, List.append_assoc _ v])

lemma delete_insert_fst (start stop : Position) :
    ((s.insert p t).1.delete start stop).1 =
      let text := ((s.insert p t).1.delete start stop).1.text
      { s with text, cursor := clamp text s.cursor } := rfl

lemma delete_insert (hp : Valid s.text p) (hn : ¬s.text.Pairs p t) :
    (s.insert p t).1.delete p (s.insert p t).2 = (s.setCursor s.cursor, t) := by
  obtain ⟨a, b, ht, ha, hends⟩ := hp.ends
  have hkeep : Ends (a ++ []) (t ++ b) p.line p.byte := by
    rw [List.append_nil]
    cases t with
    | nil => exact hends
    | cons c t =>
      refine hends.change_apart fun hz hr hf => hn ⟨hz, ?_, hf⟩
      rwa [← ha, ht, takeBytes_left]
  obtain ⟨htext, hnew⟩ := delete_insert_of_ends ht ha.symm hkeep
  rw [List.append_nil, ← ht] at htext
  refine Prod.ext ?_ hnew
  rw [delete_insert_fst]
  exact congrArg (fun text => { s with text, cursor := clamp text s.cursor }) htext

lemma delete_insert_of_pairs (hp : Valid s.text p) (h : s.text.Pairs p ('\n' :: t)) :
    ((s.insert p ('\n' :: t)).1.delete p (s.insert p ('\n' :: t)).2).1.text =
        s.text.insertAt (s.text.offsetOf p) ['\n'] ∧
      ((s.insert p ('\n' :: t)).1.delete p (s.insert p ('\n' :: t)).2).2 = t := by
  obtain ⟨a, b, ht, ha, hends⟩ := hp.ends
  obtain ⟨hz, hr, -⟩ := h
  rw [insertAt, ← ha, ht, takeBytes_left, dropBytes_left]
  rw [← ha, ht, takeBytes_left] at hr
  rw [hz] at hends
  exact delete_insert_of_ends (u := ['\n']) ht ha.symm (hz ▸ hends.change_pair hr (t ++ b))

lemma delete_insert_iff (hp : Valid s.text p) :
    (s.insert p t).1.delete p (s.insert p t).2 = (s.setCursor s.cursor, t) ↔ ¬s.text.Pairs p t := by
  refine ⟨fun h hpair => ?_, delete_insert hp⟩
  obtain ⟨t, rfl⟩ := List.head?_eq_some_iff.mp hpair.2.2
  have hrest := (delete_insert_of_pairs hp hpair).2
  rw [h] at hrest
  simp at hrest

/-- A text comes between what stands before the position and what stands behind it, and the position
given back is behind it. Deleting up to there gives the text back and restores the surface: always
where there are no carriage returns, and else unless the text makes one line end of two. -/
theorem insert_undone (hp : Valid s.text p) (t : Text) :
    let s' := (s.insert p t).1
    let stop := (s.insert p t).2
    (∃ a b, s.text = a ++ b ∧ byteLength a = s.text.offsetOf p ∧ s'.text = a ++ (t ++ b)) ∧
      s'.text.offsetOf stop = s.text.offsetOf p + byteLength t ∧
      ('\r' ∉ s.text → s'.delete p stop = (s.setCursor s.cursor, t)) ∧
      (s'.delete p stop = (s.setCursor s.cursor, t) ↔ ¬s.text.Pairs p t) := by
  intro s' stop
  obtain ⟨a, b, ht, ha, -⟩ := hp.ends
  have htext : s'.text = a ++ (t ++ b) := insert_between ht ha.symm t
  refine ⟨⟨a, b, ht, ha, htext⟩, ?_, fun hr => delete_insert hp (not_pairs hr p t),
    delete_insert_iff hp⟩
  calc s'.text.offsetOf stop = (a ++ t ++ b).offsetOf stop := by rw [htext, List.append_assoc]
    _ = byteLength (a ++ t) := (insert_ends ht ha.symm t).offset
    _ = s.text.offsetOf p + byteLength t := by rw [byteLength_append, ha]

theorem sample_insert_undone :
    let s : Surface := { name := [], text := ['a', '\x0b', 'é', 'b', '\n', 'c'], cursor := ⟨2, 1⟩ }
    let s' : Surface := { name := [], text := ['a', '\r'] }
    let t := ['x', '\n', 'y', '\u2028']
    (Valid s.text ⟨1, 2⟩ ∧ (s.insert ⟨1, 2⟩ t).1.text.offsetOf (s.insert ⟨1, 2⟩ t).2 = 10 ∧
        (s.insert ⟨1, 2⟩ t).1.delete ⟨1, 2⟩ (s.insert ⟨1, 2⟩ t).2 = (s, t)) ∧
      (Valid s.text ⟨0, 2⟩ ∧ (s.insert ⟨0, 2⟩ t).1.text.offsetOf (s.insert ⟨0, 2⟩ t).2 = 8 ∧
        (s.insert ⟨0, 2⟩ t).1.delete ⟨0, 2⟩ (s.insert ⟨0, 2⟩ t).2 = (s, t)) ∧
      Valid s'.text ⟨1, 0⟩ ∧ s'.text.Pairs ⟨1, 0⟩ ['\n'] ∧
        (s'.insert ⟨1, 0⟩ ['\n']).1.delete ⟨1, 0⟩ (s'.insert ⟨1, 0⟩ ['\n']).2 ≠
          (s'.setCursor s'.cursor, ['\n']) := by
  intro s s' t
  have hr : '\r' ∉ s.text := by decide
  have hcursor : s.setCursor s.cursor = s :=
    congrArg (fun cursor => { s with cursor }) (show s.text.clamp s.cursor = s.cursor by decide)
  have hp : Valid s.text ⟨1, 2⟩ := by decide
  have hq : Valid s.text ⟨0, 2⟩ := by decide
  have hp' : Valid s'.text ⟨1, 0⟩ := by decide
  have hpair : s'.text.Pairs ⟨1, 0⟩ ['\n'] := by decide
  obtain ⟨-, hstop, hback, -⟩ := insert_undone hp t
  obtain ⟨-, hstop', hback', -⟩ := insert_undone hq t
  obtain ⟨-, -, -, hiff⟩ := insert_undone hp' ['\n']
  rw [hcursor] at hback hback'
  exact ⟨⟨hp, hstop.trans (by decide), hback hr⟩, ⟨hq, hstop'.trans (by decide), hback' hr⟩, hp',
    hpair, fun h => hiff.mp h hpair⟩

end Surface

end ModalEdit
