import ModalEdit.Proofs.Joining
import ModalEdit.Proofs.LineByLine

namespace ModalEdit.Surface

open Text

variable {s : Surface} {first last : Nat}

theorem join_folds (hs : FeedsOnly s.text) (hlt : first < last) (hnext : first + 1 < s.lineCount) :
    let stop := min last s.lastLine
    let ls := s.text.lines.take first ++
      (s.below first stop).foldl joined (s.lineAt first) :: s.text.lines.drop (stop + 1)
    (s.join first last).1.text = Span.joinLines ls ∧ (s.join first last).1.text.lines = ls ∧
      (s.join first last).2 =
        ⟨first, byteLength ((s.below first stop).dropLast.foldl joined (s.lineAt first))⟩ := by
  intro stop ls
  have hstop : first < stop ∧ stop < s.lineCount := by
    simp only [stop, lastLine, lineCount] at hnext ⊢
    omega
  obtain ⟨hl, hpre, hmid⟩ := lines_around hstop.1 hstop.2
  obtain ⟨hu, hlines, hplace⟩ := joinTimes_lines hs.unbroken hl ⟨first, s.lineLength first⟩
  rw [hpre, hmid, show joinTimes first (stop - first) s _ = s.join first last from rfl]
    at hu hlines hplace
  have hne : s.below first stop ≠ [] := List.ne_nil_of_length_pos (by omega)
  have htext := joinLines_lines (feedsOnly_of_unbroken hu)
  exact ⟨htext.symm.trans (congrArg _ hlines), hlines, hplace hne⟩

theorem sample_join_folds :
    let s : Surface := { name := [], text := "x\na\n  b\n)c\n\n d\ne".toList }
    let s' : Surface := { name := [], text := "\n a\nb".toList }
    ((s.join 1 5).1.text = "x\na b)c d\ne".toList ∧ (s.join 1 5).2 = ⟨1, 5⟩) ∧
      (s'.join 0 9).1.text = "a b".toList ∧ (s'.join 0 9).2 = ⟨0, 1⟩ := by
  intro s s'
  obtain ⟨htext, -, hplace⟩ :=
    join_folds (s := s) (by decide) (show 1 < 5 by decide) (by decide)
  obtain ⟨htext', -, hplace'⟩ :=
    join_folds (s := s') (by decide) (show 0 < 9 by decide) (by decide)
  exact ⟨⟨htext.trans (by decide), hplace.trans (by decide)⟩, htext'.trans (by decide),
    hplace'.trans (by decide)⟩

end ModalEdit.Surface
