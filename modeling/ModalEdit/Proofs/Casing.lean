import ModalEdit.Edit
import ModalEdit.Proofs.Positions

namespace ModalEdit

open Text

namespace Unicode

def CaseRun.avoidsBreaks (r : CaseRun) : Bool :=
  let last := r.image + (r.last - r.first)
  13 < r.image && (last < 0x85 || 0x85 < r.image) && (last < 0x2028 || 0x2029 < r.image)

lemma isLineBreak_ofNat {n : Nat} (hn : isLineBreak (Char.ofNat n) = true) :
    10 ≤ n ∧ n ≤ 13 ∨ n = 0x85 ∨ n = 0x2028 ∨ n = 0x2029 := by
  by_cases hv : n.isValidChar
  · have ht : (Char.ofNat n).toNat = n := by
      rw [Char.ofNat, dif_pos hv]
      rfl
    simpa [isLineBreak, ht, or_assoc] using hn
  · rw [Char.ofNat, dif_neg hv] at hn
    cases hn

lemma CaseRun.avoidsBreaks_image {r : CaseRun} (hr : r.avoidsBreaks = true) {k : Nat}
    (hk : k ≤ r.last - r.first) : isLineBreak (Char.ofNat (r.image + k)) = false := by
  refine (Bool.not_eq_true _).mp fun hb => ?_
  have := isLineBreak_ofNat hb
  simp only [avoidsBreaks, Bool.and_eq_true, Bool.or_eq_true, decide_eq_true_eq] at hr
  omega

lemma CaseTable.apply_plain {t : CaseTable}
    (ht : t.runs.toList.all CaseRun.avoidsBreaks = true) {c : Char} (hc : isLineBreak c = false) :
    isLineBreak (t.apply c) = false := by
  unfold apply
  dsimp only
  split
  · rename_i r hr
    split
    · rename_i hin
      simp only [Bool.and_eq_true, decide_eq_true_eq, beq_iff_eq] at hin
      have hm := Array.mem_toList_iff.mpr (Array.mem_of_getElem? hr)
      exact CaseRun.avoidsBreaks_image (List.all_eq_true.mp ht r hm) (by omega)
    · exact hc
  · exact hc

lemma lowercaseTable_avoids : lowercaseTable.runs.toList.all CaseRun.avoidsBreaks = true := by
  decide +kernel

lemma uppercaseTable_avoids : uppercaseTable.runs.toList.all CaseRun.avoidsBreaks = true := by
  decide +kernel

lemma longUppercase_avoids :
    (longUppercase.all fun e => e.2.all fun d => !isLineBreak d) = true := by
  decide +kernel

lemma ascii_plain : ∀ n < 128, isLineBreak (Char.ofNat n) = false →
    isLineBreak (Char.ofNat n).toLower = false ∧ isLineBreak (Char.ofNat n).toUpper = false := by
  decide +kernel

variable {c : Char}

lemma toLower_plain (hc : isLineBreak c = false) :
    ∀ d ∈ charToLower c, isLineBreak d = false := by
  unfold charToLower
  split
  · rename_i hlt
    rw [← Char.ofNat_toNat c] at hc ⊢
    exact List.forall_mem_singleton.mpr (ascii_plain _ hlt hc).1
  · split
    · exact List.forall_mem_cons.mpr ⟨rfl, List.forall_mem_singleton.mpr rfl⟩
    · exact List.forall_mem_singleton.mpr (CaseTable.apply_plain lowercaseTable_avoids hc)

lemma toUpper_plain (hc : isLineBreak c = false) :
    ∀ d ∈ charToUpper c, isLineBreak d = false := by
  unfold charToUpper
  split
  · rename_i hlt
    rw [← Char.ofNat_toNat c] at hc ⊢
    exact List.forall_mem_singleton.mpr (ascii_plain _ hlt hc).2
  · cases hl : longUppercase.lookup c with
    | some l =>
      obtain ⟨l₁, l₂, he, -⟩ := List.lookup_eq_some_iff.mp hl
      have ha := longUppercase_avoids
      rw [he] at ha
      simp only [List.all_append, List.all_cons, Bool.and_eq_true] at ha
      simpa using ha.2.1
    | none => exact List.forall_mem_singleton.mpr (CaseTable.apply_plain uppercaseTable_avoids hc)

lemma cased_breaks : ([10, 11, 12, 13, 0x85, 0x2028, 0x2029].all fun n =>
    charToLower (Char.ofNat n) == [Char.ofNat n] &&
      charToUpper (Char.ofNat n) == [Char.ofNat n]) = true := by
  decide +kernel

lemma cased_break (hc : isLineBreak c = true) : charToLower c = [c] ∧ charToUpper c = [c] := by
  rw [← Char.ofNat_toNat c] at hc ⊢
  have hn : c.toNat ∈ [10, 11, 12, 13, 0x85, 0x2028, 0x2029] := by
    have := isLineBreak_ofNat hc
    simp only [List.mem_cons, List.not_mem_nil, or_false]
    omega
  have := List.all_eq_true.mp cased_breaks _ hn
  simpa only [Bool.and_eq_true, beq_iff_eq] using this

end Unicode

namespace Case

@[simp] lemma map_nil (case : Case) : case.map [] = [] := by
  cases case <;> rfl

def toggled (c : Char) : Text :=
  if Unicode.isUppercase c then Unicode.charToLower c else Unicode.charToUpper c

lemma map_toggle (t : Text) : toggle.map t = t.flatMap toggled := rfl

lemma toggled_plain {c : Char} (hc : isLineBreak c = false) :
    ∀ d ∈ toggled c, isLineBreak d = false := by
  unfold toggled
  split
  · exact Unicode.toLower_plain hc
  · exact Unicode.toUpper_plain hc

lemma toggled_break {c : Char} (hc : isLineBreak c = true) : toggled c = [c] := by
  obtain ⟨hl, hu⟩ := Unicode.cased_break hc
  unfold toggled
  split
  · exact hl
  · exact hu

end Case

lemma append_withinLine {x t : Text} (hx : ∀ d ∈ x, isLineBreak d = false) (ht : WithinLine t) :
    WithinLine (x ++ t) := by
  induction x with
  | nil => exact ht
  | cons d x ih =>
    obtain ⟨hd, hx⟩ := List.forall_mem_cons.mp hx
    exact .plain hd (ih hx)

lemma toggle_withinLine {t : Text} (ht : WithinLine t) : WithinLine (Case.toggle.map t) := by
  rw [Case.map_toggle]
  induction ht with
  | nil => exact .nil
  | @last c hn =>
    cases hc : isLineBreak c with
    | true => simpa [Case.toggled_break hc] using WithinLine.last hn
    | false => simpa using append_withinLine (Case.toggled_plain hc) .nil
  | plain hc _ ih => exact append_withinLine (Case.toggled_plain hc) ih

end ModalEdit
