import ModalEdit.Engine.Steps
import ModalEdit.Proofs.CaseChange
import ModalEdit.Proofs.Storing

/-! No command cuts a line within a character, as long as the cursor and the ends of a selection
stand between characters. -/

namespace ModalEdit

open Text

variable {s : Surface} {t : Text} {p : Position} {span : Span} {count : Nat}

lemma Text.hasSlice_of_boundaries {l : Text} {m n : Nat} (hm : IsCharBoundary l m)
    (hn : IsCharBoundary l n) : l.hasSlice m (max m n) = true := by
  refine hasSlice_iff.mpr ⟨Nat.le_max_left .., hm, ?_⟩
  rcases Nat.le_total m n with h | h
  · rwa [Nat.max_eq_right h]
  · rwa [Nat.max_eq_left h]

lemma Text.Valid.canCut (hp : Valid t p) : t.canCut p = true :=
  decide_eq_true hp.2.min

lemma Motion.canIterate_of {α : Type} [DecidableEq α] {P : α → Prop} {p : α → Bool} {f : α → α}
    (hp : ∀ x, P x → p x = true) (hf : ∀ x, P x → P (f x)) (n : Nat) {x : α} (hx : P x) :
    canIterate p f n x = true := by
  induction n generalizing x with
  | zero => rfl
  | succ n ih => simp [canIterate, hp x hx, ih (hf x hx)]

lemma Motion.hasTarget_of_valid (m : Motion) (hp : Valid t p) (count : Nat) :
    m.hasTarget t p count = true := by
  cases m with
  | wordForward =>
    exact canIterate_of (P := Valid t) (fun _ => Valid.canCut) (fun _ => Word.forward_valid) _ hp
  | wordBackward =>
    exact canIterate_of (P := Valid t) (fun _ => Valid.canCut) (fun _ => Word.backward_valid) _ hp
  | _ => rfl

lemma Operator.hasRegion_of_sound (op : Operator) (hs : s.Sound) (m : Motion) (count : Nat) :
    op.hasRegion s m count = true := by
  rw [hasRegion, Valid.canCut hs, Motion.hasTarget_of_valid _ hs]
  rfl

namespace Span

lemma Covers.hasText_segments (h : span.Covers t) :
    ∀ g ∈ span.segments t, g.hasText t = true := by
  intro g hg
  cases span with
  | chars start stop =>
    obtain ⟨⟨hstart, -, -⟩, hstop⟩ := h
    obtain ⟨i, -, rfl⟩ := List.mem_map.mp hg
    have hfrom : IsCharBoundary (t.lineAt i)
        (if i = start.line then min start.byte (t.lineLength i) else 0) := by
      split
      · rename_i hi
        exact hi ▸ hstart.2.min
      · exact isCharBoundary_zero _
    have hto : IsCharBoundary (t.lineAt i)
        (if i = stop.line then min stop.byte (t.lineLength i) else t.lineLength i) := by
      split
      · rename_i hi
        exact hi ▸ hstop
      · exact isCharBoundary_length _
    exact hasSlice_of_boundaries hfrom hto
  | lines first last =>
    obtain ⟨i, -, rfl⟩ := List.mem_map.mp hg
    rw [← Nat.max_eq_right (Nat.zero_le (t.lineLength i))]
    exact hasSlice_of_boundaries (isCharBoundary_zero _) (isCharBoundary_length _)
  | block first last left right =>
    obtain ⟨i, -, rfl⟩ := List.mem_map.mp hg
    exact hasSlice_of_boundaries (Grapheme.byteAtColumn_boundary ..)
      (Grapheme.byteAtColumn_boundary ..)

lemma Covers.hasText (h : span.Covers t) : span.hasText t = true := by
  rw [Span.hasText, List.all_eq_true.mpr h.hasText_segments, Bool.or_true]

lemma segments_pairwise (t : Text) (span : Span) :
    (span.segments t).Pairwise (·.line < ·.line) := by
  cases span <;> exact List.pairwise_map.mpr List.pairwise_lt_range'

end Span

lemma Surface.canChangeCase_of_covers (h : span.Covers s.text) (hr : '\r' ∉ s.text)
    (case : Case) : s.canChangeCase span case = true :=
  canChange_of_below hr h.hasText_segments (Span.segments_pairwise s.text span)

lemma Surface.canChangeCase_within {first last : Nat} (h : (s.within first last).Covers s.text)
    (case : Case) : s.canChangeCase (s.within first last) case = true := by
  have hg := h.hasText_segments
  have hn : lineRange s.cursor.line s.cursor.line = [s.cursor.line] := by simp [lineRange]
  simp only [canChangeCase, within, Span.segments, hn, List.map_cons, List.map_nil] at hg ⊢
  rw [canChange, hg _ List.mem_cons_self]
  rfl

lemma Operator.canApply_of_covers (op : Operator) (h : span.Covers s.text) :
    op.canApply s span = true := by
  cases op <;> first | rfl | exact h.hasText

lemma Operator.canApply_lines (op : Operator) (s : Surface) (first last : Nat) :
    op.canApply s (.lines first last) = true := by
  cases op <;> rfl

lemma Simple.canApply_of_sound (c : Simple) (hs : s.Sound) (count : Nat) :
    c.canApply s count = true := by
  have hahead := within_ahead_covers hs count
  cases c with
  | deleteForward =>
    exact (Bool.or_eq_true ..).mpr (.inr hahead.hasText)
  | deleteBackward =>
    have hbehind := within_covers hs (clustersBehind_boundary hs count) hs.2 (clustersBehind_le ..)
    exact (Bool.or_eq_true ..).mpr (.inr hbehind.hasText)
  | deleteToEnd => exact (within_rest_covers hs).hasText
  | changeToEnd => exact (within_rest_covers hs).hasText
  | toggleCase => exact (Bool.or_eq_true ..).mpr (.inr (s.canChangeCase_within hahead _))
  | yankLines => rfl
  | paste => rfl
  | joinLines => rfl

lemma VisualAction.canApply_of_covers (a : VisualAction) (h : span.Covers s.text)
    (hr : '\r' ∉ s.text) : a.canApply s span = true := by
  cases a with
  | changeCase case => exact s.canChangeCase_of_covers h hr case
  | shift d => rfl
  | join => rfl
  | insertLeft => rfl
  | appendRight => rfl
  | _ => exact (h.widen _).hasText

lemma Command.isFor_of_parse {visual : Bool} {c : Command}
    (hp : Command.parse visual t = .complete c) (hc : c ≠ .escape) : c.isFor visual = true := by
  cases visual with
  | false => exact (classify?_of_parse (m := .normal) rfl hp hc).2
  | true => exact (classify?_of_parse (m := .visual) rfl hp hc).2

namespace Engine

variable {e : Engine} {h : Host}

/-- The cursor stands between characters, and so does a selection in a visual mode, where the text
has no carriage returns either. -/
def Firm (e : Engine) : Prop :=
  ∀ s ∈ e.surface?, s.Sound ∧ (e.mode.isVisual = true → s.SelectsValid ∧ '\r' ∉ s.text)

lemma canRun_of_sound {c : Command} {visual : Bool} (hc : c.isFor visual = true) (hs : s.Sound)
    (hv : visual = true → s.SelectsValid ∧ '\r' ∉ s.text) : canRun h s c = true := by
  cases c with
  | move m count => exact m.hasTarget_of_valid hs count
  | operate op m count explicit =>
    have ha := op.canApply_of_covers (op.region_covers hs m count explicit)
    simp [canRun, op.hasRegion_of_sound hs, ha]
  | operateLines op count =>
    have ha := op.canApply_lines s s.cursor.line (min (s.cursor.line + count - 1) s.lastLine)
    simp [canRun, Operator.lineRegion, ha]
  | simple c count => simp [canRun, c.canApply_of_sound hs]
  | visualAction a =>
    obtain ⟨hsel, hr⟩ := hv hc
    unfold canRun
    cases hx : s.selection with
    | none => rfl
    | some selection => simp [a.canApply_of_covers (hsel.covers hx) hr]
  | _ => rfl

lemma Firm.canRunPending (he : e.Firm) : e.canRunPending h = true := by
  unfold Engine.canRunPending
  split
  · rename_i c hp
    cases hs : e.surface? with
    | none => rfl
    | some s =>
      obtain ⟨hsound, hv⟩ := he s hs
      by_cases hx : c = .escape
      · subst hx
        rfl
      · exact canRun_of_sound (Command.isFor_of_parse hp hx) hsound hv
  · rfl

lemma Firm.canStroke (he : e.Firm) (c : Char) : e.canStroke h c = true := by
  have hx : (e.extend c).Firm := he
  simp [Engine.canStroke, hx.canRunPending]

lemma Firm.canStrokeWhole (he : e.Firm) (body : Text) : e.canStrokeWhole h body = true := by
  have hx : Firm { e with pending := e.pending.set body } := he
  simp [Engine.canStrokeWhole, hx.canRunPending]

end Engine

def Moment.Firm (m : Moment) : Prop :=
  match m.tasks with
  | .key _ :: _ | .whole _ :: _ => m.engine.Firm
  | _ => True

lemma Moment.Firm.canStep {m : Moment} (hm : m.Firm) (h : Host) : m.canStep h = true := by
  unfold Moment.Firm at hm
  unfold Moment.canStep
  split
  · rename_i ht
    rw [ht] at hm
    exact hm.canStroke _
  · rename_i ht
    rw [ht] at hm
    exact hm.canStrokeWhole _
  · rfl

end ModalEdit
