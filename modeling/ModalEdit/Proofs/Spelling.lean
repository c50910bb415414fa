import ModalEdit.Proofs.KeyByKey

namespace ModalEdit

namespace Prefix

variable {n : Nat} {q : Text} {p : Prefix}

lemma decimal_toDigits (n : Nat) : decimal (Nat.toDigits 10 n) = n := by
  have h := Nat.ofDigitChars_ten_toDigits (n := n)
  rw [Nat.ofDigitChars_eq_foldl] at h
  simpa [decimal, Nat.mul_comm] using h

lemma isDigit_toDigits : ∀ c ∈ Nat.toDigits 10 n, c.isDigit = true := fun _ hc =>
  Nat.isDigit_of_mem_toDigits (by decide) (by decide) hc

lemma typable_toDigits : ∀ c ∈ Nat.toDigits 10 n, Typable c := fun _ hc =>
  typable_of_isDigit (isDigit_toDigits _ hc)

lemma exists_toDigits (hn : 0 < n) :
    ∃ c cs, Nat.toDigits 10 n = c :: cs ∧ opensCount c = true := by
  induction n using Nat.strongRecOn with
  | ind n ih =>
    by_cases hlt : n < 10
    · have hd := Nat.toDigits_of_lt_base hlt
      refine ⟨_, _, hd, ?_⟩
      have hdigit := isDigit_toDigits (n := n) n.digitChar (by simp [hd])
      simp [opensCount, hdigit, Nat.ne_of_gt hn]
    · obtain ⟨c, cs, hd, hc⟩ := ih (n / 10) (by omega) (by omega)
      refine ⟨c, cs ++ [(n % 10).digitChar], ?_, hc⟩
      rw [Nat.toDigits_of_base_le (by decide) (Nat.le_of_not_lt hlt), hd, List.cons_append]

lemma takeCount_le (h : (takeCount q).1 = some n) : n ≤ countCap := by
  unfold takeCount at h
  split at h
  · split at h
    · obtain rfl := Option.some.inj h
      exact Nat.min_le_right ..
    · cases h
  · cases h

lemma takeCount_append_toDigits (hq : (takeCount q).2 = []) (hn : 0 < n) :
    ∃ m, takeCount (q ++ Nat.toDigits 10 n) = (some m, []) ∧
      ((takeCount q).1 = none → m = min n countCap) := by
  rcases takeCount_digits hq with rfl | ⟨⟨c, cs, rfl, hc⟩, hd⟩
  -- the digits begin a count, or lengthen one that has been typed
  · obtain ⟨c, cs, hd, hc⟩ := exists_toDigits hn
    have ht := takeCount_of_digits hc (hd ▸ isDigit_toDigits)
    rw [← hd, decimal_toDigits] at ht
    exact ⟨_, ht, fun _ => rfl⟩
  · have hds : ∀ d ∈ c :: (cs ++ Nat.toDigits 10 n), d.isDigit = true := fun d hm => by
      rw [← List.cons_append] at hm
      exact (List.mem_append.mp hm).elim (hd d) (isDigit_toDigits d)
    refine ⟨_, takeCount_of_digits hc hds, fun hnone => ?_⟩
    simp [takeCount, hc] at hnone

lemma split?_append_toDigits (h : split? q = some (p, [])) (hn : 0 < n) :
    ∃ m, split? (q ++ Nat.toDigits 10 n) = some (⟨p.register, some m⟩, []) ∧ 0 < m ∧
      m ≤ countCap ∧ (p.count = none → m = min n countCap) := by
  obtain ⟨c, cs, hd, hc⟩ := exists_toDigits hn
  rcases quoted_cases q with rfl | ⟨r, u, rfl⟩ | hq
  · cases h
  · rw [split?_quote] at h
    simp only [Option.some.injEq, Prod.mk.injEq] at h
    obtain ⟨rfl, hu⟩ := h
    obtain ⟨m, ht, hm⟩ := takeCount_append_toDigits hu hn
    exact ⟨m, by rw [List.cons_append, List.cons_append, split?_quote, ht],
      takeCount_pos (congrArg Prod.fst ht), takeCount_le (congrArg Prod.fst ht), hm⟩
  · rw [split?_plain hq] at h
    simp only [Option.some.injEq, Prod.mk.injEq] at h
    obtain ⟨rfl, hu⟩ := h
    obtain ⟨m, ht, hm⟩ := takeCount_append_toDigits hu hn
    have hq' : (q ++ Nat.toDigits 10 n).head? ≠ some '"' := by
      cases q with
      | nil =>
        rw [hd]
        rintro ⟨⟩
        cases hc
      | cons d q => exact hq
    exact ⟨m, by rw [split?_plain hq', ht], takeCount_pos (congrArg Prod.fst ht),
      takeCount_le (congrArg Prod.fst ht), hm⟩

lemma split?_count {register : Option Char} (h : split? q = some (⟨register, none⟩, []))
    (hn : 0 < n) (hcap : n ≤ countCap) :
    split? (q ++ Nat.toDigits 10 n) = some (⟨register, some n⟩, []) := by
  obtain ⟨m, hm, -, -, hmin⟩ := split?_append_toDigits h hn
  rwa [hmin rfl, Nat.min_eq_left hcap] at hm

def registerKeys : Option Char → Text
  | none => []
  | some c => ['"', c]

lemma split?_registerKeys (register : Option Char) :
    split? (registerKeys register) = some (⟨register, none⟩, []) := by
  cases register <;> rfl

end Prefix

namespace Operator

variable {op : Operator} {key : Char}

lemma typable_key (ho : ofKey? key = some op) : Typable key := by
  unfold ofKey? at ho
  split at ho <;> cases ho <;> decide

lemma key_ends_header (ho : ofKey? key = some op) : key.isDigit = false ∧ key ≠ '"' := by
  unfold ofKey? at ho
  split at ho <;> cases ho <;> exact ⟨rfl, by decide⟩

end Operator

lemma VisualAction.typable_key {key : Char} {a : VisualAction} (ha : ofKey? key = some a) :
    Typable key := by
  unfold ofKey? at ha
  split at ha <;> cases ha <;> decide

namespace Command

variable {q : Text} {p : Prefix}

lemma parseBody_of_operator {op : Operator} {key : Char} (ho : Operator.ofKey? key = some op)
    (p : Prefix) (rest : Text) :
    parseBody false p (key :: rest) = parseOperator op key p rest := by
  unfold Operator.ofKey? at ho
  split at ho <;> cases ho <;> rfl

lemma parse_operateLines {op : Operator} {key : Char} (hq : Prefix.split? q = some (p, []))
    (ho : Operator.ofKey? key = some op) :
    parse false (q ++ [key, key]) =
      .complete (.operateLines op (min p.countOrOne countCap) p.register) := by
  obtain ⟨hdigit, hquote⟩ := Operator.key_ends_header ho
  have hcount : Prefix.takeCount [key] = (none, [key]) :=
    Prefix.takeCount_append_of_not_digit (t := []) rfl hdigit []
  rw [parse_of_split (Prefix.split?_header_append hq hdigit hquote [key]),
    parseBody_of_operator ho, parseOperator_of_operand hcount, parseOperand, if_pos rfl]
  simp [Parse.ofKey]

lemma parse_visualAction {key : Char} {a : VisualAction} (hq : Prefix.split? q = some (p, []))
    (ha : VisualAction.ofKey? key = some a) :
    parse true (q ++ [key]) = .complete (.visualAction a p.register p.countOrOne) := by
  have hkey : key.isDigit = false ∧ key ≠ '"' ∧
      parseBody true p [key] = .complete (.visualAction a p.register p.countOrOne) := by
    unfold VisualAction.ofKey? at ha
    split at ha <;> cases ha <;> exact ⟨rfl, by decide, rfl⟩
  obtain ⟨hdigit, hquote, hbody⟩ := hkey
  rw [parse_of_split (Prefix.split?_header_append hq hdigit hquote []), hbody]

end Command

namespace Editor

def operated (x : Editor) (op : Operator) (s : Surface) : Editor :=
  if op = .change then (x.put s).turned .insert { x.typing with text := [], block := none }
  else (x.put s).turned .normal x.typing

variable {x : Editor} {op : Operator} {s s' : Surface}

lemma surface?_operated (hs : x.surface? = some s) : (x.operated op s').surface? = some s' := by
  unfold operated
  split <;> exact surface?_put hs

@[simp] lemma operated_put : (x.operated op s).put s' = x.operated op s' := by
  unfold operated
  split <;> simp

@[simp] lemma put_operated : (x.put s).operated op s' = x.operated op s' := by simp [operated]

lemma turned_operated (m : Mode) : (x.turned m x.typing).operated op s = x.operated op s := by
  unfold operated
  split <;> rw [put_turned] <;> rfl

end Editor

namespace Engine

variable {e : Engine} {h : Host} {s : Surface} {t text : Text} {c : Command}
  {register : Option Char}

lemma editor_type_of_complete (hi : e.mode.isInsert = false) (hs : e.surface? = some s)
    (hx : escapeKey ∉ e.pending.text) (ht : t ≠ []) (hk : ∀ k ∈ t, Typable k)
    (hp : Command.parse e.mode.isVisual (e.pending.text ++ t) = .complete c) :
    (e.type h t).1.editor = (e.clearPending.runCommand h s (e.pending.text ++ t) c).1.editor ∧
      (e.type h t).1.pending.text = [] := by
  have hrun : e.clearPending.execute h (e.pending.text ++ t) c =
      e.clearPending.runCommand h s (e.pending.text ++ t) c := by
    rw [execute, show e.clearPending.surface? = some s from hs]
  have hpend := ((holds_congruence []).execute (a := e.clearPending) ⟨rfl, .inl rfl⟩ h
    (e.pending.text ++ t) c).1.2
  rw [or_self] at hpend
  rw [type_of_complete hi ht hx hk hp, ← hrun]
  dsimp only
  rw [reportMode_editor, reportMode_pending]
  exact ⟨rfl, hpend⟩

lemma editor_enter_insert (he : e.mode ≠ .insert) (block : Option BlockEdge) :
    (e.enter .insert block).editor =
      e.editor.turned .insert { e.typing with text := [], block := none } := by
  simp only [enter, ModeChange.between?, if_neg he]
  rfl

lemma editor_operate {op : Operator} {span : Span} (hm : e.mode = .normal)
    (hs : e.surface? = some s) (hu : Unlocked h s) (ho : op.edits = true)
    (ht : op = .change → Trigger.classify? .normal text = some .insert) :
    (e.operate h s op span register text).1.editor =
      e.editor.operated op (op.apply s span register) := by
  simp only [operate, ho, editedBy, editable, if_neg (Bool.eq_false_iff.mp hu), Editor.operated]
  simp only [↓reduceIte]
  split
  · rename_i hc
    have hr := Surface.readonly_eq (outline_applyOperator op s span register)
    have hne : (e.putSurface (op.apply s span register)).mode ≠ .insert := by
      rw [putSurface_mode, hm]
      decide
    rw [changeMode_eq (t := .insert) (by rw [putSurface_mode, hm, ht hc]), putSurface_mode, hm,
      isReadonly_putSurface hs, hr, hu]
    exact (editor_enter_insert hne none).trans (by rw [editor_putSurface, putSurface_typing]; rfl)
  · rw [editor_putSurface, ← hm]
    exact Editor.put_turned_self.symm

lemma useSelection_eq {a : VisualAction} {selection : Selection} {span : Span} {t : Trigger}
    {n : Nat} (hb : a.isForBlock = true → e.mode = .visualBlock ∧ (a.edge? span).isSome = true)
    (hs : e.surface? = some s) (hu : Unlocked h s) (hsel : s.selection = some selection)
    (hspan : Span.ofSelection s.text selection = span)
    (ht : Trigger.classify? e.mode text = some t) {s' : Surface}
    (hs' : Surface.landed (a.apply s span register n) = s') :
    (e.useSelection h s a register n text).1 =
      (e.putSurface s').useUp (e.mode.step t false) (a.edge? span) := by
  have hmode : (a.isForBlock && e.mode != .visualBlock) = false := by
    cases hf : a.isForBlock with
    | false => rfl
    | true => simp [(hb hf).1]
  have hedge : (a.isForBlock && (a.edge? span).isNone) = false := by
    cases hf : a.isForBlock with
    | false => rfl
    | true => simp [Option.isNone_eq_false_iff, (hb hf).2]
  have hro : (h.readonly || s'.readonly) = false := by
    have hr : s'.readonly = s.readonly := by
      subst hs'
      exact Surface.readonly_eq ((Surface.outline_setCursor _ _).trans (outline_applyAction ..))
    rw [hr, hu]
  have huse := useRegion_eq (h := h) hedge ht hs hs'
  rw [hro] at huse
  simp only [useSelection, hmode, hsel, hspan, editable, if_neg (Bool.eq_false_iff.mp hu),
    Bool.false_eq_true, ↓reduceIte]
  split <;> exact huse

lemma editor_type_doubled {op : Operator} {key : Char} {q : Text} {p : Prefix}
    (hm : e.mode = .normal) (hs : e.surface? = some s) (hu : Unlocked h s)
    (ho : Operator.ofKey? key = some op) (hedits : op.edits = true)
    (hq : Prefix.split? (e.pending.text ++ q) = some (p, []))
    (hx : escapeKey ∉ e.pending.text) (hk : ∀ k ∈ q, Typable k) :
    (e.type h (q ++ [key, key])).1.editor = e.editor.operated op
        (op.apply s (Operator.lineRegion s (min p.countOrOne countCap)) p.register) ∧
      (e.type h (q ++ [key, key])).1.pending.text = [] := by
  have hp := Command.parse_operateLines hq ho
  have hkeys : ∀ k ∈ q ++ [key, key], Typable k := by
    simp only [List.mem_append, List.mem_cons, List.not_mem_nil, or_false, or_self]
    rintro k (hk' | rfl)
    · exact hk k hk'
    · exact Operator.typable_key ho
  rw [List.append_assoc] at hp
  obtain ⟨heditor, hpend⟩ :=
    editor_type_of_complete (h := h) (by rw [hm]; rfl) hs hx (by simp) hkeys
    (by rw [hm]; exact hp)
  refine ⟨heditor.trans ?_, hpend⟩
  have hm' : e.clearPending.mode = .normal := hm
  refine editor_operate hm' hs hu hedits fun hc => ?_
  rw [(Command.classify?_of_parse (m := .normal) rfl hp nofun).1, hc]
  rfl

end Engine

end ModalEdit
