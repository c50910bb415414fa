import Mathlib.Tactic.Common
import ModalEdit.Command.Parser
import ModalEdit.Proofs.Prefix

namespace ModalEdit

def VisualAction.trigger? (m : Mode) : VisualAction → Option Trigger
  | change | changeLines => some .change
  | insertLeft | appendRight => if m = .visualBlock then some .change else none
  | _ => some .operate

def Command.trigger? (m : Mode) : Command → Option Trigger
  | insert .. | operate .change .. | operateLines .change .. | simple .changeToEnd .. =>
    some .insert
  | visual kind => some (.visual kind)
  | visualAction a .. => a.trigger? m
  | _ => none

namespace Parse

variable {α β : Type}

lemma ofKey_complete {rest : Text} {a b : α} (h : ofKey rest a = complete b) :
    rest = [] ∧ a = b := by
  cases rest with
  | nil => exact ⟨rfl, complete.inj h⟩
  | cons => cases h

lemma map_complete {f : α → β} {p : Parse α} {b : β} (h : p.map f = complete b) :
    ∃ a, p = complete a ∧ f a = b := by
  cases p with
  | complete a => exact ⟨a, rfl, complete.inj h⟩
  | incomplete => cases h
  | invalid => cases h

end Parse

namespace Motion

lemma parse?_complete {c : Char} {rest : Text} {m : Motion}
    (h : parse? c rest = some (.complete m)) :
    (c = 'g' ∧ rest = ['g']) ∨ (ofKey? c = some m ∧ rest = []) := by
  unfold parse? at h
  split at h
  · rename_i hc
    split at h <;> cases h
    exact .inl ⟨hc, rfl⟩
  · obtain ⟨m', hm, he⟩ := Option.map_eq_some_iff.mp h
    obtain ⟨hr, rfl⟩ := Parse.ofKey_complete he
    exact .inr ⟨hm, hr⟩

lemma ne_escapeKey {c : Char} {m : Motion} (h : ofKey? c = some m) : c ≠ escapeKey := by
  rintro rfl
  cases h

end Motion

namespace Trigger

lemma ofNormalBody?_of_motion {c : Char} {x : Motion} (h : Motion.ofKey? c = some x) :
    ofNormalBody? [c] = none := by
  unfold Motion.ofKey? at h
  split at h <;> cases h <;> decide

lemma ofNormalBody?_of_simple {c : Char} {s : Simple} (h : Simple.ofKey? c = some s) :
    ofNormalBody? [c] = if s = .changeToEnd then some .insert else none := by
  unfold Simple.ofKey? at h
  split at h <;> cases h <;> decide

lemma ofNormalBody?_of_insertion {c : Char} {i : Insertion} (h : Insertion.ofKey? c = some i) :
    ofNormalBody? [c] = some .insert := by
  unfold Insertion.ofKey? at h
  split at h <;> cases h <;> decide

lemma ofNormalBody?_of_kind {c : Char} {k : VisualKind} (h : VisualKind.ofKey? c = some k) :
    ofNormalBody? [c] = some (.visual k) := by
  have hc : c = 'v' ∨ c = 'V' ∨ c = 'K' ∨ c = blockKey := by
    unfold VisualKind.ofKey? at h
    split_ifs at h with h₁ h₂ h₃
    · exact .inl h₁
    · exact .inr (.inl h₂)
    · exact .inr (.inr h₃)
  rcases hc with rfl | rfl | rfl | rfl <;> cases h <;> decide

lemma ofNormalBody?_long {c d : Char} {rest : Text} (hc : c ≠ 'c') :
    ofNormalBody? (c :: d :: rest) = none := by
  have hn : c :: d :: rest ∉ normalInserts := by
    simp [normalInserts, hc]
  simp [ofNormalBody?, hn, hc]

lemma ofNormalBody?_change {rest : Text} {z : Char} (hz : rest.getLast? = some z)
    (he : z ≠ escapeKey) : ofNormalBody? ('c' :: rest) = some .insert := by
  have hr : rest ≠ [] := by
    rintro rfl
    cases hz
  have hl : ('c' :: rest).getLast? ≠ some escapeKey := by
    rw [List.getLast?_cons_of_ne_nil hr, hz]
    simpa using he
  have h1 : 1 < ('c' :: rest).length := by
    simpa using List.length_pos_iff.mpr hr
  unfold ofNormalBody?
  rw [if_pos (.inr ⟨rfl, h1, hl⟩)]

lemma ofVisualKey?_of_motion (m : Mode) {c : Char} {x : Motion} (h : Motion.ofKey? c = some x) :
    ofVisualKey? m c = none := by
  unfold Motion.ofKey? at h
  split at h <;> cases h <;> cases m <;> decide

lemma ofVisualKey?_of_action (m : Mode) {c : Char} {a : VisualAction}
    (h : VisualAction.ofKey? c = some a) : ofVisualKey? m c = a.trigger? m := by
  unfold VisualAction.ofKey? at h
  split at h <;> cases h <;> cases m <;> decide

lemma ofVisualKey?_of_kind (m : Mode) {c : Char} (hc : c ≠ escapeKey) {k : VisualKind}
    (h : VisualKind.ofKey? c = some k) : ofVisualKey? m c = some (.visual k) := by
  simp [ofVisualKey?, hc, h]

def ofBody? (m : Mode) (body : Text) : Option Trigger :=
  if m.isVisual then
    match body with
    | [c] => ofVisualKey? m c
    | _ => none
  else ofNormalBody? body

lemma opensCount_iff (c : Char) : Prefix.opensCount c = true ↔ '1' ≤ c ∧ c ≤ '9' := by
  simp only [Prefix.opensCount, Char.isDigit, Bool.and_eq_true, decide_eq_true_eq, bne_iff_ne,
    Char.le_def, UInt32.le_iff_toNat_le, ne_eq, ← Char.val_inj, ← UInt32.toNat_inj]
  change (48 ≤ c.val.toNat ∧ c.val.toNat ≤ 57) ∧ ¬c.val.toNat = 48 ↔
    49 ≤ c.val.toNat ∧ c.val.toNat ≤ 57
  omega

lemma dropCount_eq (t : Text) : dropCount t = (Prefix.takeCount t).2 := by
  cases t with
  | nil => rfl
  | cons c t =>
    simp only [dropCount, Prefix.takeCount, opensCount_iff]
    split <;> rfl

lemma dropRegister_plain {t : Text} (ht : t.head? ≠ some '"') : dropRegister t = t := by
  unfold dropRegister
  split
  · exact absurd rfl ht
  · rfl

lemma split?_body (t : Text) :
    (Prefix.split? t).map Prod.snd = if t = ['"'] then none else some (bodyOf t) := by
  rcases Prefix.quoted_cases t with rfl | ⟨r, u, rfl⟩ | hq
  · rfl
  · rw [Prefix.split?_quote, if_neg (by simp), bodyOf, dropCount_eq]
    rfl
  · have ht : t ≠ ['"'] := by
      rintro rfl
      exact hq rfl
    rw [Prefix.split?_plain hq, if_neg ht, bodyOf, dropCount_eq, dropRegister_plain hq]
    rfl

lemma bodyOf_of_split {t body : Text} {p : Prefix} (h : Prefix.split? t = some (p, body)) :
    bodyOf t = body := by
  have hb := split?_body t
  rw [h] at hb
  split at hb
  · cases hb
  · exact (Option.some.inj hb).symm

lemma classify?_eq {m : Mode} (hm : m.isInsert = false) {t body : Text} {p : Prefix}
    (h : Prefix.split? t = some (p, body)) : classify? m t = ofBody? m body := by
  unfold classify? ofBody?
  rw [bodyOf_of_split h]
  cases m with
  | insert => cases hm
  | insertBlock => cases hm
  | normal => rfl
  | _ =>
    rcases body with - | ⟨c, - | ⟨d, rest⟩⟩ <;> rfl

lemma ofVisualKey?_visual {m : Mode} {key : Char} {k : VisualKind}
    (h : ofVisualKey? m key = some (.visual k)) : VisualKind.ofKey? key = some k := by
  unfold ofVisualKey? at h
  by_cases he : key = escapeKey
  · rw [if_pos he] at h
    cases h
  · rw [if_neg he] at h
    cases hk : VisualKind.ofKey? key with
    | some k' =>
      rw [hk] at h
      cases h
      rfl
    | none =>
      rw [hk] at h
      split_ifs at h <;> cases h

lemma ofNormalBody?_visual {body : Text} {k : VisualKind}
    (h : ofNormalBody? body = some (.visual k)) :
    ∃ key, body = [key] ∧ VisualKind.ofKey? key = some k := by
  unfold ofNormalBody? at h
  split at h
  · cases h
  · split at h
    · obtain ⟨k', hk, hv⟩ := Option.map_eq_some_iff.mp h
      cases hv
      exact ⟨_, rfl, hk⟩
    · cases h

lemma ofBody?_visual {m : Mode} {body : Text} {k : VisualKind}
    (h : ofBody? m body = some (.visual k)) :
    ∃ key, body = [key] ∧ VisualKind.ofKey? key = some k := by
  unfold ofBody? at h
  split at h
  · split at h
    · exact ⟨_, rfl, ofVisualKey?_visual h⟩
    · cases h
  · exact ofNormalBody?_visual h

end Trigger

namespace Command

lemma takeCount_suffix (t : Text) : (Prefix.takeCount t).2 <:+ t := by
  unfold Prefix.takeCount
  split
  · split
    · exact List.dropWhile_suffix _
    · exact List.suffix_refl _
  · exact List.suffix_refl _

lemma parseOperator_cases {op : Operator} {key : Char} {p : Prefix} {rest : Text} {c : Command}
    (hp : 0 < p.countOrOne) (h : parseOperator op key p rest = .complete c) :
    ∃ n, 0 < n ∧ n ≤ countCap ∧
      ((∃ m explicit, c = .operate op m n explicit p.register) ∨
        c = .operateLines op n p.register) := by
  refine ⟨min (p.countOrOne * (Prefix.takeCount rest).1.getD 1) countCap, ?_,
    Nat.min_le_right .., ?_⟩
  · refine Nat.lt_min.mpr ⟨Nat.mul_pos hp ?_, by decide⟩
    cases hn : (Prefix.takeCount rest).1 with
    | none => exact Nat.one_pos
    | some n => exact Prefix.takeCount_pos hn
  · unfold parseOperator at h
    simp only [min_saturate] at h
    split at h
    · cases h
    · split at h
      · obtain ⟨-, rfl⟩ := Parse.ofKey_complete h
        exact .inr rfl
      · split at h
        · obtain ⟨m, -, rfl⟩ := Parse.map_complete h
          exact .inl ⟨m, _, rfl⟩
        · cases h

lemma parseOperator_complete {op : Operator} {key : Char} {p : Prefix} {rest : Text} {c : Command}
    (hk : key ≠ escapeKey) (h : parseOperator op key p rest = .complete c) :
    (∃ z, rest.getLast? = some z ∧ z ≠ escapeKey) ∧
      ((∃ m n explicit register, c = operate op m n explicit register) ∨
        ∃ n register, c = operateLines op n register) := by
  obtain ⟨u, hu⟩ := takeCount_suffix rest
  have hlast : ∀ {z : Char} {v : Text}, (Prefix.takeCount rest).2 = v → v.getLast? = some z →
      rest.getLast? = some z := by
    intro z v hv hz
    rw [← hu, hv, List.getLast?_append, hz, Option.some_or]
  unfold parseOperator at h
  dsimp only at h
  split at h
  · cases h
  · rename_i d rest' hd
    split at h
    · rename_i he
      obtain ⟨rfl, rfl⟩ := Parse.ofKey_complete h
      exact ⟨⟨d, hlast hd rfl, he ▸ hk⟩, .inr ⟨_, _, rfl⟩⟩
    · split at h
      · rename_i m hm
        obtain ⟨m', rfl, rfl⟩ := Parse.map_complete h
        refine ⟨?_, .inl ⟨_, _, _, _, rfl⟩⟩
        rcases Motion.parse?_complete hm with ⟨rfl, rfl⟩ | ⟨hs, rfl⟩
        · exact ⟨'g', hlast hd rfl, by decide⟩
        · exact ⟨d, hlast hd rfl, Motion.ne_escapeKey hs⟩
      · cases h

lemma operator_ne_escapeKey {c : Char} {op : Operator} (h : Operator.ofKey? c = some op) :
    c ≠ escapeKey := by
  rintro rfl
  cases h

lemma change_iff {c : Char} {op : Operator} (h : Operator.ofKey? c = some op) :
    op = .change ↔ c = 'c' := by
  unfold Operator.ofKey? at h
  split at h <;> cases h <;> simp_all

def isFor (visual : Bool) : Command → Bool
  | move .. | Command.visual _ | escape => true
  | visualAction .. => visual
  | _ => !visual

variable {m : Mode} {p : Prefix} {key : Char} {rest : Text} {c : Command}

lemma parseOperator_trigger {op : Operator} (hop : Operator.ofKey? key = some op)
    (hp : parseOperator op key p rest = .complete c) :
    Trigger.ofNormalBody? (key :: rest) = c.trigger? m ∧ c.isFor false := by
  obtain ⟨⟨z, hz, he⟩, hc⟩ := parseOperator_complete (operator_ne_escapeKey hop) hp
  by_cases hk : key = 'c'
  · obtain rfl := (change_iff hop).mpr hk
    rw [hk, Trigger.ofNormalBody?_change hz he]
    rcases hc with ⟨_, _, _, _, rfl⟩ | ⟨_, _, rfl⟩ <;> exact ⟨rfl, rfl⟩
  · have ho : op ≠ .change := fun ho => hk ((change_iff hop).mp ho)
    obtain - | ⟨d, rest⟩ := rest
    · cases hz
    · rw [Trigger.ofNormalBody?_long hk]
      rcases hc with ⟨_, _, _, _, rfl⟩ | ⟨_, _, rfl⟩ <;> cases op <;>
        first | exact ⟨rfl, rfl⟩ | exact absurd rfl ho

lemma parseNormal_trigger (hp : parseNormal p key rest = .complete c) (hc : c ≠ .escape) :
    Trigger.ofNormalBody? (key :: rest) = c.trigger? m ∧ c.isFor false := by
  unfold parseNormal at hp
  split at hp
  · rename_i hop
    exact parseOperator_trigger hop hp
  · rename_i s hs _
    obtain ⟨rfl, rfl⟩ := Parse.ofKey_complete hp
    rw [Trigger.ofNormalBody?_of_simple hs]
    cases s <;> exact ⟨rfl, rfl⟩
  · rename_i hi _ _
    obtain ⟨rfl, rfl⟩ := Parse.ofKey_complete hp
    exact ⟨Trigger.ofNormalBody?_of_insertion hi, rfl⟩
  · split at hp
    · rename_i hr
      subst hr
      unfold parseReplace at hp
      split at hp
      · cases hp
      · split at hp
        · cases hp
          exact absurd rfl hc
        · obtain ⟨rfl, rfl⟩ := Parse.ofKey_complete hp
          exact ⟨Trigger.ofNormalBody?_long (by decide), rfl⟩
    · cases hp

lemma parseVisual_trigger (hm : m.isVisual = true) (hp : parseVisual p key rest = .complete c) :
    Trigger.ofBody? m (key :: rest) = c.trigger? m ∧ c.isFor true := by
  unfold parseVisual at hp
  split at hp
  · rename_i ha
    obtain ⟨rfl, rfl⟩ := Parse.ofKey_complete hp
    rw [Trigger.ofBody?, if_pos hm]
    exact ⟨Trigger.ofVisualKey?_of_action m ha, rfl⟩
  · cases hp

lemma ofBody?_move {motion : Motion} (h : Motion.parse? key rest = some (.complete motion)) :
    Trigger.ofBody? m (key :: rest) = none := by
  unfold Trigger.ofBody?
  rcases Motion.parse?_complete h with ⟨rfl, rfl⟩ | ⟨hk, rfl⟩
  · split
    · rfl
    · exact Trigger.ofNormalBody?_long (by decide)
  · split
    · exact Trigger.ofVisualKey?_of_motion m hk
    · exact Trigger.ofNormalBody?_of_motion hk

lemma parseBody_trigger {body : Text} (hp : parseBody m.isVisual p body = .complete c)
    (hc : c ≠ .escape) : Trigger.ofBody? m body = c.trigger? m ∧ c.isFor m.isVisual := by
  obtain - | ⟨key, rest⟩ := body
  · cases hp
  · unfold parseBody at hp
    dsimp only at hp
    split at hp
    · cases hp
      exact absurd rfl hc
    · rename_i he
      split at hp
      · rename_i k hk
        obtain ⟨rfl, rfl⟩ := Parse.ofKey_complete hp
        refine ⟨?_, rfl⟩
        unfold Trigger.ofBody?
        split
        · exact Trigger.ofVisualKey?_of_kind m he hk
        · exact Trigger.ofNormalBody?_of_kind hk
      · split at hp
        · rename_i hx
          obtain ⟨x, rfl, rfl⟩ := Parse.map_complete hp
          exact ⟨ofBody?_move hx, rfl⟩
        · cases hm : m.isVisual with
          | true =>
            rw [hm, if_pos rfl] at hp
            exact parseVisual_trigger hm hp
          | false =>
            rw [hm, if_neg Bool.false_ne_true] at hp
            unfold Trigger.ofBody?
            rw [hm, if_neg Bool.false_ne_true]
            exact parseNormal_trigger hp hc

def foreignKeys : List Char := [':', '=', '!', '/', '?', 'q', '@', '\r', '\n']

lemma foreign_means_nothing : ∀ key ∈ foreignKeys, (key ≠ escapeKey ∧ key ≠ 'g' ∧ key ≠ 'r') ∧
    (VisualKind.ofKey? key = none ∧ Motion.ofKey? key = none ∧ VisualAction.ofKey? key = none) ∧
      Operator.ofKey? key = none ∧ Simple.ofKey? key = none ∧ Insertion.ofKey? key = none :=
  -- over the list, not over every character
  @of_decide_eq_true _ (List.decidableBAll _ foreignKeys) rfl

lemma parseBody_foreign (visual : Bool) (p : Prefix) (hk : key ∈ foreignKeys) :
    parseBody visual p (key :: rest) = .invalid := by
  obtain ⟨⟨he, hg, hr⟩, ⟨hk, hm, ha⟩, ho, hs, hi⟩ := foreign_means_nothing key hk
  simp [parseBody, Motion.parse?, parseVisual, parseNormal, *]

lemma parse_enter (visual : Bool) {c : Char} (hc : c = '\r' ∨ c = '\n') :
    parse visual [c] = .invalid := by
  have hs : Prefix.split? [c] = some (⟨none, none⟩, [c]) := by
    rcases hc with rfl | rfl <;> rfl
  have hk : c ∈ foreignKeys := by
    rcases hc with rfl | rfl <;> decide
  simp only [parse, hs]
  exact parseBody_foreign visual _ hk

lemma parse_of_isLine (visual : Bool) {t : Text} (h : (CommandKind.ofText t).isLine = true) :
    parse visual t = .invalid := by
  simp only [parse, split?_of_isLine h]
  unfold CommandKind.ofText at h
  split at h
  · cases h
  · exact parseBody_foreign visual _ (by decide)
  · exact parseBody_foreign visual _ (by decide)
  · exact parseBody_foreign visual _ (by decide)
  · exact parseBody_foreign visual _ (by decide)
  · exact parseBody_foreign visual _ (by decide)
  · cases h

lemma parse_of_macroBody (visual : Bool) {t : Text} (h : (macroBody? t).isSome = true) :
    parse visual t = .invalid := by
  obtain ⟨⟨body, times⟩, h⟩ := Option.isSome_iff_exists.mp h
  obtain ⟨p, hs, hb, -⟩ := macroBody?_eq_some.mp h
  simp only [parse, hs]
  cases body with
  | nil => cases hb
  | cons c rest =>
    simp only [isMacroBody, Bool.or_eq_true, beq_iff_eq] at hb
    rcases hb with rfl | rfl <;> exact parseBody_foreign visual p (by decide)

lemma classify?_of_parse (hm : m.isInsert = false) {t : Text}
    (hp : parse m.isVisual t = .complete c) (hc : c ≠ .escape) :
    Trigger.classify? m t = c.trigger? m ∧ c.isFor m.isVisual := by
  unfold parse at hp
  split at hp
  · cases hp
  · rename_i ht
    rw [Trigger.classify?_eq hm ht]
    exact parseBody_trigger hp hc

/-- The two readers of a command agree on where its body begins and on what it does to the mode. -/
theorem trigger_of_parse (hm : m.isInsert = false) {t : Text}
    (hp : parse m.isVisual t = .complete c) (hc : c ≠ .escape) :
    Trigger.classify? m t = c.trigger? m ∧ c.isFor m.isVisual ∧
      (Prefix.split? t).map Prod.snd = some (Trigger.bodyOf t) ∧
      ∀ k, c = .visual k → ∃ key, Trigger.bodyOf t = [key] ∧ VisualKind.ofKey? key = some k := by
  obtain ⟨ht, hf⟩ := classify?_of_parse hm hp hc
  have hq : t ≠ ['"'] := by
    rintro rfl
    cases hp
  have hb : (Prefix.split? t).map Prod.snd = some (Trigger.bodyOf t) := by
    rw [Trigger.split?_body, if_neg hq]
  refine ⟨ht, hf, hb, ?_⟩
  rintro k rfl
  obtain ⟨⟨p, body⟩, hs, hbody⟩ := Option.map_eq_some_iff.mp hb
  obtain rfl : body = Trigger.bodyOf t := hbody
  rw [Trigger.classify?_eq hm hs] at ht
  exact Trigger.ofBody?_visual ht

theorem block_change_of_parse :
    let change := Command.visualAction .insertLeft (some '1') 3
    parse true "\"13I".toList = .complete change ∧
      Trigger.classify? .visualBlock "\"13I".toList = some .change ∧
      Trigger.classify? .visual "\"13I".toList = none := by
  intro change
  have hp : parse true "\"13I".toList = .complete change := by decide
  exact ⟨hp, (trigger_of_parse (m := .visualBlock) rfl hp nofun).1,
    (trigger_of_parse (m := .visual) rfl hp nofun).1⟩

end Command

end ModalEdit
