import Mathlib.Tactic.IntervalCases
import ModalEdit.Proofs.Spelling

/-! Counts as they are typed: in front of a command and behind its operator. Both are multiplied up
to the cap, so that a machine word holds what is reckoned with the product. -/

namespace ModalEdit

namespace Prefix

variable {m k body : Text} {p : Prefix} {t : Text}

lemma min_min_mul (a b c : Nat) : min (min a c * b) c = min (a * b) c := by
  rcases Nat.le_total a c with h | h
  · rw [Nat.min_eq_left h]
  · rw [Nat.min_eq_right h]
    rcases Nat.eq_zero_or_pos b with rfl | hb
    · rfl
    · have hc := Nat.le_mul_of_pos_right c hb
      rw [Nat.min_eq_right hc, Nat.min_eq_right (Nat.le_trans hc (Nat.mul_le_mul_right b h))]

structure IsCount (ds : Text) : Prop where
  digits : ∀ d ∈ ds, d.isDigit = true
  opens : ∀ d ∈ ds.head?, opensCount d = true

instance (ds : Text) : Decidable (IsCount ds) :=
  decidable_of_iff (ds.all Char.isDigit = true ∧ ds.head?.all opensCount = true) <| by
    rw [List.all_eq_true, Option.all_eq_true]
    exact ⟨fun h => ⟨h.1, h.2⟩, fun h => ⟨h.1, h.2⟩⟩

def countOf (ds : Text) : Nat := if ds = [] then 1 else decimal ds

def typed? (ds : Text) : Option Nat := if ds = [] then none else some (min (decimal ds) countCap)

@[simp] lemma isSome_typed? (ds : Text) : (typed? ds).isSome = decide (ds ≠ []) := by
  unfold typed?
  split <;> simp [*]

lemma getD_typed? (ds : Text) : (typed? ds).getD 1 = min (countOf ds) countCap := by
  unfold typed? countOf
  split <;> rfl

lemma IsCount.takeCount_eq (hm : IsCount m) : takeCount m = (typed? m, []) := by
  cases m with
  | nil => rfl
  | cons c cs => exact takeCount_of_digits (hm.opens c rfl) hm.digits

lemma IsCount.takeCount_append (hm : IsCount m) {c : Char} (hc : c.isDigit = false) (rest : Text) :
    takeCount (m ++ c :: rest) = (typed? m, c :: rest) := by
  have h := hm.takeCount_eq
  rw [takeCount_append_of_not_digit (congrArg Prod.snd h) hc, h]

lemma IsCount.split?_eq (hm : IsCount m) (r : Option Char) :
    split? (registerKeys r ++ m) = some (⟨r, typed? m⟩, []) := by
  cases r with
  | some c =>
    change split? ('"' :: c :: m) = _
    rw [split?_quote, hm.takeCount_eq]
  | none =>
    have hq : m.head? ≠ some '"' := fun hq => nomatch hm.opens '"' hq
    change split? m = _
    rw [split?_plain hq, hm.takeCount_eq]

lemma countOrOne_le (h : split? t = some (p, body)) : p.countOrOne ≤ countCap := by
  obtain ⟨u, hu⟩ := exists_takeCount h
  unfold countOrOne
  cases hn : p.count with
  | none => decide
  | some n => exact takeCount_le (hu ▸ hn)

end Prefix

open Prefix (IsCount countOf typed? registerKeys)

def Motion.SpelledBy (m : Motion) (w : Text) : Prop :=
  ∃ c rest, w = c :: rest ∧ parse? c rest = some (.complete m)

namespace Command

def counted (n : Nat) (explicit : Bool) : Command → Command
  | move m _ _ => .move m n explicit
  | operate op m _ _ r => .operate op m n explicit r
  | operateLines op _ r => .operateLines op n r
  | simple s _ r => .simple s n r
  | replace c _ => .replace c n
  | insert i _ => .insert i n
  | visualAction a r _ => .visualAction a r n
  | visual kind => .visual kind
  | escape => .escape

def count? : Command → Option Nat
  | move _ n _ | operate _ _ n _ _ | operateLines _ n _ | simple _ n _ | replace _ n | insert _ n
  | visualAction _ _ n => some n
  | visual _ | escape => none

def isOperator : Command → Bool
  | operate .. | operateLines .. => true
  | _ => false

/-- Line arithmetic with the count stays in the machine word, for lines that leave room for the
largest count. -/
structure SafeCount (n : Nat) : Prop where
  pos : 1 ≤ n
  le : n ≤ 999999
  line (i : Nat) (hi : i < UInt64.size - 1000000) :
    i + n < UInt64.size ∧ (UInt64.ofNat i + UInt64.ofNat n - 1).toNat = i + n - 1
  previous : (UInt64.ofNat n - 1).toNat = n - 1

lemma word_sub_one {n : Nat} (hpos : 0 < n) (hlt : n < UInt64.size) :
    (UInt64.ofNat n - 1).toNat = n - 1 := by
  have hn := UInt64.toNat_ofNat_of_lt' hlt
  have hle : 1 ≤ UInt64.ofNat n := by
    rw [UInt64.le_iff_toNat_le, hn]
    exact hpos
  rw [UInt64.toNat_sub_of_le _ _ hle, hn]
  rfl

lemma safeCount {n : Nat} (hpos : 0 < n) (hle : n ≤ countCap) : SafeCount n := by
  have hn : n ≤ 999999 := hle
  refine ⟨hpos, hn, fun i hi => ?_, word_sub_one hpos (by simp only [UInt64.size]; omega)⟩
  have hlt : i + n < UInt64.size := by
    simp only [UInt64.size] at hi ⊢
    omega
  exact ⟨hlt, by rw [← UInt64.ofNat_add, word_sub_one (by omega) hlt]⟩

variable {visual : Bool} {p : Prefix} {op : Operator} {key : Char} {m k w body t : Text}
  {motion : Motion} {c : Command} {r : Option Char} {n : Nat}

lemma parse?_operatorKey (ho : Operator.ofKey? key = some op) (rest : Text) :
    Motion.parse? key rest = none := by
  unfold Operator.ofKey? at ho
  split at ho <;> cases ho <;> rfl

lemma isDigit_of_motion {rest : Text} (h : Motion.parse? key rest = some (.complete motion)) :
    key.isDigit = false ∨ key = '0' ∧ rest = [] := by
  rcases Motion.parse?_complete h with ⟨rfl, -⟩ | ⟨hkey, rfl⟩
  · exact .inl rfl
  · unfold Motion.ofKey? at hkey
    split at hkey <;> cases hkey <;> simp

lemma parse_operator (ho : Operator.ofKey? key = some op) (hm : IsCount m) (r : Option Char)
    (rest : Text) :
    parse false (registerKeys r ++ (m ++ key :: rest)) =
      parseOperator op key ⟨r, typed? m⟩ rest := by
  obtain ⟨hdigit, hquote⟩ := Operator.key_ends_header ho
  have hs := Prefix.split?_header_append (hm.split?_eq r) hdigit hquote rest
  rw [← List.append_assoc, parse_of_split hs, parseBody_of_operator ho]

lemma operand_count (m k : Text) (r : Option Char) :
    min ((⟨r, typed? m⟩ : Prefix).countOrOne * (typed? k).getD 1) countCap =
      min (countOf m * countOf k) countCap := by
  rw [Prefix.countOrOne, Prefix.getD_typed?, Prefix.getD_typed?, Prefix.min_min_mul, Nat.mul_comm,
    Prefix.min_min_mul, Nat.mul_comm]

lemma parse_operate (ho : Operator.ofKey? key = some op) (hw : motion.SpelledBy w)
    (hm : IsCount m) (hk : IsCount k) (hzero : k ≠ [] → w ≠ ['0']) (r : Option Char) :
    parse false (registerKeys r ++ (m ++ key :: (k ++ w))) =
      .complete (.operate op motion (min (countOf m * countOf k) countCap)
        (decide (m ≠ [] ∨ k ≠ [])) r) := by
  obtain ⟨c, rest, rfl, hparse⟩ := hw
  have hcount : Prefix.takeCount (k ++ c :: rest) = (typed? k, c :: rest) := by
    rcases isDigit_of_motion hparse with hc | ⟨rfl, rfl⟩
    · exact hk.takeCount_append hc rest
    · obtain rfl : k = [] := by
        by_contra hne
        exact hzero hne rfl
      rfl
  have hkey : c ≠ key := by
    rintro rfl
    rw [parse?_operatorKey ho] at hparse
    cases hparse
  rw [parse_operator ho hm, parseOperator_of_operand hcount, parseOperand, if_neg hkey, hparse,
    operand_count]
  simp [Parse.map]

lemma parse_doubled (ho : Operator.ofKey? key = some op) (hm : IsCount m) (hk : IsCount k)
    (r : Option Char) :
    parse false (registerKeys r ++ (m ++ key :: (k ++ [key]))) =
      .complete (.operateLines op (min (countOf m * countOf k) countCap) r) := by
  have hcount := hk.takeCount_append (Operator.key_ends_header ho).1 []
  rw [parse_operator ho hm, parseOperator_of_operand hcount, parseOperand, if_pos rfl,
    operand_count]
  rfl

lemma parseReplace_counted {rest : Text} (h : parseReplace p rest = .complete c) :
    c.isOperator = false ∧ ∀ p' : Prefix,
      parseReplace p' rest = .complete (c.counted p'.countOrOne p'.count.isSome) := by
  obtain - | ⟨k, rest⟩ := rest
  · cases h
  · by_cases hesc : k = escapeKey
    · rw [parseReplace, if_pos hesc] at h
      cases h
      exact ⟨rfl, fun p' => by rw [parseReplace, if_pos hesc]; rfl⟩
    · rw [parseReplace, if_neg hesc] at h
      obtain ⟨rfl, rfl⟩ := Parse.ofKey_complete h
      exact ⟨rfl, fun p' => by rw [parseReplace, if_neg hesc]; rfl⟩

lemma parseNormal_cases {rest : Text} (h : parseNormal p key rest = .complete c) :
    (∃ op, Operator.ofKey? key = some op ∧ parseOperator op key p rest = .complete c) ∨
    c.isOperator = false ∧ ∀ p' : Prefix, p'.register = p.register →
      parseNormal p' key rest = .complete (c.counted p'.countOrOne p'.count.isSome) := by
  unfold parseNormal at h ⊢
  split at h
  · exact .inl ⟨_, ‹_›, h⟩
  · obtain ⟨rfl, rfl⟩ := Parse.ofKey_complete h
    exact .inr ⟨rfl, fun p' hp => by simp [*, Parse.ofKey, counted]⟩
  · obtain ⟨rfl, rfl⟩ := Parse.ofKey_complete h
    exact .inr ⟨rfl, fun p' hp => by simp [*, Parse.ofKey, counted]⟩
  · split at h
    · obtain ⟨hc, hp'⟩ := parseReplace_counted h
      exact .inr ⟨hc, fun p' _ => by simp [*]⟩
    · cases h

lemma parseBody_cases (h : parseBody visual p body = .complete c) :
    (∃ op key rest, visual = false ∧ body = key :: rest ∧ Operator.ofKey? key = some op ∧
      parseOperator op key p rest = .complete c) ∨
    c.isOperator = false ∧ ∀ p' : Prefix, p'.register = p.register →
      parseBody visual p' body = .complete (c.counted p'.countOrOne p'.count.isSome) := by
  obtain - | ⟨key, rest⟩ := body
  · cases h
  by_cases hesc : key = escapeKey
  · rw [parseBody, if_pos hesc] at h
    cases h
    exact .inr ⟨rfl, fun p' _ => by rw [parseBody, if_pos hesc]; rfl⟩
  simp only [parseBody, if_neg hesc] at h ⊢
  cases hkind : VisualKind.ofKey? key with
  | some kind =>
    rw [hkind] at h
    obtain ⟨rfl, rfl⟩ := Parse.ofKey_complete h
    exact .inr ⟨rfl, fun _ _ => rfl⟩
  | none =>
    rw [hkind] at h
    cases hmotion : Motion.parse? key rest with
    | some a =>
      rw [hmotion] at h
      obtain ⟨motion, rfl, rfl⟩ := Parse.map_complete h
      exact .inr ⟨rfl, fun _ _ => rfl⟩
    | none =>
      rw [hmotion] at h
      cases visual with
      | true =>
        simp only [parseVisual, ↓reduceIte] at h ⊢
        split at h
        · obtain ⟨rfl, rfl⟩ := Parse.ofKey_complete h
          exact .inr ⟨rfl, fun p' hp => by simp [*, Parse.ofKey, counted]⟩
        · cases h
      | false =>
        rcases parseNormal_cases h with ⟨op, ho, h⟩ | hc
        · exact .inl ⟨op, key, rest, rfl, rfl, ho, h⟩
        · exact .inr hc

lemma count?_counted {i : Nat} {explicit : Bool} (h : (c.counted n explicit).count? = some i) :
    i = n := by
  cases c <;> cases h <;> rfl

lemma parseBody_opensCount (hkey : Prefix.opensCount key = true) (rest : Text) :
    parseBody visual p (key :: rest) = .invalid := by
  obtain ⟨hle, hge⟩ := (Trigger.opensCount_iff key).mp hkey
  rw [← Char.ofNat_toNat key]
  have hlow : 49 ≤ key.toNat := UInt32.le_iff_toNat_le.mp hle
  have hhigh : key.toNat ≤ 57 := UInt32.le_iff_toNat_le.mp hge
  generalize key.toNat = i at hlow hhigh
  interval_cases i <;> cases visual <;> rfl

lemma parse_counted (h : parseBody visual ⟨r, none⟩ body = .complete c) (hc : c.isOperator = false)
    (hzero : body.head? ≠ some '0') (hm : IsCount m) (hne : m ≠ []) :
    parse visual (registerKeys r ++ (m ++ body)) =
      .complete (c.counted (min (decimal m) countCap) true) := by
  have hone : 0 < (⟨r, none⟩ : Prefix).countOrOne := Nat.one_pos
  obtain ⟨-, hbody⟩ := (parseBody_cases h).resolve_left fun ⟨_, _, _, _, _, _, hop⟩ => by
    rcases parseOperator_cases hone hop with ⟨_, -, -, ⟨_, _, rfl⟩ | rfl⟩ <;> cases hc
  have hread := hbody ⟨r, typed? m⟩ rfl
  obtain - | ⟨key, rest⟩ := body
  · cases h
  have hdigit : key.isDigit = false := by
    rw [← Bool.not_eq_true]
    intro hd
    have hopens : Prefix.opensCount key = true := by
      simpa [Prefix.opensCount, hd] using hzero
    rw [parseBody_opensCount hopens] at h
    cases h
  have hquote : key ≠ '"' := by
    rintro rfl
    cases visual <;> cases h
  rw [← List.append_assoc,
    parse_of_split (Prefix.split?_header_append (hm.split?_eq r) hdigit hquote rest), hread]
  simp [typed?, Prefix.countOrOne, hne]

lemma countOrOne_safe (h : Prefix.split? t = some (p, body)) : SafeCount p.countOrOne :=
  safeCount (Prefix.countOrOne_pos h) (Prefix.countOrOne_le h)

lemma safeCount_of_parse (h : parse visual t = .complete c) (hn : c.count? = some n) :
    SafeCount n := by
  cases hs : Prefix.split? t with
  | none =>
    rw [parse, hs] at h
    cases h
  | some x =>
    obtain ⟨p, body⟩ := x
    have hp := countOrOne_safe hs
    rw [parse_of_split hs] at h
    rcases parseBody_cases h with ⟨_, _, _, -, -, -, hop⟩ | ⟨-, hbody⟩
    · rcases parseOperator_cases hp.pos hop with ⟨i, hpos, hle, ⟨_, _, rfl⟩ | rfl⟩ <;>
        exact Option.some.inj hn ▸ safeCount hpos hle
    · rw [Parse.complete.inj (h.symm.trans (hbody p rfl))] at hn
      exact count?_counted hn ▸ hp

/-- Counts in front of an operator and behind it are multiplied, however many digits they have, and
the product is cut off at the cap; any other body has the count in front of it. Only the motion that
is a zero cannot follow a count. So line arithmetic has room for every count. -/
theorem counts_exact {m k : Text} (hm : IsCount m) (hk : IsCount k) (r : Option Char) :
    (∀ key op, Operator.ofKey? key = some op →
      (∀ w (motion : Motion), motion.SpelledBy w → (k ≠ [] → w ≠ ['0']) →
        parse false (registerKeys r ++ (m ++ key :: (k ++ w))) =
          .complete (.operate op motion (min (countOf m * countOf k) countCap)
            (decide (m ≠ [] ∨ k ≠ [])) r)) ∧
      parse false (registerKeys r ++ (m ++ key :: (k ++ [key]))) =
        .complete (.operateLines op (min (countOf m * countOf k) countCap) r)) ∧
    (∀ visual body c, m ≠ [] → body.head? ≠ some '0' →
      parseBody visual ⟨r, none⟩ body = .complete c → c.isOperator = false →
      parse visual (registerKeys r ++ (m ++ body)) =
        .complete (c.counted (min (decimal m) countCap) true)) ∧
    (∀ visual t c n, parse visual t = .complete c → c.count? = some n → SafeCount n) ∧
    ∀ t p body, Prefix.split? t = some (p, body) → SafeCount p.countOrOne := by
  refine ⟨fun key op ho => ⟨fun w motion hw hzero => parse_operate ho hw hm hk hzero r,
    parse_doubled ho hm hk r⟩, fun visual body c hne hzero h hc => ?_,
    fun visual t c n => safeCount_of_parse, fun t p body => countOrOne_safe⟩
  exact parse_counted h hc hzero hm hne

theorem sample_counts_exact :
    parse false ['2', 'd', '3', 'w'] = .complete (.operate .delete .wordForward 6 true none) ∧
      SafeCount 6 ∧
      parse false (['"', 'a'] ++ (List.replicate 20 '9' ++ ['x'])) =
        .complete (.simple .deleteForward 999999 (some 'a')) ∧
      UInt64.size ≤ countOf (List.replicate 20 '9') ∧ SafeCount 999999 := by
  obtain ⟨hop, -, hsafe, -⟩ :=
    counts_exact (m := ['2']) (k := ['3']) (by decide) (by decide) none
  obtain ⟨-, hbody, -, -⟩ :=
    counts_exact (m := List.replicate 20 '9') (k := []) (by decide) (by decide) (some 'a')
  have hwords := (hop 'd' .delete rfl).1 ['w'] .wordForward ⟨'w', [], rfl, rfl⟩ (fun _ => by decide)
  have hchars := hbody false ['x'] _ (by decide) (by decide) rfl rfl
  have hsix := hsafe false _ _ 6 hwords rfl
  exact ⟨hwords, hsix, hchars, by decide, hsafe false _ _ 999999 hchars rfl⟩

/-- A zero behind a count is one of its digits, so that the motion to the start of the line cannot
be counted: the operator still waits for a motion. -/
theorem zero_lengthens_count :
    IsCount ['3'] ∧ Motion.SpelledBy .lineStart ['0'] ∧ Operator.ofKey? 'd' = some .delete ∧
      parse false (registerKeys none ++ ([] ++ 'd' :: (['3'] ++ ['0']))) = .incomplete ∧
      parse false (registerKeys none ++ ([] ++ 'd' :: (['3'] ++ ['0']))) ≠
        .complete (.operate .delete .lineStart (min (countOf [] * countOf ['3']) countCap) true
          none) := by
  have h : parse false (registerKeys none ++ ([] ++ 'd' :: (['3'] ++ ['0']))) = .incomplete := rfl
  exact ⟨by decide, ⟨'0', [], rfl, rfl⟩, rfl, h, h ▸ nofun⟩

end Command

end ModalEdit
