import Mathlib.Data.Nat.Digits.Defs
import ModalEdit.Calculator
import ModalEdit.Proofs.Bytes
import ModalEdit.Proofs.Joining

/-! Written expressions and their values: whatever blanks and needless parentheses an expression is
written with, the calculator gives the value of its tree. -/

namespace ModalEdit.Calculator

open Unicode Text

structure Literal where
  whole : Text
  fraction : Option Text
  isDigit : ∀ c ∈ whole ++ fraction.getD [], c.isDigit = true
  nonempty : whole ++ fraction.getD [] ≠ []

namespace Literal

variable (l : Literal)

def text : Text := l.whole ++ l.fraction.elim [] ('.' :: ·)

def numerator : Nat :=
  Nat.ofDigits 10 ((l.whole ++ l.fraction.getD []).reverse.map fun c => c.toNat - 48)

def value : Float :=
  Number.Binary64.nearest false l.numerator (10 ^ (l.fraction.getD []).length)

end Literal

inductive Expr where
  | literal (l : Literal)
  | sign (op : SumOp) (e : Expr)
  | sum (op : SumOp) (l r : Expr)
  | product (op : ProductOp) (l r : Expr)

def SumOp.sign : SumOp → Float → Float
  | .add, x => x
  | .sub, x => -x

def SumOp.symbol : SumOp → Char
  | .add => '+'
  | .sub => '-'

def ProductOp.symbol : ProductOp → Char
  | .mul => '*'
  | .div => '/'
  | .rem => '%'

namespace Expr

def value : Expr → Except Error Float
  | literal l => .ok l.value
  | sign op e => do return op.sign (← e.value)
  | sum op l r => do
    let x ← l.value
    let y ← r.value
    return op.apply x y
  | product op l r => do
    let x ← l.value
    let y ← r.value
    op.apply x y

def DividesByZero : Expr → Prop
  | literal _ => False
  | sign _ e => e.DividesByZero
  | sum _ l r => l.DividesByZero ∨ r.DividesByZero
  | product op l r =>
    l.DividesByZero ∨ r.DividesByZero ∨ op ≠ .mul ∧ ∃ y, r.value = .ok y ∧ (y == 0) = true

end Expr

inductive Level where
  | sum | product | factor
  deriving DecidableEq, Repr

def Level.rank : Level → Nat
  | .sum => 0
  | .product => 1
  | .factor => 2

def enclose (need own : Level) (t : Text) : Text :=
  if own.rank < need.rank then '(' :: (t ++ [')']) else t

abbrev Blanks := { t : Text // t.Blank }

def noBlanks : Blanks := ⟨[], List.forall_mem_nil _⟩

/-- How an expression is written: with which blanks in front of its lexemes, and where with
parentheses that it could do without. The parentheses it needs may be among them, which gives these
blanks too. -/
inductive Layout : Expr → Type where
  | literal (b : Blanks) (l : Literal) : Layout (.literal l)
  | sign (b : Blanks) (op : SumOp) {e : Expr} (f : Layout e) : Layout (.sign op e)
  | sum {l r : Expr} (f : Layout l) (b : Blanks) (op : SumOp) (g : Layout r) : Layout (.sum op l r)
  | product {l r : Expr} (f : Layout l) (b : Blanks) (op : ProductOp) (g : Layout r) :
    Layout (.product op l r)
  | parens (b : Blanks) {e : Expr} (f : Layout e) (b' : Blanks) : Layout e

namespace Layout

def plain : (e : Expr) → Layout e
  | .literal l => .literal noBlanks l
  | .sign op e => .sign noBlanks op (plain e)
  | .sum op l r => .sum (plain l) noBlanks op (plain r)
  | .product op l r => .product (plain l) noBlanks op (plain r)

instance {e : Expr} : Inhabited (Layout e) := ⟨plain e⟩

def level {e : Expr} : Layout e → Level
  | sum .. => .sum
  | product .. => .product
  | literal .. | sign .. | parens .. => .factor

def print {e : Expr} : Layout e → Text
  | literal b l => b ++ l.text
  | sign b op f => b ++ op.symbol :: enclose .factor f.level f.print
  | sum f b op g => f.print ++ (b ++ op.symbol :: enclose .product g.level g.print)
  | product f b op g =>
    enclose .product f.level f.print ++ (b ++ op.symbol :: enclose .factor g.level g.print)
  | parens b f b' => b ++ '(' :: (f.print ++ (b' ++ [')']))

end Layout

/-! ### Tokens -/

variable {t rest : Text} {n : Nat}

lemma toNat_of_isNumeral {c : Char} (hc : isNumeral c = true) : 46 ≤ c.toNat ∧ c.toNat ≤ 57 := by
  rcases Bool.or_eq_true_iff.mp hc with hd | hp
  · have h : 48 ≤ c.toNat ∧ c.toNat ≤ 57 := Char.isDigit_iff_toNat.mp hd
    omega
  · obtain rfl := beq_iff_eq.mp hp
    decide

lemma isNumeral_of_isWhitespace {c : Char} (hc : isWhitespace c = true) : isNumeral c = false := by
  rw [Bool.eq_false_iff]
  intro hn
  have h := toNat_of_isNumeral hn
  simp only [isWhitespace, Bool.or_eq_true, Bool.and_eq_true, decide_eq_true_eq, beq_iff_eq] at hc
  omega

lemma utf8Size_of_isNumeral {c : Char} (hc : isNumeral c = true) : c.utf8Size = 1 := by
  refine Char.utf8Size_eq_one_iff.mpr (UInt32.le_iff_toNat_le.mpr ?_)
  have h := toNat_of_isNumeral hc
  change c.toNat ≤ 127
  omega

lemma tokens_blank {b : Text} (hb : b.Blank) (n : Nat) (t : Text) :
    tokens n (b ++ t) = tokens (n + byteLength b) t := by
  induction b generalizing n with
  | nil => rfl
  | cons c b ih =>
    have hc := hb c List.mem_cons_self
    rw [List.cons_append, tokens, if_neg (by simp [isNumeral_of_isWhitespace hc]), if_pos hc,
      ih (fun d hd => hb d (List.mem_cons_of_mem c hd)), byteLength_cons, Nat.add_assoc]

lemma tokens_symbol {c : Char} (hn : isNumeral c = false) (hw : isWhitespace c = false) :
    tokens n (c :: t) = ⟨n, .symbol c⟩ :: tokens (n + c.utf8Size) t := by
  rw [tokens, if_neg (by simp [hn]), if_neg (by simp [hw])]

lemma tokens_sumOp (op : SumOp) (n : Nat) (t : Text) :
    tokens n (op.symbol :: t) = ⟨n, .symbol op.symbol⟩ :: tokens (n + op.symbol.utf8Size) t := by
  cases op <;> exact tokens_symbol rfl rfl

lemma tokens_productOp (op : ProductOp) (n : Nat) (t : Text) :
    tokens n (op.symbol :: t) = ⟨n, .symbol op.symbol⟩ :: tokens (n + op.symbol.utf8Size) t := by
  cases op <;> exact tokens_symbol rfl rfl

lemma offset_consNumeral (n : Nat) (c : Char) (ts : List Token) :
    ∀ k ∈ (consNumeral n c ts).head?, k.offset = n := by
  rintro k hk
  unfold consNumeral at hk
  split at hk
  · split at hk <;> cases hk <;> rfl
  · cases hk
    rfl

lemma le_offset (n : Nat) (t : Text) : ∀ k ∈ (tokens n t).head?, n ≤ k.offset := by
  induction t generalizing n with
  | nil => nofun
  | cons c t ih =>
    intro k hk
    rw [tokens] at hk
    split at hk
    · exact (offset_consNumeral n c _ k hk).ge
    · split at hk
      · exact (Nat.le_add_right n c.utf8Size).trans (ih _ k hk)
      · cases hk
        exact le_rfl

def EndsNumber (t : Text) : Prop := ∀ c ∈ t.head?, isNumeral c = false

lemma EndsNumber.nil : EndsNumber [] := nofun

lemma EndsNumber.cons {c : Char} (hc : isNumeral c = false) (t : Text) : EndsNumber (c :: t) := by
  intro d hd
  obtain rfl : c = d := by simpa using hd
  exact hc

lemma EndsNumber.blank_append {b : Text} (hb : b.Blank) (ht : EndsNumber t) :
    EndsNumber (b ++ t) := by
  cases b with
  | nil => exact ht
  | cons c b => exact .cons (isNumeral_of_isWhitespace (hb c List.mem_cons_self)) _

lemma EndsNumber.lt_offset (hr : EndsNumber rest) (n : Nat) :
    ∀ k ∈ (tokens n rest).head?, ∀ ds, k.lexeme = .number ds → n < k.offset := by
  cases rest with
  | nil => nofun
  | cons c rest =>
    intro k hk ds hds
    rw [tokens, if_neg (by simp [hr c rfl])] at hk
    split at hk
    · have hle := le_offset _ _ k hk
      have hpos := Char.utf8Size_pos c
      omega
    · cases hk
      cases hds

lemma consNumeral_of_lt {ts : List Token} (c : Char)
    (h : ∀ k ∈ ts.head?, ∀ ds, k.lexeme = .number ds → n + 1 < k.offset) :
    consNumeral n c ts = ⟨n, .number [c]⟩ :: ts := by
  unfold consNumeral
  split
  · next m ds ts =>
    have hm := h ⟨m, .number ds⟩ rfl ds rfl
    exact if_neg hm.ne'
  · rfl

lemma tokens_number {ds : Text} (hd : ∀ c ∈ ds, isNumeral c = true) (hne : ds ≠ [])
    (hr : EndsNumber rest) (n : Nat) :
    tokens n (ds ++ rest) = ⟨n, .number ds⟩ :: tokens (n + byteLength ds) rest := by
  induction ds generalizing n with
  | nil => cases hne rfl
  | cons c ds ih =>
    have hc := hd c List.mem_cons_self
    rw [List.cons_append, tokens, if_pos hc, byteLength_cons, utf8Size_of_isNumeral hc,
      ← Nat.add_assoc]
    cases ds with
    | nil => exact consNumeral_of_lt c (hr.lt_offset (n + 1))
    | cons d ds =>
      rw [ih (fun x hx => hd x (List.mem_cons_of_mem c hx)) (List.cons_ne_nil d ds) (n + 1),
        consNumeral, if_pos rfl]

namespace Literal

variable (l : Literal)

lemma isDigit_whole : ∀ c ∈ l.whole, c.isDigit = true :=
  fun c hc => l.isDigit c (List.mem_append_left _ hc)

lemma ne_point {ds : Text} (hd : ∀ c ∈ ds, c.isDigit = true) : ∀ c ∈ ds, (c != '.') = true := by
  intro c hc
  rw [bne_iff_ne]
  rintro rfl
  cases hd '.' hc

lemma isNumeral_text : ∀ c ∈ l.text, isNumeral c = true := by
  intro c hc
  have hd := l.isDigit
  rw [text] at hc
  cases hf : l.fraction with
  | none =>
    rw [hf] at hc
    simp [isNumeral, l.isDigit_whole c (by simpa using hc)]
  | some ds =>
    rw [hf] at hc hd
    rcases List.mem_append.mp hc with hw | hp
    · simp [isNumeral, l.isDigit_whole c hw]
    · rcases List.mem_cons.mp hp with rfl | hs
      · rfl
      · simp [isNumeral, hd c (List.mem_append_right _ hs)]

lemma text_ne_nil : l.text ≠ [] := by
  intro h
  obtain ⟨hw, hf⟩ := List.append_eq_nil_iff.mp h
  refine l.nonempty ?_
  cases hs : l.fraction with
  | none => simp [hw]
  | some ds =>
    rw [hs] at hf
    cases hf

lemma foldl_digits (ds : Text) :
    ds.foldl (fun n d => n * 10 + (d.toNat - 48)) 0 =
      Nat.ofDigits 10 (ds.reverse.map fun c => c.toNat - 48) := by
  rw [List.foldl_eq_foldr_reverse, Nat.ofDigits_eq_foldr, List.foldr_map]
  congr 1
  funext d n
  simp [Nat.mul_comm, Nat.add_comm]

lemma takeWhile_text : l.text.takeWhile (· != '.') = l.whole := by
  rw [text, List.takeWhile_append_of_pos (ne_point l.isDigit_whole)]
  cases l.fraction <;> simp

lemma dropWhile_text : (l.text.dropWhile (· != '.')).drop 1 = l.fraction.getD [] := by
  rw [text, List.dropWhile_append_of_pos (ne_point l.isDigit_whole)]
  cases l.fraction <;> simp

theorem literal?_text : literal? l.text = some l.value := by
  have hpoint : (l.fraction.getD []).contains '.' = false := by
    rw [Bool.eq_false_iff]
    intro h
    cases l.isDigit '.' (List.mem_append_right _ (List.contains_iff_mem.mp h))
  have hempty : (l.whole ++ l.fraction.getD []).isEmpty = false := by
    simpa [List.isEmpty_eq_false_iff] using l.nonempty
  unfold literal?
  rw [takeWhile_text, dropWhile_text]
  simp only [hpoint, hempty, Bool.or_self, Bool.false_eq_true, if_false, foldl_digits]
  rfl

end Literal

/-! ### Values -/

lemma ProductOp.apply_cases (op : ProductOp) (x y : Float) :
    (∃ z, op.apply x y = .ok z) ∧ ¬(op ≠ .mul ∧ (y == 0) = true) ∨
      op.apply x y = .error .divisionByZero ∧ op ≠ .mul ∧ (y == 0) = true := by
  cases op with
  | mul => exact .inl ⟨⟨x * y, rfl⟩, fun h => h.1 rfl⟩
  | div | rem => cases hy : y == 0 <;> simp [apply, hy]

namespace Expr

lemma value_cases (e : Expr) :
    (∃ x, e.value = .ok x) ∧ ¬e.DividesByZero ∨
      e.value = .error .divisionByZero ∧ e.DividesByZero := by
  induction e with
  | literal l => exact .inl ⟨⟨l.value, rfl⟩, id⟩
  | sign op e ih =>
    simp only [value, DividesByZero]
    rcases ih with ⟨⟨x, hx⟩, hn⟩ | ⟨hx, hd⟩
    · exact .inl ⟨⟨op.sign x, by rw [hx]; rfl⟩, hn⟩
    · exact .inr ⟨by rw [hx]; rfl, hd⟩
  | sum op l r ihl ihr =>
    simp only [value, DividesByZero]
    rcases ihl with ⟨⟨x, hx⟩, hn⟩ | ⟨hx, hd⟩
    · rcases ihr with ⟨⟨y, hy⟩, hn'⟩ | ⟨hy, hd⟩
      · exact .inl ⟨⟨op.apply x y, by rw [hx, hy]; rfl⟩, not_or.mpr ⟨hn, hn'⟩⟩
      · exact .inr ⟨by rw [hx, hy]; rfl, .inr hd⟩
    · exact .inr ⟨by rw [hx]; rfl, .inl hd⟩
  | product op l r ihl ihr =>
    simp only [value, DividesByZero]
    rcases ihl with ⟨⟨x, hx⟩, hn⟩ | ⟨hx, hd⟩
    · rcases ihr with ⟨⟨y, hy⟩, hn'⟩ | ⟨hy, hd⟩
      · simp only [hx, hy, hn, hn', false_or, Except.ok.injEq, exists_eq_left']
        exact op.apply_cases x y
      · exact .inr ⟨by rw [hx, hy]; rfl, .inr (.inl hd)⟩
    · exact .inr ⟨by rw [hx]; rfl, .inl hd⟩

lemma value_eq_error_iff (e : Expr) (err : Error) :
    e.value = .error err ↔ err = .divisionByZero ∧ e.DividesByZero := by
  rcases e.value_cases with ⟨⟨x, hx⟩, hn⟩ | ⟨hx, hd⟩
  · simp [hx, hn]
  · simp [hx, hd, eq_comm]

end Expr

/-! ### Runs -/

section Steps

variable {p q : Pending} {outer : List Pending} {ts : List Token} {x : Float}

lemma run_number {ds : Text} (h : literal? ds = some x) :
    run .operand p outer (⟨n, .number ds⟩ :: ts) =
      p.receive x >>= fun y => run (.value y) p outer ts := by
  simp only [run, h]
  cases p.receive x <;> rfl

lemma run_open :
    run .operand p outer (⟨n, .symbol '('⟩ :: ts) = run .operand {} (p :: outer) ts := by
  simp only [run, if_true]

lemma run_close :
    run (.value x) p (q :: outer) (⟨n, .symbol ')'⟩ :: ts) =
      q.receive (p.total x) >>= fun y => run (.value y) q outer ts := by
  have hs : SumOp.ofChar? ')' = none := rfl
  have hp : ProductOp.ofChar? ')' = none := rfl
  simp only [run, hs, hp, if_true]
  cases q.receive (p.total x) <;> rfl

lemma run_sign (op : SumOp) :
    run .operand p outer (⟨n, .symbol op.symbol⟩ :: ts) =
      run .operand { p with signs := op :: p.signs } outer ts := by
  cases op <;> rfl

lemma run_sum (op : SumOp) :
    run (.value x) p outer (⟨n, .symbol op.symbol⟩ :: ts) =
      run .operand { sum := some (p.total x, op) } outer ts := by
  cases op <;> rfl

lemma run_product (op : ProductOp) :
    run (.value x) p outer (⟨n, .symbol op.symbol⟩ :: ts) =
      run .operand { p with product := some (x, op), signs := [] } outer ts := by
  cases op <;> rfl

lemma run_value (h : p.sum = q.sum) :
    run (.value x) p outer ts = run (.value x) q outer ts := by
  cases ts with
  | nil => cases outer <;> simp only [run, Pending.total, h]
  | cons k ts =>
    obtain ⟨n, lexeme⟩ := k
    cases lexeme with
    | number ds => rfl
    | symbol c =>
      cases hs : SumOp.ofChar? c with
      | some op => simp only [run, hs, Pending.total, h]
      | none =>
        cases hp : ProductOp.ofChar? c with
        | some op => simp only [run, hs, hp, h]
        | none => cases outer <;> simp only [run, hs, hp, Pending.total, h]

lemma receive_sign (op : SumOp) :
    { p with signs := op :: p.signs }.receive x = p.receive (op.sign x) := by
  cases op <;> rfl

def EndsProduct (ts : List Token) : Prop :=
  ∀ k ∈ ts.head?, ∀ c, k.lexeme = .symbol c → ProductOp.ofChar? c = none

lemma run_total (h : EndsProduct ts) :
    run (.value x) p outer ts = run (.value (p.total x)) {} outer ts := by
  cases ts with
  | nil => cases outer <;> rfl
  | cons k ts =>
    obtain ⟨n, lexeme⟩ := k
    cases lexeme with
    | number ds => rfl
    | symbol c =>
      have hc := h _ rfl c rfl
      cases hs : SumOp.ofChar? c with
      | some op => simp only [run, hc, hs, Pending.total]
      | none => cases outer <;> simp only [run, hc, hs, Pending.total]

end Steps

/-! ### Texts read level by level -/

def Reads (t : Text) (v : Except Error Float) : Level → Prop
  | .factor => ∀ n p outer rest, EndsNumber rest →
    run .operand p outer (tokens n (t ++ rest)) =
      v >>= fun x => p.receive x >>= fun y =>
        run (.value y) p outer (tokens (n + byteLength t) rest)
  | .product => ∀ n sum outer rest, EndsNumber rest →
    run .operand { sum } outer (tokens n (t ++ rest)) =
      v >>= fun x => run (.value x) { sum } outer (tokens (n + byteLength t) rest)
  | .sum => ∀ n outer rest, EndsNumber rest → EndsProduct (tokens (n + byteLength t) rest) →
    run .operand {} outer (tokens n (t ++ rest)) =
      v >>= fun x => run (.value x) {} outer (tokens (n + byteLength t) rest)

section Reading

variable {s : Text} {v w : Except Error Float} {level need : Level} {b : Text}

lemma reads_literal (l : Literal) : Reads l.text (.ok l.value) .factor := by
  intro n p outer rest hr
  rw [tokens_number l.isNumeral_text l.text_ne_nil hr, run_number l.literal?_text]
  rfl

lemma Reads.lower (h : Reads t v level) (hl : need.rank ≤ level.rank) : Reads t v need := by
  have product_of_factor (h : Reads t v .factor) : Reads t v .product :=
    fun n sum outer rest hr => h n { sum } outer rest hr
  have sum_of_product (h : Reads t v .product) : Reads t v .sum :=
    fun n outer rest hr _ => h n none outer rest hr
  cases level with
  | sum =>
    cases need with
    | sum => exact h
    | product | factor => cases hl
  | product =>
    cases need with
    | sum => exact sum_of_product h
    | product => exact h
    | factor => exact absurd hl (by decide)
  | factor =>
    cases need with
    | sum => exact sum_of_product (product_of_factor h)
    | product => exact product_of_factor h
    | factor => exact h

lemma Reads.blank (hb : b.Blank) (h : Reads t v level) : Reads (b ++ t) v level := by
  cases level <;>
    simpa only [Reads, List.append_assoc, tokens_blank hb, byteLength_append, ← Nat.add_assoc]
      using fun n => h (n + byteLength b)

lemma Reads.sign (op : SumOp) (h : Reads t v .factor) :
    Reads (op.symbol :: t) (op.sign <$> v) .factor := by
  intro n p outer rest hr
  rw [List.cons_append, tokens_sumOp, run_sign, h _ _ _ _ hr, byteLength_cons, ← Nat.add_assoc]
  simp only [receive_sign, map_eq_pure_bind, bind_assoc, pure_bind]
  refine bind_congr fun x => bind_congr fun y => ?_
  exact run_value rfl

lemma endsProduct_symbol (hb : b.Blank) {c : Char} (hn : isNumeral c = false)
    (hw : isWhitespace c = false) (hp : ProductOp.ofChar? c = none) (n : Nat) (t : Text) :
    EndsProduct (tokens n (b ++ c :: t)) := by
  rw [tokens_blank hb, tokens_symbol hn hw]
  intro k hk d hd
  cases hk
  cases hd
  exact hp

lemma Reads.parens (h : Reads t v .sum) (hb : b.Blank) :
    Reads ('(' :: (t ++ (b ++ [')']))) v .factor := by
  intro n p outer rest hr
  have htext : '(' :: (t ++ (b ++ [')'])) ++ rest = '(' :: (t ++ (b ++ ')' :: rest)) := by simp
  have hlength (n : Nat) : n + byteLength ('(' :: (t ++ (b ++ [')']))) =
      n + '('.utf8Size + byteLength t + byteLength b + ')'.utf8Size := by
    simp only [byteLength_cons, byteLength_append, byteLength_nil]
    omega
  rw [htext, tokens_symbol rfl rfl, run_open,
    h _ _ _ (.blank_append hb (.cons rfl rest)) (endsProduct_symbol hb rfl rfl rfl _ rest),
    tokens_blank hb, tokens_symbol rfl rfl, hlength]
  exact bind_congr fun x => run_close

lemma operands_append (s b t rest : Text) (c : Char) :
    s ++ (b ++ c :: t) ++ rest = s ++ (b ++ c :: (t ++ rest)) := by simp

lemma byteLength_operands (n : Nat) (s b t : Text) (c : Char) :
    n + byteLength (s ++ (b ++ c :: t)) =
      n + byteLength s + byteLength b + c.utf8Size + byteLength t := by
  simp only [byteLength_append, byteLength_cons]
  omega

lemma Reads.product (hs : Reads s v .product) (hb : b.Blank) (op : ProductOp)
    (ht : Reads t w .factor) :
    Reads (s ++ (b ++ op.symbol :: t)) (do let x ← v; let y ← w; op.apply x y) .product := by
  intro n sum outer rest hr
  have hend : EndsNumber (op.symbol :: (t ++ rest)) := .cons (by cases op <;> rfl) _
  rw [operands_append, hs _ _ _ _ (hend.blank_append hb), tokens_blank hb, tokens_productOp,
    byteLength_operands, bind_assoc]
  refine bind_congr fun x => ?_
  rw [run_product, ht _ _ _ _ hr, bind_assoc]
  -- What is left of `x` and the operator when `z` comes does not matter.
  exact bind_congr fun y => bind_congr fun z => run_value rfl

lemma Reads.sum (hs : Reads s v .sum) (hb : b.Blank) (op : SumOp) (ht : Reads t w .product) :
    Reads (s ++ (b ++ op.symbol :: t)) (do let x ← v; let y ← w; return op.apply x y) .sum := by
  intro n outer rest hr hp
  have hend : EndsNumber (op.symbol :: (t ++ rest)) := .cons (by cases op <;> rfl) _
  have hstop (n : Nat) : EndsProduct (tokens n (b ++ op.symbol :: (t ++ rest))) := by
    cases op <;> exact endsProduct_symbol hb rfl rfl rfl n _
  rw [byteLength_operands] at hp ⊢
  rw [operands_append, hs _ _ _ (hend.blank_append hb) (hstop _), tokens_blank hb, tokens_sumOp,
    bind_assoc]
  refine bind_congr fun x => ?_
  rw [run_sum, ht _ _ _ _ hr, bind_assoc]
  exact bind_congr fun y => run_total hp

lemma Reads.enclose (h : Reads t v level) (need : Level) : Reads (enclose need level t) v need := by
  unfold Calculator.enclose
  split
  · exact ((h.lower (Nat.zero_le _)).parens noBlanks.2).lower (by cases need <;> decide)
  · next hl => exact h.lower (Nat.le_of_not_lt hl)

end Reading

lemma Layout.reads {e : Expr} (f : Layout e) : Reads f.print e.value f.level := by
  induction f with
  | literal b l => exact (reads_literal l).blank b.2
  | sign b op f ih => exact ((ih.enclose .factor).sign op).blank b.2
  | sum f b op g ihf ihg => exact (ihf.lower (Nat.zero_le _)).sum b.2 op (ihg.enclose .product)
  | product f b op g ihf ihg => exact (ihf.enclose .product).product b.2 op (ihg.enclose .factor)
  | parens b f b' ih => exact ((ih.lower (Nat.zero_le _)).parens b'.2).blank b.2

/-- However an expression is written, it is evaluated to the value of its tree, or found to divide by
zero if the tree does. -/
theorem evaluate_print {e : Expr} (f : Layout e) (b : Blanks) :
    evaluate (f.print ++ b) = e.value ∧
      ∀ err, evaluate (f.print ++ b) = .error err ↔ err = .divisionByZero ∧ e.DividesByZero := by
  have hread : Reads f.print e.value .sum := f.reads.lower (Nat.zero_le _)
  have hblank : tokens (0 + byteLength f.print) b = [] := by
    simpa only [List.append_nil, tokens] using tokens_blank b.2 (0 + byteLength f.print) []
  have hends : EndsNumber (b : Text) := by
    simpa only [List.append_nil] using EndsNumber.blank_append b.2 .nil
  have hrun : run .operand {} [] (tokens 0 (f.print ++ b)) = e.value := by
    rw [hread 0 [] b hends (by rw [hblank]; nofun), hblank]
    exact bind_pure e.value
  have heval : evaluate (f.print ++ b) = e.value := by
    unfold evaluate
    split
    · next h =>
      rw [h] at hrun
      cases ((e.value_eq_error_iff .unexpectedEnd).mp hrun.symm).1
    · exact hrun
  exact ⟨heval, fun err => heval ▸ e.value_eq_error_iff err⟩

example :
    let one : Expr := .literal ⟨['1'], none, by simp, by simp⟩
    let half : Expr := .literal ⟨[], some ['5'], by simp, by simp⟩
    let e : Expr :=
      .product .rem (.sign .sub (.sum .add one half)) (.sum .sub one (.sum .add half one))
    let gap : Blanks := ⟨[' '], by decide⟩
    (Layout.plain e).print = "-(1+.5)%(1-(.5+1))".toList ∧
      (Layout.parens gap (.plain e) gap).print = " (-(1+.5)%(1-(.5+1)) )".toList := by
  decide

end ModalEdit.Calculator
