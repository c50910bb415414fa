import ModalEdit.Line.Basic
import ModalEdit.Proofs.Joining
import ModalEdit.Proofs.Spelling

namespace ModalEdit

open Unicode

namespace Text

def IsTrimmed (t : Text) : Prop :=
  (∀ c ∈ t.head?, isWhitespace c = false) ∧ ∀ c ∈ t.getLast?, isWhitespace c = false

instance (t : Text) : Decidable t.IsTrimmed := inferInstanceAs (Decidable (_ ∧ _))

variable {a b s t : Text}

lemma trimStart_of_head (h : ∀ c ∈ t.head?, isWhitespace c = false) : trimStart t = t := by
  cases t with
  | nil => rfl
  | cons c t => exact List.dropWhile_cons_of_neg (by simpa using h c rfl)

lemma trimStart_append (ha : Blank a) (t : Text) : trimStart (a ++ t) = trimStart t :=
  List.dropWhile_append_of_pos ha

lemma trimEnd_of_last (h : ∀ c ∈ t.getLast?, isWhitespace c = false) : trimEnd t = t := by
  rw [trimEnd, trimStart_of_head (by simpa using h), List.reverse_reverse]

lemma trimEnd_append (hb : Blank b) (t : Text) : trimEnd (t ++ b) = trimEnd t := by
  have hb' : Blank b.reverse := fun c hc => hb c (List.mem_reverse.mp hc)
  rw [trimEnd, List.reverse_append, trimStart_append hb', trimEnd]

lemma IsTrimmed.trim_eq (ht : IsTrimmed t) : trim t = t := by
  rw [trim, trimStart_of_head ht.1, trimEnd_of_last ht.2]

lemma IsTrimmed.trim_around (ht : IsTrimmed t) (hn : t ≠ []) (ha : Blank a) (hb : Blank b) :
    trim (a ++ (t ++ b)) = t := by
  have hh : (t ++ b).head? = t.head? := List.head?_append_of_ne_nil t hn
  rw [trim, trimStart_append ha, trimStart_of_head (hh ▸ ht.1), trimEnd_append hb,
    trimEnd_of_last ht.2]

lemma IsTrimmed.trim_argument (ht : IsTrimmed t) (hn : t ≠ []) : trim (' ' :: t) = t := by
  have hb : Blank [' '] := by decide
  have h := ht.trim_around hn hb (List.forall_mem_nil _)
  rwa [List.append_nil] at h

lemma splitAtFirst_append {d : Char} (h : d ∉ s) (t : Text) :
    splitAtFirst d (s ++ d :: t) = (s, some t) := by
  induction s with
  | nil => simp [splitAtFirst]
  | cons c s ih =>
    obtain ⟨hc, hs⟩ := not_or.mp (mt List.mem_cons.mpr h)
    rw [List.cons_append, splitAtFirst, if_neg (Ne.symm hc), ih hs]

def IsVisible (c : Char) : Prop := isWhitespace c = false ∧ c ≠ ':'

lemma isVisible_of_toNat {c : Char} (h : 48 ≤ c.toNat ∧ c.toNat ≤ 122) (hc : c ≠ ':') :
    IsVisible c := by
  refine ⟨?_, hc⟩
  simp only [isWhitespace, Bool.or_eq_false_iff, Bool.and_eq_false_iff, decide_eq_false_iff_not,
    beq_eq_false_iff_ne]
  omega

lemma toNat_of_isAlpha {c : Char} (hc : c.isAlpha = true) :
    (65 ≤ c.toNat ∧ c.toNat ≤ 90) ∨ (97 ≤ c.toNat ∧ c.toNat ≤ 122) := by
  delta Char.isAlpha Char.isUpper Char.isLower at hc
  simp only [Bool.or_eq_true, Bool.and_eq_true, decide_eq_true_eq, UInt32.le_iff_toNat_le] at hc
  exact hc

lemma isVisible_of_isAlpha {c : Char} (hc : c.isAlpha = true) : IsVisible c := by
  refine isVisible_of_toNat ?_ fun h => ?_
  · have h := toNat_of_isAlpha hc
    omega
  · subst h
    cases hc

lemma isVisible_of_isDigit {c : Char} (hc : c.isDigit = true) : IsVisible c := by
  refine isVisible_of_toNat ?_ fun h => ?_
  · have h : 48 ≤ c.toNat ∧ c.toNat ≤ 57 := Char.isDigit_iff_toNat.mp hc
    omega
  · subst h
    cases hc

lemma isTrimmed_append (hs : ∀ c ∈ s, IsVisible c) (hn : s = [] → t = [])
    (ht : ∀ c ∈ t.getLast?, isWhitespace c = false) : IsTrimmed (s ++ t) := by
  by_cases he : s = []
  · rw [he, hn he]
    exact ⟨nofun, nofun⟩
  · refine ⟨fun c hc => ?_, fun c hc => ?_⟩
    · rw [List.head?_append_of_ne_nil s he] at hc
      exact (hs c (List.mem_of_mem_head? hc)).1
    · by_cases he' : t = []
      · rw [he', List.append_nil] at hc
        exact (hs c (List.mem_of_mem_getLast? hc)).1
      · rw [List.getLast?_append_of_ne_nil s he'] at hc
        exact ht c hc

lemma trim_colons {before inner after : Text} (ht : IsTrimmed t) (hn : t ≠ [])
    (hc : ∀ c ∈ t.head?, c ≠ ':') (hb : Blank before) (hi : Blank inner) (ha : Blank after)
    (n : Nat) :
    trimStart ((before ++ (List.replicate n ':' ++ (inner ++ (t ++ after)))).trim.dropWhile
      (· == ':')) = t := by
  have hinner : (inner ++ t).dropWhile (· == ':') = inner ++ t := by
    cases inner with
    | nil =>
      obtain ⟨c, u, rfl⟩ := List.exists_cons_of_ne_nil hn
      simpa using hc c rfl
    | cons c inner =>
      have hne : c ≠ ':' := by
        rintro rfl
        cases hi ':' List.mem_cons_self
      simpa using hne
  have hstart : trimStart (inner ++ t) = t := by
    rw [trimStart_append hi, trimStart_of_head ht.1]
  cases n with
  | zero =>
    have hb' : Blank (before ++ inner) := fun c hm =>
      (List.mem_append.mp hm).elim (hb c) (hi c)
    have htrim := ht.trim_around hn hb' ha
    have hd : t.dropWhile (· == ':') = t := by
      obtain ⟨c, u, rfl⟩ := List.exists_cons_of_ne_nil hn
      simpa using hc c rfl
    rw [List.append_assoc] at htrim
    rw [List.replicate_zero, List.nil_append, htrim, hd, trimStart_of_head ht.1]
  | succ n =>
    have hu : IsTrimmed (List.replicate (n + 1) ':' ++ (inner ++ t)) := by
      refine ⟨fun c hm => ?_, fun c hm => ?_⟩
      · obtain rfl : ':' = c := by simpa [List.replicate_succ] using hm
        rfl
      · rw [List.getLast?_append_of_ne_nil _ (by simp [hn]),
          List.getLast?_append_of_ne_nil _ hn] at hm
        exact ht.2 c hm
    have htrim := hu.trim_around (by simp) hb ha
    simp only [List.append_assoc] at htrim
    rw [htrim, List.dropWhile_append_of_pos (by simp), hinner, hstart]

end Text

open Text

lemma isDigit_of_isAlpha {c : Char} (hc : c.isAlpha = true) : c.isDigit = false := by
  rw [Bool.eq_false_iff]
  intro hd
  have hdigit : 48 ≤ c.toNat ∧ c.toNat ≤ 57 := Char.isDigit_iff_toNat.mp hd
  have hletter := Text.toNat_of_isAlpha hc
  omega

namespace Address

def InRange : Address → Prop
  | line n => n ≤ numberCap
  | _ => True

instance (a : Address) : Decidable a.InRange := by
  cases a <;> unfold InRange <;> infer_instance

def print : Address → Text
  | current => ['.']
  | last => ['$']
  | line n => Nat.toDigits 10 n

variable {a : Address} {rest : Text}

lemma take_of_digits {ds : Text} (hd : ∀ c ∈ ds, c.isDigit = true) (hn : ds ≠ [])
    (hr : ∀ c ∈ rest.head?, c.isDigit = false) (hcap : decimal ds ≤ numberCap) :
    take (ds ++ rest) = (some (line (decimal ds)), rest) := by
  have htake : (ds ++ rest).takeWhile Char.isDigit = ds := by
    rw [List.takeWhile_append_of_pos hd]
    cases rest with
    | nil => simp
    | cons c rest => simp [hr c rfl]
  have hdrop : (ds ++ rest).dropWhile Char.isDigit = rest := by
    rw [List.dropWhile_append_of_pos hd]
    cases rest with
    | nil => rfl
    | cons c rest => simp [hr c rfl]
  have hh : ∀ c t, ds ++ rest = c :: t → c.isDigit = true := by
    obtain ⟨d, ds, rfl⟩ := List.exists_cons_of_ne_nil hn
    intro c t h
    exact (List.cons.inj h).1 ▸ hd d List.mem_cons_self
  unfold take
  split
  · rename_i h
    cases hh _ _ h
  · rename_i h
    cases hh _ _ h
  · simp [htake, hdrop, hn, Nat.not_lt.mpr hcap]

lemma take_print (ha : a.InRange) (hr : ∀ c ∈ rest.head?, c.isDigit = false) :
    take (a.print ++ rest) = (some a, rest) := by
  cases a with
  | current => rfl
  | last => rfl
  | line n =>
    have hd := Prefix.decimal_toDigits n
    have h : take (Nat.toDigits 10 n ++ rest) = _ :=
      take_of_digits Prefix.isDigit_toDigits Nat.toDigits_ne_nil hr (hd.symm ▸ ha)
    rwa [hd] at h

lemma take_of_letters {t : Text} (ht : ∀ c ∈ t.head?, c.isAlpha = true) :
    take t = (none, t) := by
  cases t with
  | nil => rfl
  | cons c t =>
    have hc : c.isAlpha = true := ht c rfl
    have hd : c.isDigit = false := isDigit_of_isAlpha hc
    unfold take
    split
    · rename_i h
      cases (List.cons.inj h).1
      cases hc
    · rename_i h
      cases (List.cons.inj h).1
      cases hc
    · simp [hd]

lemma print_ne_percent (a : Address) (t u : Text) : a.print ++ t ≠ '%' :: u := by
  cases a with
  | current => exact fun h => absurd (List.cons.inj h).1 (by decide)
  | last => exact fun h => absurd (List.cons.inj h).1 (by decide)
  | line n =>
    obtain ⟨c, ds, hd⟩ := List.exists_cons_of_ne_nil (Nat.toDigits_ne_nil (b := 10) (n := n))
    intro h
    have hc : c.isDigit = true := Prefix.isDigit_toDigits c (hd ▸ List.mem_cons_self)
    rw [print, hd] at h
    cases (List.cons.inj h).1
    cases hc

lemma print_ne_nil (a : Address) : a.print ≠ [] := by
  cases a with
  | line n => exact Nat.toDigits_ne_nil
  | _ => exact nofun

lemma print_visible (a : Address) : ∀ c ∈ a.print, IsVisible c := by
  cases a with
  | current => exact List.forall_mem_singleton.mpr ⟨rfl, by decide⟩
  | last => exact List.forall_mem_singleton.mpr ⟨rfl, by decide⟩
  | line n => exact fun c hc => isVisible_of_isDigit (Prefix.isDigit_toDigits c hc)

end Address

namespace LineRange

inductive Writable : LineRange → Prop
  | none : Writable {}
  | whole : Writable { whole := true }
  | single {a : Address} (ha : a.InRange) : Writable { start := some a }
  | double {a b : Address} (ha : a.InRange) (hb : b.InRange) :
      Writable { start := some a, stop := some b }

def print (r : LineRange) : Text :=
  if r.whole then ['%']
  else match r.start, r.stop with
    | none, _ => []
    | some a, none => a.print
    | some a, some b => a.print ++ ',' :: b.print

lemma take_single {t u : Text} {start : Option Address} (hp : ∀ v, t ≠ '%' :: v)
    (ht : Address.take t = (start, u)) (hu : ∀ v, u ≠ ',' :: v) : take t = ({ start }, u) := by
  rw [take.eq_2 t hp, ht]
  split
  · rename_i h
    exact absurd (Prod.ext_iff.mp h).2 (hu _)
  · rename_i h
    obtain ⟨rfl, rfl⟩ := Prod.ext_iff.mp h
    rfl

lemma take_double {t u v : Text} {a b : Address} (hp : ∀ v, t ≠ '%' :: v)
    (ht : Address.take t = (some a, ',' :: u)) (hu : Address.take u = (some b, v)) :
    take t = ({ start := some a, stop := some b }, v) := by
  rw [take.eq_2 t hp, ht]
  simp only [hu]

lemma take_print {r : LineRange} (hr : r.Writable) {t : Text}
    (ht : ∀ c ∈ t.head?, c.isAlpha = true) : take (r.print ++ t) = (r, t) := by
  have hd : ∀ c ∈ t.head?, c.isDigit = false := fun c hc => isDigit_of_isAlpha (ht c hc)
  have hne : ∀ c : Char, c.isAlpha = false → ∀ u, t ≠ c :: u := by
    rintro c hc u rfl
    exact absurd (ht c rfl) (by simp [hc])
  cases hr with
  | none => exact take_single (hne '%' rfl) (Address.take_of_letters ht) (hne ',' rfl)
  | whole => rfl
  | @single a ha =>
    exact take_single (a.print_ne_percent t) (Address.take_print ha hd) (hne ',' rfl)
  | @double a b ha hb =>
    have h₁ : Address.take (a.print ++ ',' :: (b.print ++ t)) = (some a, ',' :: (b.print ++ t)) :=
      Address.take_print ha (by simp)
    have h := take_double (a.print_ne_percent _) h₁ (Address.take_print hb hd)
    simpa [print] using h

lemma print_visible (r : LineRange) : ∀ c ∈ r.print, IsVisible c := by
  have hcomma : IsVisible ',' := ⟨rfl, by decide⟩
  unfold print
  split_ifs
  · exact List.forall_mem_singleton.mpr ⟨rfl, by decide⟩
  · split
    · exact List.forall_mem_nil _
    · rename_i a _ _
      exact a.print_visible
    · rename_i a b _ _
      simpa [or_imp, forall_and, hcomma] using ⟨a.print_visible, b.print_visible⟩

end LineRange

namespace LineCommand

def range : LineCommand → LineRange
  | goTo a => { start := some a }
  | delete r | yank r | substitute r .. => r
  | _ => {}

def names : LineCommand → List Text
  | delete _ => [['d'], "delete".toList]
  | yank _ => [['y'], "yank".toList]
  | substitute .. => [['s'], "substitute".toList]
  | edit _ => [['e'], "edit".toList]
  | setOption _ => ["set".toList, "se".toList]
  | registers => ["registers".toList, "reg".toList, "display".toList]
  | macros => ["macros".toList]
  | goTo _ | unknown _ => [[]]

def arguments (d : Char) : LineCommand → Text
  | substitute _ pattern replacement all =>
    d :: (pattern ++ d :: (replacement ++ d :: if all then ['g'] else []))
  | edit t | setOption t => ' ' :: t
  | _ => []

def print (d : Char) (name : Text) (c : LineCommand) : Text :=
  c.range.print ++ (name ++ c.arguments d)

/-- The commands that can be written with `d` around the pattern. -/
def Writable (d : Char) : LineCommand → Prop
  | goTo a => a.InRange
  | delete r | yank r => r.Writable
  | substitute r pattern replacement _ =>
    r.Writable ∧ isAlphanumeric d = false ∧ isWhitespace d = false ∧ d ∉ pattern ∧ d ∉ replacement
  | edit t | setOption t => t ≠ [] ∧ t.IsTrimmed
  | registers | macros => True
  | unknown _ => False

variable {c : LineCommand} {d : Char} {name body argument : Text} {r : LineRange}

lemma letters_of_names (hn : name ∈ c.names) : ∀ x ∈ name, x.isAlpha = true := by
  have hall : ∀ n ∈ c.names, n.all Char.isAlpha = true := by
    cases c <;> simp only [names] <;> decide
  exact List.all_eq_true.mp (hall name hn)

def listedNames : List Text :=
  [['d'], "delete".toList, ['y'], "yank".toList, ['e'], "edit".toList, "set".toList, "se".toList,
    "reg".toList, "registers".toList, "display".toList, "macros".toList]

lemma named?_of_not_listed (h : name ∉ listedNames) : named? r name argument = none := by
  have hne : ∀ s : String, s.toList ∈ listedNames → String.ofList name ≠ s := by
    rintro s hs rfl
    exact h (by rwa [String.toList_ofList] at hs)
  unfold named?
  split
  case h_13 => rfl
  all_goals exact absurd ‹_› (hne _ (by decide))

lemma not_listed_of_mem {x : Char} (hx : x ∈ name) (ha : isAlphanumeric x = false) :
    name ∉ listedNames := by
  have hall : ∀ n ∈ listedNames, n.all isAlphanumeric = true := by decide
  intro hn
  have := List.all_eq_true.mp (hall name hn) x hx
  rw [ha] at this
  cases this

lemma ofBody_of_name {args : Text} (hv : ∀ x ∈ name, isWhitespace x = false)
    (ha : ∀ x ∈ args.head?, isWhitespace x = true) (hc : named? r name args.trim = some c) :
    ofBody r body (name ++ args) = c := by
  have hn : name ≠ [] := by
    rintro rfl
    rw [named?_of_not_listed (by decide)] at hc
    cases hc
  have htake : (name ++ args).takeWhile (!isWhitespace ·) = name := by
    rw [List.takeWhile_append_of_pos (by simpa using hv)]
    cases args with
    | nil => simp
    | cons x args => simp [ha x rfl]
  have he : (name ++ args).isEmpty = false := by simp [hn]
  simp only [ofBody, he, htake, List.drop_left, hc, Bool.false_eq_true, if_false]

lemma substitute?_print {pattern replacement : Text} (hd : isAlphanumeric d = false)
    (hb : isWhitespace d = false) (hp : d ∉ pattern) (hr : d ∉ replacement) (flags : Text) :
    substitute? r (d :: (pattern ++ d :: (replacement ++ d :: flags))) =
      some (substitute r pattern replacement (flags.contains 'g')) := by
  simp only [substitute?, hd, hb, splitAtFirst_append hp, Option.getD_some, splitAtFirst_append hr,
    Bool.or_self, Bool.false_eq_true, if_false]

lemma substituteBody?_print (hd : isAlphanumeric d = false)
    (hn : name = ['s'] ∨ name = "substitute".toList) (t : Text) :
    substituteBody? (name ++ d :: t) = some (d :: t) := by
  have hu : d ≠ 'u' := by
    rintro rfl
    cases hd
  rcases hn with rfl | rfl
  · simp [substituteBody?, after?, startsWith, hu]
  · simp [substituteBody?, after?, startsWith]

lemma ofBody_of_substitution {t : Text} (hd : isAlphanumeric d = false)
    (hb : isWhitespace d = false) (hn : name = ['s'] ∨ name = "substitute".toList)
    (hc : substitute? r (d :: t) = some c) : ofBody r body (name ++ d :: t) = c := by
  have hv : ∀ x ∈ name, isWhitespace x = false := by
    rcases hn with rfl | rfl <;> simp [isWhitespace]
  have hmem : d ∈ (name ++ d :: t).takeWhile (!isWhitespace ·) := by
    rw [List.takeWhile_append_of_pos (by simpa using hv)]
    simp [hb]
  have he : (name ++ d :: t).isEmpty = false := by simp
  simp only [ofBody, he, named?_of_not_listed (not_listed_of_mem hmem hd),
    substituteBody?_print hd hn, Option.bind_some, hc, Option.getD_some, Bool.false_eq_true,
    if_false]

lemma ofBody_print (hw : c.Writable d) (hn : name ∈ c.names) :
    ofBody c.range body (name ++ c.arguments d) = c := by
  have hv : ∀ x ∈ name, isWhitespace x = false := fun x hx =>
    (isVisible_of_isAlpha (letters_of_names hn x hx)).1
  cases c with
  | goTo a =>
    obtain rfl : name = [] := by simpa [names] using hn
    rfl
  | delete r =>
    have hnames : name = ['d'] ∨ name = "delete".toList := by simpa [names] using hn
    refine ofBody_of_name hv nofun ?_
    rcases hnames with rfl | rfl <;> rfl
  | yank r =>
    have hnames : name = ['y'] ∨ name = "yank".toList := by simpa [names] using hn
    refine ofBody_of_name hv nofun ?_
    rcases hnames with rfl | rfl <;> rfl
  | substitute r pattern replacement all =>
    obtain ⟨-, hd, hb, hp, hr⟩ := hw
    refine ofBody_of_substitution hd hb (by simpa [names] using hn) ?_
    rw [substitute?_print hd hb hp hr]
    cases all <;> rfl
  | edit t =>
    obtain ⟨hne, ht⟩ := hw
    have hnames : name = ['e'] ∨ name = "edit".toList := by simpa [names] using hn
    refine ofBody_of_name hv (by simp [arguments, isWhitespace]) ?_
    rw [arguments, ht.trim_argument hne]
    rcases hnames with rfl | rfl <;> simp [named?, hne]
  | setOption t =>
    obtain ⟨hne, ht⟩ := hw
    have hnames : name = "set".toList ∨ name = "se".toList := by simpa [names] using hn
    refine ofBody_of_name hv (by simp [arguments, isWhitespace]) ?_
    rw [arguments, ht.trim_argument hne]
    rcases hnames with rfl | rfl <;> simp [named?, hne]
  | registers =>
    have hnames : name = "registers".toList ∨ name = "reg".toList ∨ name = "display".toList := by
      simpa [names] using hn
    refine ofBody_of_name hv nofun ?_
    rcases hnames with rfl | rfl | rfl <;> rfl
  | macros =>
    obtain rfl : name = "macros".toList := by simpa [names] using hn
    exact ofBody_of_name hv nofun rfl
  | unknown t => exact hw.elim

lemma arguments_of_nameless (h : [] ∈ c.names) : c.arguments d = [] := by
  cases c <;> simp [names, arguments] at h ⊢

lemma arguments_last (hw : c.Writable d) :
    ∀ x ∈ (c.arguments d).getLast?, isWhitespace x = false := by
  intro x hx
  cases c with
  | substitute r pattern replacement all =>
    obtain ⟨-, -, hb, -⟩ := hw
    cases all <;> simp [arguments, List.getLast?_cons, List.getLast?_append] at hx <;> subst hx
    · exact hb
    · rfl
  | edit t =>
    obtain ⟨hne, ht⟩ := hw
    rw [arguments, List.getLast?_cons_of_ne_nil hne] at hx
    exact ht.2 x hx
  | setOption t =>
    obtain ⟨hne, ht⟩ := hw
    rw [arguments, List.getLast?_cons_of_ne_nil hne] at hx
    exact ht.2 x hx
  | _ => cases hx

lemma arguments_trimmed (hw : c.Writable d) (hn : name ∈ c.names) :
    IsTrimmed (name ++ c.arguments d) :=
  isTrimmed_append (fun x hx => isVisible_of_isAlpha (letters_of_names hn x hx))
    (fun he => arguments_of_nameless (he ▸ hn)) (arguments_last hw)

lemma arguments_head (hn : name ∈ c.names) :
    ∀ x ∈ (name ++ c.arguments d).head?, x.isAlpha = true := by
  intro x hx
  by_cases he : name = []
  · rw [he, arguments_of_nameless (he ▸ hn)] at hx
    cases hx
  · rw [List.head?_append_of_ne_nil _ he] at hx
    exact letters_of_names hn x (List.mem_of_mem_head? hx)

lemma range_writable (hw : c.Writable d) : c.range.Writable := by
  cases c with
  | goTo a => exact .single hw
  | delete r => exact hw
  | yank r => exact hw
  | substitute r pattern replacement all => exact hw.1
  | _ => exact .none

lemma front_visible (hw : c.Writable d) (hn : name ∈ c.names) :
    c.range.print ++ name ≠ [] ∧ ∀ x ∈ c.range.print ++ name, IsVisible x := by
  refine ⟨fun he => ?_, fun x hx => ?_⟩
  · obtain ⟨hr, rfl⟩ := List.append_eq_nil_iff.mp he
    cases c with
    | goTo a => exact a.print_ne_nil hr
    | unknown t => exact hw
    | _ => simp [names] at hn
  · rcases List.mem_append.mp hx with hx | hx
    · exact c.range.print_visible x hx
    · exact isVisible_of_isAlpha (letters_of_names hn x hx)

/-- A line command is read back from its text, with any blanks around it and any colons in front,
and whichever of its names and delimiters it is written with. -/
theorem parse_print (hw : c.Writable d) (hn : name ∈ c.names) {before inner after : Text}
    (hb : Blank before) (hi : Blank inner) (ha : Blank after) (colons : Nat) :
    parse (before ++ (List.replicate colons ':' ++ (inner ++ (c.print d name ++ after)))) = c := by
  obtain ⟨hne, hv⟩ := front_visible hw hn
  have hprint : c.print d name = c.range.print ++ name ++ c.arguments d :=
    (List.append_assoc ..).symm
  have htrim : IsTrimmed (c.print d name) :=
    hprint ▸ isTrimmed_append hv (absurd · hne) (arguments_last hw)
  have hhead : ∀ x ∈ (c.print d name).head?, x ≠ ':' := by
    intro x hx
    rw [hprint, List.head?_append_of_ne_nil _ hne] at hx
    exact (hv x (List.mem_of_mem_head? hx)).2
  have hprint_ne : c.print d name ≠ [] := hprint ▸ List.append_ne_nil_of_left_ne_nil hne _
  have hbody := trim_colons htrim hprint_ne hhead hb hi ha colons
  have htake : LineRange.take (c.print d name) = (c.range, name ++ c.arguments d) :=
    LineRange.take_print (range_writable hw) (arguments_head hn)
  simp only [parse, hbody, htake, (arguments_trimmed hw hn).trim_eq]
  exact ofBody_print hw hn

theorem sample_parse_print :
    let c := substitute ⟨some (.line 3), some .last, false⟩ "e (a|b)/".toList "\\1 g&".toList false
    let before := [' ', '\t', '\u2003']
    let after := ['\u3000', '\n']
    c.Writable ',' ∧ "substitute".toList ∈ c.names ∧ Blank before ∧ Blank after ∧
      parse (before ++ "::\r3,$substitute,e (a|b)/,\\1 g&,".toList ++ after) = c := by
  intro c before after
  have hw : c.Writable ',' :=
    ⟨.double (by decide) trivial, by decide, by decide, by decide, by decide⟩
  have hn : "substitute".toList ∈ c.names := by decide
  have hb : Blank before := by decide
  have hi : Blank ['\r'] := by decide
  have ha : Blank after := by decide
  exact ⟨hw, hn, hb, ha, parse_print hw hn hb hi ha 2⟩

end LineCommand

end ModalEdit
