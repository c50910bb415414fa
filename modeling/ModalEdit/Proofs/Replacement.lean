import Mathlib.Tactic.Common
import ModalEdit.Pattern.Template

/-! What a replacement in its short form stands for, and that the template made of it says the same:
each part of the replacement becomes a piece of template that ends by itself, so no two pieces are
read together. -/

namespace ModalEdit.Pattern

namespace Template

namespace Short

inductive Part where
  | character (c : Char)
  | group (digit : Char)
  deriving DecidableEq, Repr

/-- `&` is the whole match. A backslash before a digit makes it a group, before another character
leaves that character as it is, and at the end is a backslash. -/
def parts : Text → List Part
  | [] => []
  | ['\\'] => [.character '\\']
  | '\\' :: c :: t => (if c.isDigit then .group c else .character c) :: parts t
  | '&' :: t => .group '0' :: parts t
  | c :: t => .character c :: parts t

def Part.fill (groups : Nat → Option Text) : Part → Text
  | character c => [c]
  | group d => (groups (d.toNat - 48)).getD []

def read (groups : Nat → Option Text) (t : Text) : Text := (parts t).flatMap (Part.fill groups)

def Part.template : Part → Text
  | character c => if c = '$' then ['$', '$'] else [c]
  | group d => ['$', '\x7b', d, '\x7d']

def Part.WellFormed : Part → Prop
  | character _ => True
  | group d => d.isDigit = true

lemma parts_wellFormed (t : Text) : ∀ p ∈ parts t, p.WellFormed := by
  fun_induction parts t with
  | case1 => simp
  | case2 => simp [Part.WellFormed]
  | case3 c t ih =>
    refine List.forall_mem_cons.mpr ⟨?_, ih⟩
    split_ifs with hc
    · exact hc
    · trivial
  | case4 t ih => exact List.forall_mem_cons.mpr ⟨rfl, ih⟩
  | case5 c t _ _ _ ih => exact List.forall_mem_cons.mpr ⟨trivial, ih⟩

lemma ofShort_eq (t : Text) : ofShort t = (parts t).flatMap Part.template := by
  fun_induction parts t with
  | case1 => rfl
  | case2 => rfl
  | case3 c t ih =>
    rw [ofShort, ih, List.flatMap_cons]
    by_cases hc : c.isDigit
    · rw [if_pos hc, if_pos hc]
      rfl
    · rw [if_neg hc, if_neg hc]
      rfl
  | case4 t ih =>
    rw [ofShort, ih]
    rfl
  | case5 c t _ _ _ ih =>
    by_cases hc : c = '$'
    · subst hc
      rw [ofShort, ih]
      rfl
    · rw [ofShort, ih, List.flatMap_cons, Part.template, if_neg hc]
      · rfl
      all_goals assumption

variable {value : Reference → Text}

lemma expand_character (c : Char) (t : Text) :
    expand value ((Part.character c).template ++ t) = c :: expand value t := by
  rw [Part.template]
  split_ifs with hc
  · rw [hc]
    exact expand.eq_2 value t
  · exact expand.eq_4 value c t (fun _ h _ => hc h) hc

lemma read?_digit {d : Char} (hd : d.isDigit = true) (t : Text) :
    Reference.read? ('\x7b' :: d :: '\x7d' :: t) = some (.number (d.toNat - 48), t) := by
  have hb : (d != '\x7d') = true := by
    rw [bne_iff_ne]
    rintro rfl
    cases hd
  have hn : Reference.ofText [d] = .number (d.toNat - 48) := by simp [Reference.ofText, hd]
  rw [Reference.read?]
  simp [hb, hn]

lemma expand_reference {r : Reference} {t rest : Text} (hr : Reference.read? t = some (r, rest))
    (ht : ∀ u, t ≠ '$' :: u) : expand value ('$' :: t) = value r ++ expand value rest := by
  rw [expand.eq_3 value t ht]
  split
  · rename_i h
    rw [hr] at h
    obtain ⟨rfl, rfl⟩ := Prod.ext_iff.mp (Option.some.inj h)
    rfl
  · rename_i h
    rw [hr] at h
    cases h

lemma expand_group {d : Char} (hd : d.isDigit = true) (t : Text) :
    expand value ((Part.group d).template ++ t) =
      value (.number (d.toNat - 48)) ++ expand value t :=
  expand_reference (read?_digit hd t) fun _ h => absurd (List.cons.inj h).1 (by decide)

end Short

def captured (groups : Nat → Option Text) (named : Text → Option Text) : Reference → Text
  | .number n => (groups n).getD []
  | .name s => (named s).getD []

variable (groups : Nat → Option Text) (named : Text → Option Text)

lemma Short.expand_parts {ps : List Part} (hps : ∀ p ∈ ps, p.WellFormed) (rest : Text) :
    expand (captured groups named) (ps.flatMap Part.template ++ rest) =
      ps.flatMap (Part.fill groups) ++ expand (captured groups named) rest := by
  induction ps with
  | nil => rfl
  | cons p ps ih =>
    obtain ⟨hp, htail⟩ := List.forall_mem_cons.mp hps
    rw [List.flatMap_cons, List.flatMap_cons, List.append_assoc, List.append_assoc]
    cases p with
    | character c =>
      rw [expand_character, ih htail]
      rfl
    | group d =>
      rw [expand_group hp, ih htail]
      rfl

lemma expand_ofShort (t : Text) :
    expand (captured groups named) (ofShort t) = Short.read groups t := by
  have h := Short.expand_parts groups named (Short.parts_wellFormed t) []
  rw [List.append_nil, ← Short.ofShort_eq] at h
  rw [h, Short.read, expand, List.append_nil]

end Template

def Match.group? (m : Match) (t : Text) (n : Nat) : Option Text :=
  (m.span? n).map fun (first, last) => t.sliceBytes first last

def spliceBy (f : Match → Text) (t : Text) (n : Nat) : List Match → Text
  | [] => t.dropBytes n
  | m :: ms => t.sliceBytes n m.start ++ f m ++ spliceBy f t m.stop ms

variable (p : Pattern) (t : Text)

lemma value_eq_captured (m : Match) :
    p.value t m = Template.captured (m.group? t) fun s => (p.names.lookup s).map (m.text t) := by
  funext r
  cases r <;> rfl

lemma splice_ofShort (rep : Text) (n : Nat) (ms : List Match) :
    p.splice (Template.ofShort rep) t n ms =
      spliceBy (fun m => Template.Short.read (m.group? t) rep) t n ms := by
  induction ms generalizing n with
  | nil => rfl
  | cons m ms ih => rw [splice, spliceBy, ih, value_eq_captured, Template.expand_ofShort]

/-- The template that a short replacement becomes stands for what the replacement stands for,
whatever was matched: so each match of a line is replaced by that. -/
theorem replacement_kept (rep : Text) :
    (∀ groups named, Template.expand (Template.captured groups named) (Template.ofShort rep) =
      Template.Short.read groups rep) ∧
    ∀ (p : Pattern) (all : Bool) (t : Text), p.replace all (Template.ofShort rep) t =
      spliceBy (fun m => Template.Short.read (m.group? t) rep) t 0
        (if all then p.findAll t else (p.find? t 0).toList) :=
  ⟨fun groups named => Template.expand_ofShort groups named rep,
    fun p _ t => splice_ofShort p t rep 0 _⟩

example : Template.ofShort "$1&2\\3$\x7b\\&\\".toList =
    "$$1$\x7b0\x7d2$\x7b3\x7d$$\x7b&\\".toList := by decide

end ModalEdit.Pattern
