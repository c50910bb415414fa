import ModalEdit.Proofs.Lockstep
import ModalEdit.Proofs.MacroNames
import ModalEdit.Proofs.WholeReference

/-! When the recorded text of a reference, typed key by key, issues the same request again. -/

namespace ModalEdit

open Macro (Control Machine Registry Request)

namespace Macro

def Registry.request? (r : Registry) (name : Text) (times : Nat) : Option Request :=
  if r.isRecorded name then some (.play name times)
  else if r.isVariable name then some (.expand name times)
  else none

lemma Registry.request?_name {r : Registry} {name : Text} {times : Nat} {q : Request}
    (h : r.request? name times = some q) : q.name = name := by
  unfold request? at h
  split_ifs at h <;> cases h <;> rfl

lemma Registry.mem_names_of_request? {r : Registry} {name : Text} {times : Nat} {q : Request}
    (h : r.request? name times = some q) : name ∈ r.names := by
  unfold request? at h
  split_ifs at h with hr hv
  · exact mem_names.mpr (.inl hr)
  · exact mem_names.mpr (.inr hv)

lemma Registry.request?_of_answers {r : Registry} {times : Nat} {q : Request}
    (h : r.Answers times q) : r.request? q.name times = some q := by
  unfold request?
  cases q with
  | play name n =>
    obtain ⟨hr, rfl⟩ := h
    exact if_pos hr
  | expand name n =>
    obtain ⟨hr, hv, rfl⟩ := h
    rw [Request.name, if_neg (by simp [hr]), if_pos hv]

def Outcome.request? : Outcome → Option Request
  | .done _ r => r
  | _ => none

namespace Control

variable (d : Control) (i : Interaction) (times k : Nat)

lemma resolve_request? (name : Text) :
    (d.resolve i name k times).2.2.request? = d.registry.request? name times := by
  unfold resolve Registry.request?
  split_ifs <;> rfl

lemma choose_request? (choices : List Text) :
    (d.choose i choices k times).2.2.request? =
      if choices.isEmpty then none
      else (i.dialog.answerChoice choices).2.bind (d.registry.request? · times) := by
  unfold choose Interaction.askChoice
  split
  · rfl
  · dsimp only
    cases (i.dialog.answerChoice choices).2 with
    | none => rfl
    | some name => exact resolve_request? _ _ _ _ _

def again? (r : Registry) (d : Dialog) : Option Text :=
  match r.last with
  | some name => some name
  | none => if r.macros.keys.isEmpty then none else (d.answerChoice r.macros.keys).2

lemma readPlayback_closed (name : Text) :
    (d.readPlayback i (name ++ ['@']) k times false).2.2.request? =
      if name = [] then (again? d.registry i.dialog).bind (d.registry.request? · times)
      else d.registry.request? (closedName name) times := by
  unfold readPlayback
  dsimp only
  by_cases hn : name = []
  · subst hn
    simp only [List.nil_append, List.isEmpty_cons, Bool.false_eq_true, ↓reduceIte]
    unfold again?
    cases d.registry.last with
    | some last => exact resolve_request? _ _ _ _ _
    | none =>
      dsimp only
      rw [choose_request?]
      split <;> rfl
  · have he : name ++ ['@'] ≠ ['@'] := by simpa using hn
    have hl : (name ++ ['@']).isEmpty = false := by simp
    simp only [hl, he, hn, List.getLast?_concat, List.dropLast_concat, Bool.false_eq_true,
      ↓reduceIte]
    exact resolve_request? _ _ _ _ _

def Open (r : Registry) (rest : Text) : Prop :=
  rest = [] ∨ rest.getLast? ≠ some '@' ∧
    (rest.head? = some '(' ∨ ∀ only, r.candidates rest ≠ [only])

lemma search_incomplete_iff (start : Text) :
    (d.search i start k times false).2.2 = .incomplete ↔
      ∀ only, d.registry.candidates start ≠ [only] := by
  unfold search
  split
  · rename_i hc
    simp [hc]
  · rename_i only hc
    rw [hc]
    exact ⟨fun h => absurd h ((Settles.resolve _ _ _).ne_incomplete), fun h => absurd rfl (h only)⟩
  · rename_i hn hs
    simp only [Bool.false_and, Bool.false_eq_true, ↓reduceIte, true_iff]
    exact hs

lemma readPlayback_incomplete_iff (rest : Text) :
    (d.readPlayback i rest k times false).2.2 = .incomplete ↔ Open d.registry rest := by
  unfold readPlayback Open
  dsimp only
  by_cases hn : rest = []
  · simp [hn]
  have he : rest.isEmpty = false := by simpa using hn
  simp only [he, Bool.false_eq_true, ↓reduceIte, hn, false_or]
  by_cases ha : rest = ['@']
  · subst ha
    simp only [↓reduceIte, List.getLast?_singleton, ne_eq, not_true_eq_false, false_and,
      iff_false]
    split
    · exact (Settles.resolve _ _ _).ne_incomplete
    · exact (Settles.choose _ _ _).ne_incomplete
  by_cases hl : rest.getLast? = some '@'
  · simp only [ha, hl, ↓reduceIte, ne_eq, not_true_eq_false, false_and, iff_false]
    exact (Settles.resolve _ _ _).ne_incomplete
  by_cases hp : rest.head? = some '('
  · simp [ha, hl, hp]
  · simp only [ha, hl, hp, ↓reduceIte, ne_eq, not_false_eq_true, true_and, false_or]
    exact search_incomplete_iff ..

end Control

end Macro

def Typable (c : Char) : Prop := c ≠ escapeKey ∧ isEnter c = false ∧ isErasing c = false

instance (c : Char) : Decidable (Typable c) := inferInstanceAs (Decidable (_ ∧ _ ∧ _))

lemma typable_of_isDigit {c : Char} (hc : c.isDigit = true) : Typable c := by
  refine ⟨?_, ?_, ?_⟩
  · rintro rfl
    cases hc
  · cases he : isEnter c with
    | false => rfl
    | true =>
      simp only [isEnter, Bool.or_eq_true, beq_iff_eq] at he
      rcases he with rfl | rfl <;> cases hc
  · cases he : isErasing c with
    | false => rfl
    | true =>
      simp only [isErasing, Bool.or_eq_true, beq_iff_eq] at he
      rcases he with rfl | rfl <;> cases hc

def Refers (t : Text) : Prop := Headed t ∨ ∃ rest times, macroBody? t = some ('@' :: rest, times)

def Pends (r : Registry) (t : Text) : Prop :=
  Headed t ∨ ∃ rest times, macroBody? t = some ('@' :: rest, times) ∧ Control.Open r rest

lemma Refers.not_isLine {t : Text} (h : Refers t) : (CommandKind.ofText t).isLine = false := by
  rcases h with h | ⟨rest, times, h⟩
  · exact h.not_isLine
  · rw [← Bool.not_eq_true]
    intro hl
    rw [macroBody?_of_isLine hl] at h
    cases h

namespace Engine

def Waits (h : Host) (e : Engine) (c : Char) : Prop :=
  (e.key h c).1.pending.text = e.pending.text ++ [c]

def request? (e : Engine) (c : Char) : Option Request :=
  (e.reads? c).bind fun r =>
    (e.macros.read e.interaction r.1 (isEnter c) r.2).2.2.request?

structure Awaits (r : Registry) (d : Dialog) (t : Text) (e : Engine) : Prop where
  mode : e.mode = .normal
  text : e.pending.text = t
  registry : e.macros.registry = r
  dialog : e.interaction.dialog = d

variable {r : Registry} {d : Dialog} {t : Text} {e : Engine} {h : Host} {c : Char}

lemma Awaits.key_of_stroke (ha : Awaits r d t e) {i : Interaction}
    (hi : i.dialog = e.interaction.dialog)
    (hs : e.stroke h c = ({ e.extend c with interaction := i }, .handled false)) :
    Awaits r d (t ++ [c]) (e.key h c).1 := by
  have hk : (e.key h c).1 = { e.extend c with interaction := i, macros := e.macros.jot [c] } := by
    rw [key_of_handled hs rfl]
    exact if_pos rfl
  rw [hk]
  exact ⟨ha.mode, congrArg (· ++ [c]) ha.text,
    (congrArg (·.registry) (e.macros.jot_eq [c])).trans ha.registry, hi.trans ha.dialog⟩

lemma Awaits.not_isLine (ha : Awaits r d t e) (hf : Refers (t ++ [c])) :
    e.pending.kind.isLine = false := by
  rw [← Bool.not_eq_true, Pending.kind, ha.text]
  intro hl
  have := isLine_append hl [c]
  rw [hf.not_isLine] at this
  cases this

lemma Awaits.stroke_typable (ha : Awaits r d t e) (hf : Refers (t ++ [c])) (hc : Typable c) :
    e.stroke h c = (e.extend c).runPending h false := by
  obtain ⟨hx, hr, hb⟩ := hc
  have hk : (e.extend c).pending.kind.isLine = false := by
    rw [← hf.not_isLine, ← ha.text]
    rfl
  unfold stroke commandKey
  simp only [ha.mode, Mode.isInsert, ha.not_isLine hf, hk, hx, hr, hb, Bool.false_and,
    Bool.false_eq_true, ↓reduceIte]

lemma Awaits.stroke_pends (ha : Awaits r d t e) (hc : Typable c) (hp : Pends r (t ++ [c])) :
    ∃ i : Interaction, i.dialog = e.interaction.dialog ∧
      e.stroke h c = ({ e.extend c with interaction := i }, .handled false) := by
  have hf : Refers (t ++ [c]) := hp.imp id fun ⟨rest, times, hm, _⟩ => ⟨rest, times, hm⟩
  have htext : (e.extend c).pending.text = t ++ [c] := congrArg (· ++ [c]) ha.text
  rw [ha.stroke_typable hf hc]
  rcases hp with hp | ⟨rest, times, hm, ho⟩
  · refine ⟨e.interaction, rfl, ?_⟩
    unfold runPending
    dsimp only
    rw [htext]
    cases hs : Prefix.split? (t ++ [c]) with
    | none => rfl
    | some x =>
      obtain ⟨p, body⟩ := x
      obtain rfl := hp p body hs
      have hparse : Command.parse (e.extend c).mode.isVisual (t ++ [c]) = .incomplete := by
        unfold Command.parse
        rw [hs]
        rfl
      simp only [isMacroBody, hparse, Bool.false_eq_true, ↓reduceIte]
      rfl
  · have ht := macroBody?_ne_zero hm
    rw [runPending_of_body (by rw [htext]; exact hm)]
    unfold runMacro
    rw [read_reference _ _ _ _ ht]
    have ho := (Control.readPlayback_incomplete_iff (e.extend c).macros
      (e.extend c).interaction times (rest.length + 1) rest).mpr (ha.registry ▸ ho)
    have hd := Control.readPlayback_dialog ho
    have hmacros := Control.readPlayback_macros (e.extend c).macros (e.extend c).interaction rest
      (rest.length + 1) times false
    generalize (e.extend c).macros.readPlayback (e.extend c).interaction rest
      (rest.length + 1) times false = step at ho hd hmacros
    obtain ⟨d', i, o⟩ := step
    obtain rfl : o = _ := ho
    obtain rfl : d' = _ := hmacros
    exact ⟨i, hd, rfl⟩

lemma waits_iff_stroke : Waits h e c ↔ (e.stroke h c).1.pending.text = e.pending.text ++ [c] := by
  unfold Waits
  rw [key_pending]

lemma not_refers_erasing {c : Char} (hc : isErasing c = true) : ¬Refers [c] := by
  simp only [isErasing, Bool.or_eq_true, beq_iff_eq] at hc
  rintro (hh | ⟨rest, times, hm⟩)
  · rcases hc with rfl | rfl
    · cases hh ⟨none, none⟩ [backspaceKey] rfl
    · cases hh ⟨none, none⟩ [deleteKey] rfl
  · rcases hc with rfl | rfl <;> cases hm

lemma Awaits.typable (ha : Awaits r d t e) (hf : Refers (t ++ [c])) (hw : Waits h e c) :
    Typable c := by
  have hg := stroke_grows e h c
  rw [waits_iff_stroke.mp hw] at hg
  obtain ⟨hx, hr, hb⟩ := hg.adds
  refine ⟨hx, hr, ?_⟩
  rw [← Bool.not_eq_true]
  intro hc
  rw [← ha.text, hb hc] at hf
  exact not_refers_erasing hc hf

theorem Awaits.waits_iff (ha : Awaits r d t e) (hf : Refers (t ++ [c])) :
    Waits h e c ↔ Typable c ∧ Pends r (t ++ [c]) := by
  constructor
  · intro hw
    have hc := ha.typable hf hw
    refine ⟨hc, ?_⟩
    rcases hf with hf | ⟨rest, times, hm⟩
    · exact .inl hf
    · rw [waits_iff_stroke, ha.stroke_typable (.inr ⟨rest, times, hm⟩) hc,
        runPending_of_body (by rw [← hm, ← ha.text]; rfl)] at hw
      have ht := macroBody?_ne_zero hm
      rcases runMacro_text (e.extend c) h ('@' :: rest) times false with htext | ⟨-, ho, -⟩
      · rw [htext] at hw
        simp at hw
      · rw [read_reference _ _ _ _ ht, Control.readPlayback_incomplete_iff] at ho
        have hreg : (e.extend c).macros.registry = r := ha.registry
        exact .inr ⟨rest, times, hm, hreg ▸ ho⟩
  · rintro ⟨hc, hp⟩
    obtain ⟨i, hi, hs⟩ := ha.stroke_pends (h := h) hc hp
    rw [waits_iff_stroke, hs]
    rfl

lemma Awaits.key (ha : Awaits r d t e) (hc : Typable c) (hp : Pends r (t ++ [c])) :
    Awaits r d (t ++ [c]) (e.key h c).1 := by
  obtain ⟨i, hi, hs⟩ := ha.stroke_pends (h := h) hc hp
  exact ha.key_of_stroke hi hs

theorem Awaits.along_iff {keys : Text} (ha : Awaits r d t e)
    (hf : ∀ x, x <+: keys → Refers (t ++ x)) :
    Along h (Waits h) e keys ↔
      (∀ c ∈ keys, Typable c) ∧ ∀ x, x ≠ [] → x <+: keys → Pends r (t ++ x) := by
  -- `t` grows by each key, so the condition on a beginning of `keys` moves over to its tail
  induction keys generalizing t e with
  | nil =>
    exact ⟨fun _ => ⟨by simp, fun x hx hp => absurd (List.prefix_nil.mp hp) hx⟩, fun _ => trivial⟩
  | cons c cs ih =>
    have hf' : ∀ x, x <+: cs → Refers (t ++ [c] ++ x) := by
      intro x hx
      have := hf (c :: x) (List.cons_prefix_cons.mpr ⟨rfl, hx⟩)
      simpa using this
    have hc : Refers (t ++ [c]) := by simpa using hf' [] List.nil_prefix
    rw [Along, ha.waits_iff hc]
    constructor
    · rintro ⟨⟨hty, hp⟩, hcs⟩
      obtain ⟨hall, hpre⟩ := (ih (ha.key hty hp) hf').mp hcs
      refine ⟨List.forall_mem_cons.mpr ⟨hty, hall⟩, fun x hx hpx => ?_⟩
      cases x with
      | nil => exact absurd rfl hx
      | cons b x =>
        obtain ⟨rfl, hpx'⟩ := List.cons_prefix_cons.mp hpx
        by_cases hn : x = []
        · rw [hn]
          exact hp
        · simpa using hpre x hn hpx'
    · rintro ⟨hall, hpre⟩
      obtain ⟨hty, hall⟩ := List.forall_mem_cons.mp hall
      have hp := hpre [c] (by simp) (List.cons_prefix_cons.mpr ⟨rfl, List.nil_prefix⟩)
      refine ⟨⟨hty, hp⟩, (ih (ha.key hty hp) hf').mpr ⟨hall, fun x hx hpx => ?_⟩⟩
      have := hpre (c :: x) (by simp) (List.cons_prefix_cons.mpr ⟨rfl, hpx⟩)
      simpa using this

lemma Awaits.type {keys : Text} (ha : Awaits r d t e) (hf : ∀ x, x <+: keys → Refers (t ++ x))
    (hw : Along h (Waits h) e keys) : Awaits r d (t ++ keys) (e.type h keys).1 := by
  induction keys generalizing t e with
  | nil => simpa [type] using ha
  | cons c cs ih =>
    have hc := hf [c] (List.cons_prefix_cons.mpr ⟨rfl, List.nil_prefix⟩)
    obtain ⟨hty, hp⟩ := (ha.waits_iff hc).mp hw.1
    have hcs := ih (ha.key hty hp) (fun x hx => ?_) hw.2
    · rw [type_cons]
      simpa using hcs
    · have := hf (c :: x) (List.cons_prefix_cons.mpr ⟨rfl, hx⟩)
      simpa using this

lemma request_clears {q : Request} (hq : e.request? c = some q) (h : Host) :
    (e.key h c).1.pending.text = [] := by
  obtain ⟨⟨body, times⟩, hr, ho⟩ := Option.bind_eq_some_iff.mp hq
  rw [key_pending, stroke_of_reads hr h]
  rcases runMacro_text (e.reader c) h body times (isEnter c) with ht | ⟨hn, hi, -⟩
  · exact ht
  · rw [reader_macros, reader_interaction] at hi
    rw [hn] at hi ho
    simp [hi, Macro.Outcome.request?] at ho

def Issues (h : Host) (e : Engine) (keys : Text) (q : Request) : Prop :=
  ∃ pre c post, keys = pre ++ c :: post ∧ Along h (Waits h) e pre ∧
    (e.type h pre).1.request? c = some q ∧
    Along h (Waits h) ((e.type h pre).1.key h c).1 post ∧ (e.type h keys).1.pending.text = []

lemma along_waits_text {keys : Text} (hw : Along h (Waits h) e keys) :
    (e.type h keys).1.pending.text = e.pending.text ++ keys := by
  induction keys generalizing e with
  | nil => simp [type]
  | cons c cs ih =>
    rw [type_cons, ih hw.2, hw.1]
    simp

lemma issues_concat {keys : Text} {q : Request} :
    Issues h e (keys ++ [c]) q ↔
      Along h (Waits h) e keys ∧ (e.type h keys).1.request? c = some q := by
  constructor
  · rintro ⟨pre, b, post, hk, hpre, hq, hpost, hnil⟩
    -- keys behind the request would still be pending
    have htext := along_waits_text hpost
    rw [hk, type_append, type_cons, htext] at hnil
    obtain rfl : post = [] := (List.append_eq_nil_iff.mp hnil).2
    obtain ⟨rfl, hb⟩ := List.append_inj' hk rfl
    obtain rfl : c = b := List.singleton_inj.mp hb
    exact ⟨hpre, hq⟩
  · rintro ⟨hk, hq⟩
    refine ⟨keys, c, [], rfl, hk, hq, trivial, ?_⟩
    rw [type_append, type_cons]
    exact request_clears hq h

lemma Awaits.closing {q name : Text} {p : Prefix} (ha : Awaits r d (q ++ '@' :: name) e)
    (hq : Prefix.split? q = some (p, [])) :
    e.request? '@' =
      if name = [] then (Control.again? r d).bind (r.request? · p.countOrOne)
      else r.request? (Control.closedName name) p.countOrOne := by
  have hm : macroBody? (e.pending.text ++ ['@']) = some ('@' :: (name ++ ['@']), p.countOrOne) := by
    rw [ha.text, List.append_assoc]
    exact macroBody?_eq_some.mpr
      ⟨p, Prefix.split?_header_append hq (by decide) (by decide) _, rfl, rfl⟩
  have hf : Refers (q ++ '@' :: name ++ ['@']) := by
    rw [← ha.text]
    exact .inr ⟨_, _, hm⟩
  have hr : e.reads? '@' = some ('@' :: (name ++ ['@']), p.countOrOne) := by
    unfold reads?
    have hx : ('@' : Char) ≠ escapeKey := by decide
    have he : isEnter '@' = false := by decide
    have hb : isErasing '@' = false := by decide
    simp only [ha.mode, Mode.isInsert, ha.not_isLine hf, hx, he, hb, Bool.false_and,
      Bool.false_eq_true, ↓reduceIte]
    exact hm
  have hk := read_reference e.macros e.interaction (name ++ ['@']) false
    (Nat.pos_iff_ne_zero.mp (Prefix.countOrOne_pos hq))
  unfold request?
  rw [hr, Option.bind_some, show isEnter '@' = false from rfl, hk, Control.readPlayback_closed,
    ha.registry, ha.dialog]

end Engine

/-- The name can be typed key by key: none of its keys does anything else, no beginning of it is
taken for the whole, and the `@` behind it ends it. -/
def Spellable (r : Registry) (name : Text) : Prop :=
  (∀ c ∈ name, Typable c ∧ c ≠ '@') ∧ Control.closedName name = name ∧
    (name.head? = some '(' ∨ ∃ other ∈ r.names, other ≠ name ∧ name <+: other)

lemma open_prefixes_iff {r : Registry} {name : Text} (hn : name ∈ r.names) (hne : name ≠ []) :
    (∀ y, y <+: name → Control.Open r y) ↔
      (∀ c ∈ name, c ≠ '@') ∧
        (name.head? = some '(' ∨ ∃ other ∈ r.names, other ≠ name ∧ name <+: other) := by
  constructor
  · intro hall
    refine ⟨fun c hc hat => ?_, ?_⟩
    · obtain ⟨a, b, rfl⟩ := List.append_of_mem hc
      have hp : a ++ [c] <+: a ++ c :: b := ⟨b, by simp⟩
      rcases hall _ hp with ho | ⟨ho, -⟩
      · simp at ho
      · exact ho (by simp [hat])
    · rcases hall name (List.prefix_refl name) with ho | ⟨-, ho | ho⟩
      · exact absurd ho hne
      · exact .inl ho
      · -- `name` is a candidate for itself; if it is not the only one, another begins like it
        right
        by_contra hnone
        refine ho name ((Registry.candidates_eq_singleton hn (List.prefix_refl name)).mpr ?_)
        exact fun other hm hp => by_contra fun hd => hnone ⟨other, hm, hd, hp⟩
  · rintro ⟨hat, ho⟩ y hy
    by_cases hyn : y = []
    · exact .inl hyn
    refine .inr ⟨fun hl => ?_, ?_⟩
    · exact hat '@' (hy.subset (List.mem_of_getLast? hl)) rfl
    · rcases ho with hp | ⟨other, ho, hd, hp⟩
      · left
        obtain ⟨z, rfl⟩ := hy
        cases y with
        | nil => exact absurd rfl hyn
        | cons c cs => exact hp
      · -- `name` and `other` both begin with `y`
        right
        intro only hc
        have h₁ := Registry.mem_candidates.mpr ⟨hn, hy⟩
        have h₂ := Registry.mem_candidates.mpr ⟨ho, hy.trans hp⟩
        rw [hc, List.mem_singleton] at h₁ h₂
        exact hd (h₂.trans h₁.symm)

lemma prefix_append_cons {q s x : Text} {c : Char} (h : x <+: q ++ c :: s) :
    x <+: q ∨ ∃ y, y <+: s ∧ x = q ++ c :: y := by
  rcases List.prefix_or_prefix_of_prefix h (List.prefix_append q (c :: s)) with hq | ⟨z, rfl⟩
  · exact .inl hq
  · rw [List.prefix_append_right_inj] at h
    cases z with
    | nil => exact .inl (by simp)
    | cons b y =>
      obtain ⟨rfl, hy⟩ := List.cons_prefix_cons.mp h
      exact .inr ⟨y, hy, rfl⟩

def Replayable (r : Registry) (d : Dialog) (p : Prefix) (name : Text) : Prop :=
  (∀ c ∈ p.register, Typable c) ∧
    if name = [] then Control.again? r d = some [] else Spellable r name

-- Characters are finitely many, but only those of the name are to be looked at.
instance (r : Registry) (name : Text) : Decidable (Spellable r name) :=
  have : Decidable (∀ c ∈ name, Typable c ∧ c ≠ '@') := List.decidableBAll _ name
  inferInstanceAs (Decidable (_ ∧ _ ∧ _))

instance (r : Registry) (d : Dialog) (p : Prefix) (name : Text) :
    Decidable (Replayable r d p name) :=
  have : Decidable (∀ c ∈ p.register, Typable c) := Option.decidableForallMem p.register
  inferInstanceAs (Decidable ((∀ c ∈ p.register, Typable c) ∧
    if name = [] then Control.again? r d = some [] else Spellable r name))

namespace Engine

variable {r : Registry} {d : Dialog} {e : Engine} {h : Host} {q name : Text} {p : Prefix}

section header

variable (hq : Prefix.split? q = some (p, []))
include hq

lemma headed_of_isPrefix {x : Text} (hx : x <+: q) : Headed x := by
  obtain ⟨z, rfl⟩ := hx
  refine Headed.of_append (s := z) fun p' body hs => ?_
  rw [hq] at hs
  cases hs
  rfl

lemma macroBody?_header (rest : Text) :
    macroBody? (q ++ '@' :: rest) = some ('@' :: rest, p.countOrOne) :=
  macroBody?_eq_some.mpr ⟨p, Prefix.split?_header_append hq (by decide) (by decide) _, rfl, rfl⟩

lemma pends_header_iff (rest : Text) : Pends r (q ++ '@' :: rest) ↔ Control.Open r rest := by
  have hs := Prefix.split?_header_append hq (c := '@') (by decide) (by decide) rest
  constructor
  · rintro (hh | ⟨rest', times, hm, ho⟩)
    · cases hh _ _ hs
    · rw [macroBody?_header hq] at hm
      cases hm
      exact ho
  · exact fun ho => .inr ⟨rest, _, macroBody?_header hq rest, ho⟩

lemma refers_of_isPrefix {x : Text} (hx : x <+: q ++ '@' :: name) : Refers x := by
  rcases prefix_append_cons hx with hx | ⟨y, -, rfl⟩
  · exact .inl (headed_of_isPrefix hq hx)
  · exact .inr ⟨y, _, macroBody?_header hq y⟩

lemma typable_header : (∀ c ∈ q, Typable c) ↔ ∀ c ∈ p.register, Typable c := by
  obtain ⟨hall, hreg⟩ := Prefix.mem_header hq
  constructor
  · exact fun hty c hc => hty c (hreg c hc)
  · intro hty c hc
    rcases hall c hc with rfl | hd | hr
    · decide
    · exact typable_of_isDigit hd
    · exact hty c hr

lemma reference_along_iff (ha : Awaits r d [] e) :
    Along h (Waits h) e (q ++ '@' :: name) ↔
      (∀ c ∈ p.register, Typable c) ∧ (∀ c ∈ name, Typable c) ∧
        ∀ y, y <+: name → Control.Open r y := by
  rw [ha.along_iff fun x hx => refers_of_isPrefix hq hx, ← typable_header hq]
  constructor
  · rintro ⟨hty, hpre⟩
    refine ⟨fun c hc => hty c (by simp [hc]), fun c hc => hty c (by simp [hc]), fun y hy => ?_⟩
    refine (pends_header_iff hq y).mp (hpre (q ++ '@' :: y) (by simp) ?_)
    exact (List.prefix_append_right_inj q).mpr (List.cons_prefix_cons.mpr ⟨rfl, hy⟩)
  · rintro ⟨hty, hname, hopen⟩
    refine ⟨fun c hc => ?_, fun x hx hpx => ?_⟩
    · rcases List.mem_append.mp hc with hc | hc
      · exact hty c hc
      · rcases List.mem_cons.mp hc with rfl | hc
        · decide
        · exact hname c hc
    · rcases prefix_append_cons hpx with hpx | ⟨y, hy, rfl⟩
      · exact .inl (headed_of_isPrefix hq hpx)
      · exact (pends_header_iff hq y).mpr (hopen y hy)

theorem issues_iff (ha : Awaits r d [] e) {req : Request}
    (hreq : r.request? req.name p.countOrOne = some req) :
    Issues h e (q ++ '@' :: req.name ++ ['@']) req ↔ Replayable r d p req.name := by
  have hmeans : ∀ name, r.request? name p.countOrOne = some req ↔ name = req.name :=
    fun name => ⟨fun hn => (Registry.request?_name hn).symm, fun hn => hn ▸ hreq⟩
  have hclosing : Along h (Waits h) e (q ++ '@' :: req.name) →
      ((e.type h (q ++ '@' :: req.name)).1.request? '@' = some req ↔
        if req.name = [] then Control.again? r d = some [] else
          Control.closedName req.name = req.name) := by
    intro hw
    rw [(ha.type (fun x hx => refers_of_isPrefix hq hx) hw).closing hq]
    split
    · rename_i hn
      rw [Option.bind_eq_some_iff]
      simp only [hmeans, exists_eq_right, hn]
    · exact hmeans _
  rw [issues_concat, and_congr_right hclosing, reference_along_iff hq ha]
  unfold Replayable
  by_cases hn : req.name = []
  · simp only [hn, ↓reduceIte]
    have hopen : ∀ y : Text, y <+: [] → Control.Open r y := fun y hy =>
      .inl (List.prefix_nil.mp hy)
    simp [hopen]
  · have hchars : (∀ c ∈ req.name, Typable c ∧ c ≠ '@') ↔
        (∀ c ∈ req.name, Typable c) ∧ ∀ c ∈ req.name, c ≠ '@' :=
      ⟨fun hc => ⟨fun c hm => (hc c hm).1, fun c hm => (hc c hm).2⟩,
        fun hc c hm => ⟨hc.1 c hm, hc.2 c hm⟩⟩
    simp only [hn, ↓reduceIte, open_prefixes_iff (Registry.mem_names_of_request? hreq) hn,
      Spellable, hchars]
    tauto

end header

lemma recordable_reference {body rest : Text} (hb : Prefix.split? body = some (p, '@' :: rest))
    (name : Text) : ∃ q, body = q ++ '@' :: rest ∧ Prefix.split? q = some (p, []) ∧
      recordable (some name) body = q ++ '@' :: name ++ ['@'] := by
  obtain ⟨q, rfl, hq⟩ := Prefix.exists_header hb
  have hl : ¬(CommandKind.ofText (q ++ '@' :: rest)).isLine = true := by
    intro hl
    rw [split?_of_isLine hl] at hb
    simp only [Option.some.injEq, Prod.mk.injEq] at hb
    rw [hb.2] at hl
    cases hl
  refine ⟨q, rfl, hq, ?_⟩
  unfold recordable
  rw [if_neg hl, hb]
  simp

/-- A reference that a whole command has found to mean a macro or a variable is recorded with its
name, and this is exactly when the recorded keys, typed in the normal mode with nothing pending,
issue its request again. -/
theorem Reachable.reissues_iff {e : Engine} (he : e.Reachable)
    (hs : e.macros.machine.state = .recording) (hi : e.mode.isInsert = false) (h : Host)
    {t rest : Text} {p : Prefix} (hb : Prefix.split? (withoutEnter t) = some (p, '@' :: rest))
    {k : Nat} {req : Request}
    (hreq : (e.macros.read e.interaction ('@' :: rest) true p.countOrOne).2.2 =
      .done k (some req)) :
    (e.command h t).1.macros.machine.recorded =
        e.macros.machine.recorded ++ recordable (some req.name) (withoutEnter t) ∧
      ∀ (h' : Host) (e' : Engine), e'.mode = .normal → e'.pending.text = [] →
        (∀ name, e'.macros.registry.isRecorded name = e.macros.registry.isRecorded name) →
        (∀ name, e'.macros.registry.isVariable name = e.macros.registry.isVariable name) →
        (Issues h' e' (recordable (some req.name) (withoutEnter t)) req ↔
          Replayable e'.macros.registry e'.interaction.dialog p req.name) := by
  refine ⟨command_records he.resting hs hi h hb hreq, fun h' e' hm ht hrec hvar => ?_⟩
  obtain ⟨q, -, hq, hrecord⟩ := recordable_reference hb req.name
  have hans : e.macros.registry.Answers p.countOrOne req := by
    have hr := e.macros.read_reads e.interaction ('@' :: rest) true p.countOrOne
    generalize e.macros.read e.interaction ('@' :: rest) true p.countOrOne = step at hr hreq
    cases hr with
    | kept i o ho => exact ho k req hreq
    | started => cases hreq
    | stored => cases hreq
    | aborted => cases hreq
  have hreq' : e'.macros.registry.request? req.name p.countOrOne = some req := by
    rw [← Registry.request?_of_answers hans]
    unfold Registry.request?
    rw [hrec, hvar]
  rw [hrecord]
  exact issues_iff hq ⟨hm, ht, rfl, rfl⟩ hreq'

theorem sample_reissues :
    let e := ((sample "abc" [("b", "x"), ("bc", "y")]).type {} "qr".toList).1
    let e' := ((sample "abc" [("foo", "x")]).type {} "qr".toList).1
    ((e.command {} "2@b".toList).1.macros.machine.recorded = "2@b@".toList ∧
        Issues {} e "2@b@".toList (.play ['b'] 2)) ∧
      (e'.command {} "@f".toList).1.macros.machine.recorded = "@foo@".toList ∧
        ¬Issues {} e' "@foo@".toList (.play ['f', 'o', 'o'] 1) := by
  intro e e'
  have he : e.Reachable := (sample_reachable _ _).type {} _
  have he' : e'.Reachable := (sample_reachable _ _).type {} _
  have hb : Prefix.split? (withoutEnter "2@b".toList) = some (⟨none, some 2⟩, '@' :: ['b']) := by
    decide +kernel
  have hb' : Prefix.split? (withoutEnter "@f".toList) = some (⟨none, none⟩, '@' :: ['f']) := by
    decide +kernel
  have hr : (e.macros.read e.interaction ('@' :: ['b']) true 2).2.2 =
      .done 2 (some (.play ['b'] 2)) := by decide +kernel
  have hr' : (e'.macros.read e'.interaction ('@' :: ['f']) true 1).2.2 =
      .done 2 (some (.play ['f', 'o', 'o'] 1)) := by decide +kernel
  have ht : recordable (some ['b']) (withoutEnter "2@b".toList) = "2@b@".toList := by
    decide +kernel
  have ht' : recordable (some ['f', 'o', 'o']) (withoutEnter "@f".toList) = "@foo@".toList := by
    decide +kernel
  obtain ⟨hk, hi⟩ := Reachable.reissues_iff he (by decide +kernel) (by decide +kernel) {} hb hr
  obtain ⟨hk', hi'⟩ := Reachable.reissues_iff he' (by decide +kernel) (by decide +kernel) {} hb' hr'
  have hi := hi {} e (by decide +kernel) (by decide +kernel) (fun _ => rfl) fun _ => rfl
  have hi' := hi' {} e' (by decide +kernel) (by decide +kernel) (fun _ => rfl) fun _ => rfl
  rw [Request.name, ht] at hk hi
  rw [Request.name, ht'] at hk' hi'
  refine ⟨⟨hk.trans (by decide +kernel), hi.mpr (by decide +kernel)⟩,
    hk'.trans (by decide +kernel), fun hn => absurd (hi'.mp hn) (by decide +kernel)⟩

end Engine

end ModalEdit
