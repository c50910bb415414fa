import ModalEdit.Proofs.Storing
import ModalEdit.Proofs.WholeLine

/-! A command typed key by key. What has been typed of it is complete, can still become complete or
never will, and only the last key makes it complete. -/

namespace ModalEdit

namespace Parse

structure Settles {α : Type} (f : Text → Parse α) : Prop where
  invalid {t} (h : f t = .invalid) (u : Text) : f (t ++ u) = .invalid
  complete {t a} (h : f t = .complete a) (ht : escapeKey ∉ t) {u} (hu : u ≠ []) :
    f (t ++ u) = .invalid
  incomplete {t} (h : f t = .incomplete) : ∃ u a, escapeKey ∉ u ∧ f (t ++ u) = .complete a

inductive Continues {α : Type} (f : Text → Parse α) (t : Text) : Prop
  | waits (h : f t = .incomplete) (u : Text) (a : α) (hu : escapeKey ∉ u)
      (ha : f (t ++ u) = .complete a)
  | reads (g : Text → Parse α) (rest : Text) (hg : Settles g)
      (hr : escapeKey ∈ rest → escapeKey ∈ t) (h : ∀ u, f (t ++ u) = g (rest ++ u))
  | escaped (ht : escapeKey ∈ t) (a : α) (h : f t = .complete a)

variable {α β : Type} {f : Text → Parse α} {t : Text}

lemma settles_of_continues (hf : ∀ t, Continues f t) : Settles f where
  invalid {t} h u := by
    cases hf t with
    | waits hw => cases hw.symm.trans h
    | escaped _ _ he => cases he.symm.trans h
    | reads g rest hg _ hu =>
      have hn : g rest = .invalid := by simpa using (hu []).symm.trans (by simpa using h)
      rw [hu, hg.invalid hn]
  complete {t a} h ht u hne := by
    cases hf t with
    | waits hw => cases hw.symm.trans h
    | escaped he => exact absurd he ht
    | reads g rest hg hr hu =>
      have hc : g rest = .complete a := by simpa using (hu []).symm.trans (by simpa using h)
      rw [hu, hg.complete hc (mt hr ht) hne]
  incomplete {t} h := by
    cases hf t with
    | waits _ u a hu ha => exact ⟨u, a, hu, ha⟩
    | escaped _ _ he => cases he.symm.trans h
    | reads g rest hg _ hu =>
      have hi : g rest = .incomplete := by simpa using (hu []).symm.trans (by simpa using h)
      obtain ⟨u, a, he, ha⟩ := hg.incomplete hi
      exact ⟨u, a, he, (hu u).trans ha⟩

lemma settles_invalid : Settles fun _ => (invalid : Parse α) where
  invalid h _ := h
  complete h := nomatch h
  incomplete h := nomatch h

lemma settles_ofKey (a : α) : Settles (ofKey · a) where
  invalid {t} h u := by
    cases t with
    | nil => cases h
    | cons => rfl
  complete h _ u hu := by
    obtain ⟨rfl, -⟩ := ofKey_complete h
    obtain ⟨c, u, rfl⟩ := List.exists_cons_of_ne_nil hu
    rfl
  incomplete {t} h := by cases t <;> cases h

lemma Settles.map (hf : Settles f) (g : α → β) : Settles fun t => (f t).map g where
  invalid {t} h u := by
    have ht : f t = .invalid := by
      cases hp : f t with
      | invalid => rfl
      | complete | incomplete => rw [hp] at h; cases h
    simp only [hf.invalid ht u, Parse.map]
  complete h ht u hu := by
    obtain ⟨a, ha, -⟩ := map_complete h
    simp only [hf.complete ha ht hu, Parse.map]
  incomplete {t} h := by
    have ht : f t = .incomplete := by
      cases hp : f t with
      | incomplete => rfl
      | complete | invalid => rw [hp] at h; cases h
    obtain ⟨u, a, hu, ha⟩ := hf.incomplete ht
    exact ⟨u, g a, hu, by rw [ha]; rfl⟩

lemma Settles.beginning (hf : Settles f) {a : α} (h : f t = .complete a) (ht : escapeKey ∉ t)
    {s : Text} (hs : s <+: t) (hne : s ≠ t) : f s = .incomplete := by
  obtain ⟨u, rfl⟩ := hs
  have hu : u ≠ [] := by
    rintro rfl
    exact hne (List.append_nil s).symm
  cases hp : f s with
  | incomplete => rfl
  | invalid => cases h.symm.trans (hf.invalid hp u)
  | complete b =>
    have he : escapeKey ∉ s := fun he => ht (List.mem_append_left u he)
    cases h.symm.trans (hf.complete hp he hu)

end Parse

open Macro (Control)
open Parse (Settles)

lemma Motion.parse?_settles {α : Type} (c : Char) (g : Motion → α) {f : Text → Parse α}
    (hf : Settles f) :
    Settles fun rest => match parse? c rest with
      | some m => m.map g
      | none => f rest := by
  by_cases hc : c = 'g'
  · subst hc
    refine Parse.settles_of_continues fun t => ?_
    cases t with
    | nil => exact .waits rfl ['g'] (g .firstLine) (by decide) rfl
    | cons d t =>
      by_cases hd : d = 'g'
      · subst hd
        refine .reads _ t (Parse.settles_ofKey (g .firstLine)) (List.mem_cons_of_mem _) fun u => ?_
        rw [List.cons_append]
        cases t ++ u <;> rfl
      · refine .reads _ t Parse.settles_invalid (List.mem_cons_of_mem _) fun u => ?_
        simp [parse?, hd, Parse.map]
  · simp only [parse?, if_neg hc]
    cases ofKey? c with
    | none => exact hf
    | some m => exact (Parse.settles_ofKey m).map g

namespace Command

variable {p : Prefix} {op : Operator} {key : Char}

lemma parseReplace_settles (p : Prefix) : Settles (parseReplace p) := by
  refine Parse.settles_of_continues fun t => ?_
  cases t with
  | nil => exact .waits rfl ['x'] (.replace 'x' p.countOrOne) (by decide) rfl
  | cons c t =>
    by_cases hc : c = escapeKey
    · exact .escaped (hc ▸ List.mem_cons_self) .escape (by simp [parseReplace, hc])
    · refine .reads _ t (Parse.settles_ofKey (.replace c p.countOrOne)) (List.mem_cons_of_mem _)
        fun u => ?_
      simp [parseReplace, hc]

def parseOperand (op : Operator) (key : Char) (p : Prefix) (post : Option Nat) (c : Char)
    (rest : Text) : Parse Command :=
  let count := min (p.countOrOne * post.getD 1) countCap
  if c = key then .ofKey rest (.operateLines op count p.register)
  else match Motion.parse? c rest with
    | some m => m.map fun m => .operate op m count (p.count.isSome || post.isSome) p.register
    | none => .invalid

lemma parseOperand_settles (op : Operator) (key : Char) (p : Prefix) (post : Option Nat)
    (c : Char) : Settles (parseOperand op key p post c) := by
  unfold parseOperand
  by_cases hc : c = key
  · simp only [if_pos hc]
    exact Parse.settles_ofKey _
  · simp only [if_neg hc]
    exact Motion.parse?_settles c _ Parse.settles_invalid

lemma parseOperator_of_count {rest : Text} {post : Option Nat}
    (hr : Prefix.takeCount rest = (post, [])) : parseOperator op key p rest = .incomplete := by
  unfold parseOperator
  rw [hr]

lemma parseOperator_of_operand {rest rest' : Text} {post : Option Nat} {c : Char}
    (hr : Prefix.takeCount rest = (post, c :: rest')) :
    parseOperator op key p rest = parseOperand op key p post c rest' := by
  unfold parseOperator
  rw [hr]
  simp only [min_saturate]
  rfl

lemma parseOperator_settles (op : Operator) (key : Char) (p : Prefix) :
    Settles (parseOperator op key p) := by
  refine Parse.settles_of_continues fun t => ?_
  rcases ht : Prefix.takeCount t with ⟨post, - | ⟨c, rest⟩⟩
  · -- any motion completes the command
    have hj := Prefix.takeCount_append_of_not_digit (congrArg Prod.snd ht) (c := 'j') rfl []
    obtain ⟨a, ha⟩ : ∃ a, parseOperand op key p (Prefix.takeCount t).1 'j' [] = .complete a := by
      unfold parseOperand
      split <;> exact ⟨_, rfl⟩
    exact .waits (parseOperator_of_count ht) ['j'] a (by decide)
      ((parseOperator_of_operand hj).trans ha)
  · have hrest : rest ⊆ t := fun k hk =>
      (takeCount_suffix t).subset (by rw [ht]; exact List.mem_cons_of_mem c hk)
    refine .reads _ rest (parseOperand_settles op key p post c) (hrest ·) fun u => ?_
    refine parseOperator_of_operand ?_
    rw [Prefix.takeCount_append (by rw [ht]; exact List.cons_ne_nil c rest), ht]
    rfl

lemma parseVisual_settles (p : Prefix) (key : Char) : Settles (parseVisual p key) := by
  unfold parseVisual
  cases VisualAction.ofKey? key with
  | some a => exact Parse.settles_ofKey _
  | none => exact Parse.settles_invalid

lemma parseNormal_settles (p : Prefix) (key : Char) : Settles (parseNormal p key) := by
  unfold parseNormal
  cases Operator.ofKey? key with
  | some op => exact parseOperator_settles op key p
  | none =>
    cases Simple.ofKey? key with
    | some s => exact Parse.settles_ofKey _
    | none =>
      cases Insertion.ofKey? key with
      | some i => exact Parse.settles_ofKey _
      | none =>
        by_cases hr : key = 'r'
        · simp only [if_pos hr]
          exact parseReplace_settles p
        · simp only [if_neg hr]
          exact Parse.settles_invalid

lemma parseBody_settles (visual : Bool) (p : Prefix) (hk : key ≠ escapeKey) :
    Settles fun rest => parseBody visual p (key :: rest) := by
  simp only [parseBody, if_neg hk]
  cases VisualKind.ofKey? key with
  | some k => exact Parse.settles_ofKey _
  | none =>
    refine Motion.parse?_settles key _ ?_
    cases visual with
    | true => exact parseVisual_settles p key
    | false => exact parseNormal_settles p key

lemma parse_of_split {visual : Bool} {t body : Text} (hs : Prefix.split? t = some (p, body)) :
    parse visual t = parseBody visual p body := by
  rw [parse, hs]

lemma parse_settles (visual : Bool) : Settles (parse visual) := by
  refine Parse.settles_of_continues fun t => ?_
  rcases hs : Prefix.split? t with - | ⟨p, - | ⟨key, rest⟩⟩
  · have ht : t = ['"'] := by
      have hb := Trigger.split?_body t
      rw [hs] at hb
      by_contra hne
      rw [if_neg hne] at hb
      cases hb
    subst ht
    exact .waits rfl ['a', 'j'] (.move .down 1 false) (by decide) (by cases visual <;> rfl)
  · have hj := Prefix.split?_header_append hs (c := 'j') rfl (by decide) []
    refine .waits (parse_of_split hs) ['j'] (.move .down p.countOrOne p.count.isSome) (by decide) ?_
    rw [parse_of_split hj]
    rfl
  · have happ := fun u => Prefix.split?_append hs (List.cons_ne_nil key rest) u
    obtain ⟨q, rfl, -⟩ := Prefix.exists_header hs
    by_cases hk : key = escapeKey
    · refine .escaped (by simp [hk]) .escape ?_
      rw [parse_of_split hs, parseBody, if_pos hk]
    · refine .reads _ rest (parseBody_settles visual p hk) (fun he => by simp [he]) fun u => ?_
      rw [parse_of_split (happ u)]
      rfl

end Command

namespace Engine

variable {e : Engine} {h : Host} {k : Char}

lemma isMacroBody_of_parse {visual : Bool} {t body : Text} {p : Prefix}
    (hp : Command.parse visual t ≠ .invalid) (hs : Prefix.split? t = some (p, body)) :
    isMacroBody body = false := by
  cases hb : isMacroBody body with
  | false => rfl
  | true =>
    have hm : macroBody? t = some (body, p.countOrOne) := macroBody?_eq_some.mpr ⟨p, hs, hb, rfl⟩
    exact absurd (Command.parse_of_macroBody visual (by rw [hm]; rfl)) hp

lemma stroke_of_parse (hi : e.mode.isInsert = false) (hk : Typable k)
    (hp : Command.parse e.mode.isVisual (e.pending.text ++ [k]) ≠ .invalid) :
    e.stroke h k = (e.extend k).runPending h false := by
  obtain ⟨hx, hr, hb⟩ := hk
  have hl : (e.extend k).pending.kind.isLine = false :=
    (Bool.not_eq_true _).mp fun hl => hp (Command.parse_of_isLine _ hl)
  have hl' : e.pending.kind.isLine = false :=
    (Bool.not_eq_true _).mp fun hl => hp (Command.parse_of_isLine _ (isLine_append hl [k]))
  simp only [stroke, hi, commandKey, hx, hr, hb, hl, hl', Bool.false_and, Bool.false_eq_true,
    ↓reduceIte]

lemma runPending_of_incomplete (hp : Command.parse e.mode.isVisual e.pending.text = .incomplete) :
    e.runPending h false = (e, .handled false) := by
  unfold runPending
  dsimp only
  split
  · rfl
  · rename_i p body hs
    have hn : Command.parse e.mode.isVisual e.pending.text ≠ .invalid := by simp [hp]
    rw [isMacroBody_of_parse hn hs, hp]
    rfl

lemma runPending_of_complete {c : Command} {complete : Bool}
    (hp : Command.parse e.mode.isVisual e.pending.text = .complete c) :
    e.runPending h complete = handle (e.clearPending.execute h e.pending.text c) := by
  unfold runPending
  dsimp only
  split
  · rename_i hs
    rw [Command.parse, hs] at hp
    cases hp
  · rename_i p body hs
    have hn : Command.parse e.mode.isVisual e.pending.text ≠ .invalid := by simp [hp]
    rw [isMacroBody_of_parse hn hs, hp]
    rfl

lemma type_of_incomplete {keys : Text} (hi : e.mode.isInsert = false)
    (hk : ∀ k ∈ keys, Typable k)
    (hp : ∀ s, s <+: keys → Command.parse e.mode.isVisual (e.pending.text ++ s) = .incomplete) :
    (e.type h keys).1 =
      { e with pending := e.pending.append keys, macros := e.macros.jot keys } := by
  induction keys generalizing e with
  | nil => simp [type, Pending.append]
  | cons k ks ih =>
    have hone := hp [k] ⟨ks, rfl⟩
    have hs : e.stroke h k = (e.extend k, .handled false) := by
      rw [stroke_of_parse hi (hk k List.mem_cons_self) (by simp [hone])]
      exact runPending_of_incomplete hone
    have hkey : (e.key h k).1 = { e.extend k with macros := e.macros.jot [k] } := by
      rw [key_of_handled hs rfl]
      exact if_pos rfl
    have hks := ih (e := { e.extend k with macros := e.macros.jot [k] }) hi
      (fun d hd => hk d (List.mem_cons_of_mem k hd)) fun s hs => by
        have := hp (k :: s) (List.prefix_cons_inj k |>.mpr hs)
        rwa [List.append_cons] at this
    rw [type_cons, hkey, hks]
    simp only [extend, Pending.append, Control.jot_append, List.append_assoc, List.singleton_append]

lemma type_of_complete {t : Text} {c : Command} (hi : e.mode.isInsert = false) (ht : t ≠ [])
    (hx : escapeKey ∉ e.pending.text) (hk : ∀ k ∈ t, Typable k)
    (hp : Command.parse e.mode.isVisual (e.pending.text ++ t) = .complete c) :
    e.type h t =
      (reportMode { (e.clearPending.execute h (e.pending.text ++ t) c).1 with
          macros := e.macros.jot t } e.mode,
        (e.clearPending.execute h (e.pending.text ++ t) c).2) := by
  have hesc : escapeKey ∉ e.pending.text ++ t := fun he =>
    (List.mem_append.mp he).elim hx fun he => (hk _ he).1 rfl
  obtain ⟨s, k, rfl⟩ := t.eq_nil_or_concat'.resolve_left ht
  have hs : (e.type h s).1 =
      { e with pending := e.pending.append s, macros := e.macros.jot s } := by
    refine type_of_incomplete hi (fun d hd => hk d (List.mem_append_left _ hd)) fun u hu => ?_
    have hne : e.pending.text ++ u ≠ e.pending.text ++ (s ++ [k]) := by
      intro he
      have hlen := hu.length_le
      have he := congrArg List.length (List.append_cancel_left he)
      simp only [List.length_append, List.length_singleton] at he
      omega
    exact (Command.parse_settles _).beginning hp hesc
      ((List.prefix_append_right_inj _).mpr (hu.trans (List.prefix_append s [k]))) hne
  rw [type_concat, hs]
  generalize hw : ({ e with pending := e.pending.append s, macros := e.macros.jot s } : Engine) = w
  have hpend : w.pending.text ++ [k] = e.pending.text ++ (s ++ [k]) := by
    rw [← hw, Pending.append, List.append_assoc]
  have hmode : w.mode = e.mode := by rw [← hw]
  have hp' : Command.parse w.mode.isVisual (w.pending.text ++ [k]) = .complete c := by
    rw [hpend, hmode, hp]
  -- what the keys before the last one have changed does not matter for the command
  obtain ⟨e₀, he₀, hd₀⟩ : ∃ e₀, e.clearPending = e₀ ∧ e.macros = e₀.macros := ⟨_, rfl, rfl⟩
  have hclear : (w.extend k).clearPending = { e₀ with macros := e₀.macros.jot s } := by
    rw [← hw, ← he₀]
    rfl
  have hwd : w.macros = e₀.macros.jot s := by rw [← hw, hd₀]
  rw [he₀, hd₀]
  generalize e.pending.text ++ (s ++ [k]) = text at hpend
  have hstroke : w.stroke h k =
      handle (execute { e₀ with macros := e₀.macros.jot s } h text c) := by
    have htext : (w.extend k).pending.text = text := hpend
    rw [stroke_of_parse (by rw [hmode, hi]) (hk k (by simp)) (by simp [hp']),
      runPending_of_complete (c := c) (by rw [htext, ← hpend]; exact hp'), hclear, htext]
  have hx : Apart (e₀.macros.jot s).machine e₀.resolved e₀
      { e₀ with macros := e₀.macros.jot s } := by
    rw [Apart, ← Control.jot_eq]
  obtain ⟨hrun, hacted⟩ := (apart_congruence _ _).execute hx h text c
  obtain ⟨⟨-, hd, hr⟩, -⟩ :=
    (carries_congruence e₀.macros e₀.resolved).execute (carries_self e₀) h text c
  have hmacros : (execute { e₀ with macros := e₀.macros.jot s } h text c).1.macros = w.macros := by
    rw [hrun, hd, ← Control.jot_eq, hwd]
  have hjot : w.macros.jot [k] = e₀.macros.jot (s ++ [k]) := by
    rw [hwd, Control.jot_append]
  rw [key_of_handled hstroke hmacros, hjot, hrun, ← hacted, hmode, ← hr]

/-- The typed keys run the command that they spell, after its last key, and before it the engine
only waits for one that can still be completed. Enter and the erasing keys are left out there, as
the engine takes them for itself. -/
theorem type_key_by_key (visual : Bool) {t : Text} (ht : escapeKey ∉ t) :
    (∀ c, Command.parse visual t = .complete c →
      ∀ s, s <+: t → s ≠ t → Command.parse visual s = .incomplete) ∧
    (Command.parse visual t = .invalid → ∀ u, Command.parse visual (t ++ u) = .invalid) ∧
    (Command.parse visual t = .incomplete →
      ∃ u c, escapeKey ∉ u ∧ Command.parse visual (t ++ u) = .complete c) ∧
    ∀ (e : Engine) (h : Host), e.mode.isInsert = false → e.mode.isVisual = visual →
      e.pending.text = [] → (∀ k ∈ t, Typable k) →
      (∀ c, Command.parse visual t = .complete c →
        e.type h t = (reportMode { (e.execute h t c).1 with macros := e.macros.jot t } e.mode,
          (e.execute h t c).2)) ∧
      (Command.parse visual t = .incomplete →
        (e.type h t).1 = { e with pending := e.pending.set t, macros := e.macros.jot t }) := by
  have hset := Command.parse_settles visual
  refine ⟨fun c hc s hs hne => hset.beginning hc ht hs hne, hset.invalid, hset.incomplete, ?_⟩
  rintro e h hi rfl hp hk
  refine ⟨fun c hc => ?_, fun hinc => ?_⟩
  · have hne : t ≠ [] := by
      rintro rfl
      cases hc
    have hclear : e.clearPending = e := by rw [clearPending, Pending.clear, ← hp]
    have htyped := type_of_complete (h := h) hi hne (by simp [hp]) hk (c := c)
      (by rwa [hp, List.nil_append])
    rwa [hclear, hp, List.nil_append] at htyped
  obtain ⟨u, c, hu, hc⟩ := hset.incomplete hinc
  have hb : e.pending.append t = e.pending.set t := by
    rw [Pending.append, hp]
    rfl
  rw [← hb]
  refine type_of_incomplete hi hk fun s hs => ?_
  rw [hp, List.nil_append]
  refine hset.beginning hc (by simp [ht, hu]) (hs.trans (List.prefix_append t u)) ?_
  rintro rfl
  have hlen := hs.length_le
  rw [List.length_append] at hlen
  obtain rfl : u = [] := List.eq_nil_of_length_eq_zero (by omega)
  rw [List.append_nil, hinc] at hc
  cases hc

theorem sample_type_key_by_key :
    let e := sample "one two three four" []
    let t := "\"x2d2w".toList
    let c := Command.operate .delete .wordForward 4 true (some 'x')
    (Command.parse false t = .complete c ∧ Command.parse false "\"x2d".toList = .incomplete ∧
      e.type {} t = (reportMode { (e.execute {} t c).1 with macros := e.macros.jot t } e.mode,
        (e.execute {} t c).2)) ∧
    (∀ u, Command.parse false ("dq".toList ++ u) = .invalid) ∧
    ∃ u c, escapeKey ∉ u ∧ Command.parse false ("2g".toList ++ u) = .complete c := by
  have hx := type_key_by_key false (t := "\"x2d2w".toList) (by decide)
  have hc : Command.parse false "\"x2d2w".toList =
      .complete (.operate .delete .wordForward 4 true (some 'x')) := by decide +kernel
  exact ⟨⟨hc, hx.1 _ hc _ (by decide) (by decide),
      (hx.2.2.2 (sample "one two three four" []) {} (by decide +kernel) (by decide +kernel)
        (by decide +kernel)
        (by simp [Typable, isEnter, isErasing, escapeKey, backspaceKey, deleteKey])).1 _ hc⟩,
    (type_key_by_key false (t := "dq".toList) (by decide)).2.1 (by decide +kernel),
    (type_key_by_key false (t := "2g".toList) (by decide)).2.2.1 (by decide +kernel)⟩

end Engine

end ModalEdit
