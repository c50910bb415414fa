import Mathlib.Data.List.Chain
import Mathlib.Data.List.TakeWhile
import ModalEdit.Proofs.Document
import ModalEdit.Proofs.MacroCommands

/-! The complete expansion of a variable: its references are replaced by complete expansions,
however far they go. An expansion that follows no more than sixteen references in a row is the
complete one, or a variable on its way has failed; one that would have to follow more is an
error. -/

namespace ModalEdit.Macro

section parting

/-- A template cut at its references: at each place from the left, a known name between two `@` is a
reference, and otherwise the character stands for itself. -/
inductive Parted (known : Text → Bool) : Text → List Piece → Prop
  | nil : Parted known [] []
  | reference {name rest : Text} {ps : List Piece} (hn : '@' ∉ name) (hk : known name = true)
      (h : Parted known rest ps) :
      Parted known ('@' :: (name ++ '@' :: rest)) (.reference name :: ps)
  | literal {c : Char} {t : Text} {ps : List Piece}
      (hc : ∀ name rest, '@' ∉ name → c :: t = '@' :: (name ++ '@' :: rest) → known name = false)
      (h : Parted known t ps) : Parted known (c :: t) (.literal c :: ps)

variable {known : Text → Bool} {name rest t : Text} {c : Char}

lemma takeWhile_name (hn : '@' ∉ name) (rest : Text) :
    (name ++ '@' :: rest).takeWhile (· != '@') = name ∧
      (name ++ '@' :: rest).dropWhile (· != '@') = '@' :: rest := by
  have hp : ∀ c ∈ name, (c != '@') = true := fun c hc =>
    bne_iff_ne.mpr fun h => hn (h ▸ hc)
  rw [List.takeWhile_append_of_pos hp, List.dropWhile_append_of_pos hp]
  simp

lemma pieces_reference (hn : '@' ∉ name) (hk : known name = true) (rest : Text) :
    pieces known ('@' :: (name ++ '@' :: rest)) = .reference name :: pieces known rest := by
  obtain ⟨htake, hdrop⟩ := takeWhile_name hn rest
  rw [pieces]
  split
  · rename_i h
    rw [hdrop] at h
    obtain ⟨-, rfl⟩ := List.cons.inj h
    rw [htake, if_pos ⟨rfl, hk⟩]
  · rename_i h
    rw [hdrop] at h
    cases h

lemma name_spec {d : Char} (h : t.dropWhile (· != '@') = d :: rest) :
    '@' ∉ t.takeWhile (· != '@') ∧ t = t.takeWhile (· != '@') ++ '@' :: rest := by
  obtain rfl : d = '@' := by
    have hh := List.head?_dropWhile_not (· != '@') t
    rw [h] at hh
    simpa using hh
  exact ⟨fun hm => absurd (List.mem_takeWhile_imp hm) (by decide),
    by rw [← h, List.takeWhile_append_dropWhile]⟩

lemma pieces_literal
    (hc : ∀ name rest, '@' ∉ name → c :: t = '@' :: (name ++ '@' :: rest) → known name = false) :
    pieces known (c :: t) = .literal c :: pieces known t := by
  rw [pieces]
  split
  · rename_i h
    rw [if_neg]
    rintro ⟨rfl, hk⟩
    obtain ⟨hn, ht⟩ := name_spec h
    rw [hc _ _ hn (congrArg _ ht)] at hk
    cases hk
  · rfl

lemma parted_pieces (known : Text → Bool) (t : Text) : Parted known t (pieces known t) := by
  induction hl : t.length using Nat.strongRecOn generalizing t with
  | ind n ih =>
    subst hl
    cases t with
    | nil =>
      rw [pieces]
      exact .nil
    | cons c t =>
      by_cases h : ∃ name rest, '@' ∉ name ∧ c :: t = '@' :: (name ++ '@' :: rest) ∧
          known name = true
      · obtain ⟨name, rest, hn, ht, hk⟩ := h
        have hlt : rest.length < (c :: t).length := by
          simp only [ht, List.length_cons, List.length_append]
          omega
        rw [ht, pieces_reference hn hk]
        exact .reference hn hk (ih _ hlt rest rfl)
      · have hc : ∀ name rest, '@' ∉ name → c :: t = '@' :: (name ++ '@' :: rest) →
            known name = false := fun name rest hn ht =>
          Bool.eq_false_iff.mpr fun hk => h ⟨name, rest, hn, ht, hk⟩
        rw [pieces_literal hc]
        exact .literal hc (ih _ (Nat.lt_succ_self _) t rfl)

lemma Parted.eq_pieces {ps : List Piece} (h : Parted known t ps) : ps = pieces known t := by
  induction h with
  | nil => rw [pieces]
  | reference hn hk _ ih => rw [pieces_reference hn hk, ih]
  | literal hc _ ih => rw [pieces_literal hc, ih]

lemma Parted.known_of_mem {ps : List Piece} (h : Parted known t ps) (hm : .reference name ∈ ps) :
    known name = true := by
  induction h with
  | nil => cases hm
  | reference _ hk _ ih =>
    rcases List.mem_cons.mp hm with he | hm
    · cases he
      exact hk
    · exact ih hm
  | literal _ _ ih =>
    rcases List.mem_cons.mp hm with he | hm
    · cases he
    · exact ih hm

end parting

namespace Registry

variable {r r' : Registry} {name : Text} {v : Variable}

def Keyed (r : Registry) : Prop := ∀ e ∈ r.variableTable.entries, e.2.name = e.1

lemma keyed_empty : ({} : Registry).Keyed := nofun

lemma Keyed.of_insert (h : r.Keyed) (hv : r'.variableTable = r.variableTable.insert v.name v) :
    r'.Keyed := by
  intro e he
  rw [hv] at he
  rcases mem_insertEntry he with rfl | he
  · rfl
  · exact h e he

lemma Keyed.setVariable (h : r.Keyed) (v : Variable) : (r.setVariable v).Keyed := h.of_insert rfl

lemma Keyed.name_eq (h : r.Keyed) (hv : r.variableTable.get? name = some v) : v.name = name := by
  obtain ⟨l₁, l₂, he, -⟩ := List.lookup_eq_some_iff.mp hv
  exact h (name, v) (he ▸ List.mem_append_right l₁ List.mem_cons_self)

def Resembles (r' r : Registry) : Prop := r'.Keyed ∧ r'.stored = r.stored

lemma Resembles.trans {r'' : Registry} (h : r''.Resembles r') (h' : r'.Resembles r) :
    r''.Resembles r := ⟨h.1, h.2.trans h'.2⟩

lemma Keyed.caches (h : r.Keyed) (hc : Caches r r') : r'.Resembles r := by
  induction hc with
  | none => exact ⟨h, rfl⟩
  | @more r' name v _ hv answer ih =>
    obtain ⟨hk, hs⟩ := ih
    rw [← hk.name_eq hv] at hv
    have hcache : (r'.cache v answer).stored = r'.stored := Table.mapValues_insert hv rfl
    exact ⟨hk.of_insert (v := { v with cached := some answer }) rfl, hcache.trans hs⟩

lemma get?_stored (r : Registry) (name : Text) :
    r.stored.get? name = (r.variableTable.get? name).map Variable.stored := by
  change List.lookup name (r.variableTable.entries.map fun e => (e.1, e.2.stored)) =
    (List.lookup name r.variableTable.entries).map Variable.stored
  induction r.variableTable.entries with
  | nil => rfl
  | cons e es ih =>
    rw [List.map_cons, List.lookup_cons, List.lookup_cons, ih]
    split <;> rfl

lemma isVariable_stored (hs : r'.stored = r.stored) : r'.isVariable = r.isVariable := by
  funext name
  have hn := congrArg (fun t : Table Variable => (t.get? name).isSome) hs
  simpa [get?_stored, isVariable, Table.contains] using hn

lemma get?_of_stored (hs : r'.stored = r.stored) (hv : r.variableTable.get? name = some v) :
    ∃ v', r'.variableTable.get? name = some v' ∧ v'.kind = v.kind ∧ v'.value = v.value := by
  have hn := congrArg (·.get? name) hs
  simp only [get?_stored, hv, Option.map_some, Option.map_eq_some_iff] at hn
  obtain ⟨v', hv', he⟩ := hn
  have hkind : v'.stored.kind = v.stored.kind := congrArg _ he
  have hvalue : v'.stored.value = v.stored.value := congrArg _ he
  exact ⟨v', hv', hkind, hvalue⟩

def Refers (r : Registry) (name name' : Text) : Prop :=
  ∃ v ps, r.variableTable.get? name = some v ∧ v.kind = .template ∧
    Parted r.isVariable v.value ps ∧ .reference name' ∈ ps

lemma refers_stored (hs : r'.stored = r.stored) : r'.Refers = r.Refers := by
  have hle : ∀ {r r' : Registry}, r'.stored = r.stored → ∀ {a b}, r.Refers a b → r'.Refers a b := by
    rintro r r' hs a b ⟨v, ps, hv, hk, hp, hm⟩
    obtain ⟨v', hv', hk', hval⟩ := get?_of_stored hs hv
    exact ⟨v', ps, hv', hk'.trans hk, by rwa [isVariable_stored hs, hval], hm⟩
  funext a b
  exact propext ⟨hle hs.symm, hle hs⟩

end Registry

mutual

/-- The complete expansion of a name: what a leaf gives, or a template with every reference
expanded. The states are those before and after the questions that it asks. -/
inductive Expands (x : Context) :
    Text → Registry × Interaction → Text → Registry × Interaction → Prop
  | leaf {name t : Text} {s s' : Registry × Interaction} {v : Variable}
      (hv : s.1.variableTable.get? name = some v) (hk : v.kind ≠ .template)
      (h : v.expand x s = (.ok t, s')) : Expands x name s t s'
  | template {name t : Text} {s s' : Registry × Interaction} {v : Variable} {ps : List Piece}
      (hv : s.1.variableTable.get? name = some v) (hk : v.kind = .template)
      (hp : Parted s.1.isVariable v.value ps) (h : Fills x ps s t s') : Expands x name s t s'

inductive Fills (x : Context) :
    List Piece → Registry × Interaction → Text → Registry × Interaction → Prop
  | nil {s : Registry × Interaction} : Fills x [] s [] s
  | literal {c : Char} {ps : List Piece} {t : Text} {s s' : Registry × Interaction}
      (h : Fills x ps s t s') : Fills x (.literal c :: ps) s (c :: t) s'
  | reference {name t t' : Text} {ps : List Piece} {s s₁ s' : Registry × Interaction}
      (hn : Expands x name s t s₁) (h : Fills x ps s₁ t' s') :
      Fills x (.reference name :: ps) s (t ++ t') s'

end

mutual

inductive Reaches (x : Context) :
    Text → Registry × Interaction → Variable → Registry × Interaction → Prop
  | leaf {name : Text} {s : Registry × Interaction} {v : Variable}
      (hv : s.1.variableTable.get? name = some v) (hk : v.kind ≠ .template) : Reaches x name s v s
  | template {name : Text} {s s' : Registry × Interaction} {w v : Variable} {ps : List Piece}
      (hv : s.1.variableTable.get? name = some w) (hk : w.kind = .template)
      (hp : Parted s.1.isVariable w.value ps) (h : ReachesIn x ps s v s') : Reaches x name s v s'

inductive ReachesIn (x : Context) :
    List Piece → Registry × Interaction → Variable → Registry × Interaction → Prop
  | literal {c : Char} {ps : List Piece} {s s' : Registry × Interaction} {v : Variable}
      (h : ReachesIn x ps s v s') : ReachesIn x (.literal c :: ps) s v s'
  | here {name : Text} {ps : List Piece} {s s' : Registry × Interaction} {v : Variable}
      (h : Reaches x name s v s') : ReachesIn x (.reference name :: ps) s v s'
  | after {name t : Text} {ps : List Piece} {s s₁ s' : Registry × Interaction} {v : Variable}
      (hn : Expands x name s t s₁) (h : ReachesIn x ps s₁ v s') :
      ReachesIn x (.reference name :: ps) s v s'

end

def Variable.Succeeds (v : Variable) (x : Context) (s : Registry × Interaction) : Prop :=
  ∃ t s', v.expand x s = (.ok t, s')

section levels

variable {x : Context} {n : Nat} {name t : Text} {s s' : Registry × Interaction} {v : Variable}
  {f : Text → Expansion} {ps : List Piece}

lemma expandPieces_literal {c : Char} :
    expandPieces f (.literal c :: ps) s = (.ok t, s') ↔
      ∃ u, expandPieces f ps s = (.ok u, s') ∧ t = c :: u := by
  rw [expandPieces]
  split <;> rename_i he <;> simp [he, eq_comm, and_comm]

lemma expandPieces_reference :
    expandPieces f (.reference name :: ps) s = (.ok t, s') ↔
      ∃ u s₁ u', f name s = (.ok u, s₁) ∧ expandPieces f ps s₁ = (.ok u', s') ∧ t = u ++ u' := by
  rw [expandPieces]
  constructor
  · intro h
    split at h
    · cases h
    · rename_i he
      split at h
      · rename_i he'
        cases h
        exact ⟨_, _, _, he, he', rfl⟩
      · cases h
  · rintro ⟨u, s₁, u', h, h', rfl⟩
    rw [h]
    simp only [h']

lemma expandWithin_leaf (hv : s.1.variableTable.get? name = some v) (hk : v.kind ≠ .template) :
    expandWithin x (n + 1) name s = v.expand x s := by
  rw [expandWithin]
  simp only [hv]
  split
  · rename_i he
    exact he.symm
  · rename_i he
    rw [if_neg hk]
    exact he.symm

lemma expandWithin_template (hv : s.1.variableTable.get? name = some v) (hk : v.kind = .template) :
    expandWithin x (n + 1) name s =
      expandPieces (expandWithin x n) (pieces s.1.isVariable v.value) s := by
  have he : v.expand x s = (.ok v.value, s) := by
    rw [Variable.expand, hk]
  rw [expandWithin]
  simp only [hv, he, if_pos hk]
  rfl

lemma expandWithin_unknown (hv : s.1.variableTable.get? name = none) :
    ∃ e, expandWithin x n name s = (.error e, s) := by
  cases n with
  | zero => exact ⟨_, rfl⟩
  | succ n => exact ⟨.unknownVariable name, by simp only [expandWithin, hv]⟩

lemma expandWithin_resembles (hk : s.1.Keyed) (h : expandWithin x n name s = (.ok t, s')) :
    s'.1.Resembles s.1 := by
  have hc := hk.caches (expandWithin_caches x n name s)
  rwa [h] at hc

def Completes (x : Context) (f : Text → Expansion) : Prop :=
  ∀ {name s t s'}, f name s = (.ok t, s') →
    ∀ {t₂ s₂}, Expands x name s t₂ s₂ ↔ (t₂, s₂) = (t, s')

def Checks (x : Context) (f : Text → Expansion) : Prop :=
  ∀ {name s t s'}, f name s = (.ok t, s') →
    ∀ {v s₁}, Reaches x name s v s₁ → v.Succeeds x s₁

lemma Completes.pieces (hf : Completes x f) (h : expandPieces f ps s = (.ok t, s')) {t₂ : Text}
    {s₂ : Registry × Interaction} : Fills x ps s t₂ s₂ ↔ (t₂, s₂) = (t, s') := by
  induction ps generalizing s t t₂ with
  | nil =>
    cases h
    refine ⟨fun hn => ?_, fun he => ?_⟩
    · cases hn
      rfl
    · cases he
      exact .nil
  | cons p ps ih =>
    cases p with
    | literal c =>
      obtain ⟨u, hu, rfl⟩ := expandPieces_literal.mp h
      refine ⟨fun hl => ?_, fun he => ?_⟩
      · cases hl with
        | literal hl =>
          cases (ih hu).mp hl
          rfl
      · cases he
        exact .literal ((ih hu).mpr rfl)
    | reference name =>
      obtain ⟨u, s₁, u', hn, hu, rfl⟩ := expandPieces_reference.mp h
      refine ⟨fun hr => ?_, fun he => ?_⟩
      · cases hr with
        | reference hn' hr =>
          cases (hf hn).mp hn'
          cases (ih hu).mp hr
          rfl
      · cases he
        exact .reference ((hf hn).mpr rfl) ((ih hu).mpr rfl)

lemma Checks.pieces (hf : Completes x f) (hl : Checks x f)
    (h : expandPieces f ps s = (.ok t, s')) {s₁ : Registry × Interaction}
    (hr : ReachesIn x ps s v s₁) : v.Succeeds x s₁ := by
  induction ps generalizing s t with
  | nil => cases hr
  | cons p ps ih =>
    cases hr with
    | literal hr =>
      obtain ⟨u, hu, -⟩ := expandPieces_literal.mp h
      exact ih hu hr
    | here hr =>
      obtain ⟨u, s₁, u', hn, -, -⟩ := expandPieces_reference.mp h
      exact hl hn hr
    | after hn' hr =>
      obtain ⟨u, s₁, u', hn, hu, -⟩ := expandPieces_reference.mp h
      cases (hf hn).mp hn'
      exact ih hu hr

lemma expandWithin_completes (x : Context) (n : Nat) : Completes x (expandWithin x n) := by
  induction n with
  | zero => exact nofun
  | succ n ih =>
    intro name s t s' h t₂ s₂
    cases hv : s.1.variableTable.get? name with
    | none =>
      obtain ⟨e, he⟩ := expandWithin_unknown (x := x) (n := n + 1) hv
      rw [he] at h
      cases h
    | some v =>
      by_cases hk : v.kind = .template
      · rw [expandWithin_template hv hk] at h
        rw [← ih.pieces h]
        refine ⟨fun he => ?_, fun hf => .template hv hk (parted_pieces ..) hf⟩
        cases he with
        | leaf hv' hk' =>
          cases hv.symm.trans hv'
          exact absurd hk hk'
        | template hv' _ hp hf =>
          cases hv.symm.trans hv'
          exact hp.eq_pieces ▸ hf
      · rw [expandWithin_leaf hv hk] at h
        refine ⟨fun he => ?_, fun he => ?_⟩
        · cases he with
          | leaf hv' _ he =>
            cases hv.symm.trans hv'
            cases h.symm.trans he
            rfl
          | template hv' hk' =>
            cases hv.symm.trans hv'
            exact absurd hk' hk
        · cases he
          exact .leaf hv hk h

lemma expandWithin_checks (x : Context) (n : Nat) : Checks x (expandWithin x n) := by
  induction n with
  | zero => exact nofun
  | succ n ih =>
    intro name s t s' h v s₁ hr
    cases hr with
    | leaf hv hk => exact ⟨t, s', (expandWithin_leaf hv hk).symm.trans h⟩
    | template hv hk hp hr =>
      rw [expandWithin_template hv hk] at h
      exact ih.pieces (expandWithin_completes x n) h (hp.eq_pieces ▸ hr)

lemma pieces_ne_ok {w : Text} (hs : s.1.Keyed) (hm : .reference w ∈ ps)
    (hw : ∀ {s₁ t s'}, s₁.1.Resembles s.1 → expandWithin x n w s₁ ≠ (.ok t, s')) :
    expandPieces (expandWithin x n) ps s ≠ (.ok t, s') := by
  intro h
  induction ps generalizing s t with
  | nil => cases hm
  | cons p ps ih =>
    cases p with
    | literal c =>
      obtain ⟨u, hu, -⟩ := expandPieces_literal.mp h
      exact ih hs (by simpa using hm) hw hu
    | reference name =>
      obtain ⟨u, s₁, u', hn, hu, -⟩ := expandPieces_reference.mp h
      have hs₁ := expandWithin_resembles hs hn
      rcases List.mem_cons.mp hm with he | hm
      · cases he
        exact hw ⟨hs, rfl⟩ hn
      · exact ih hs₁.1 hm (fun hr => hw (hr.trans hs₁)) hu

lemma expandWithin_of_chain (hs : s.1.Keyed) {path : List Text}
    (hc : (name :: path).IsChain s.1.Refers) (hn : n ≤ path.length) :
    expandWithin x n name s ≠ (.ok t, s') := by
  induction n generalizing name s t s' path with
  | zero => exact nofun
  | succ n ih =>
    obtain ⟨w, path, rfl⟩ := List.exists_cons_of_length_pos (Nat.lt_of_lt_of_le n.succ_pos hn)
    obtain ⟨⟨v, ps, hv, hk, hp, hm⟩, hc⟩ := List.isChain_cons_cons.mp hc
    rw [expandWithin_template hv hk, ← hp.eq_pieces]
    refine pieces_ne_ok hs hm fun {s₁ t s'} hr => ?_
    rw [← Registry.refers_stored hr.2] at hc
    exact ih hr.1 hc (Nat.le_of_succ_le_succ hn)

lemma exists_pieces (hs : s.1.Keyed)
    (hw : ∀ {w s₁}, .reference w ∈ ps → s₁.1.Resembles s.1 →
      (∀ v s₂, Reaches x w s₁ v s₂ → v.Succeeds x s₂) → ∃ t s', expandWithin x n w s₁ = (.ok t, s'))
    (hr : ∀ v s₁, ReachesIn x ps s v s₁ → v.Succeeds x s₁) :
    ∃ t s', expandPieces (expandWithin x n) ps s = (.ok t, s') := by
  induction ps generalizing s with
  | nil => exact ⟨[], s, rfl⟩
  | cons p ps ih =>
    cases p with
    | literal c =>
      obtain ⟨t, s', h⟩ := ih hs (fun hm => hw (List.mem_cons_of_mem _ hm))
        fun v s₁ hl => hr v s₁ (.literal hl)
      exact ⟨c :: t, s', expandPieces_literal.mpr ⟨t, h, rfl⟩⟩
    | reference name =>
      obtain ⟨u, s₁, hn⟩ := hw List.mem_cons_self ⟨hs, rfl⟩ fun v s₁ hl => hr v s₁ (.here hl)
      have hs₁ := expandWithin_resembles hs hn
      have he : Expands x name s u s₁ := (expandWithin_completes x n hn).mpr rfl
      obtain ⟨t, s', h⟩ := ih hs₁.1 (fun hm hl => hw (List.mem_cons_of_mem _ hm) (hl.trans hs₁))
        fun v s₂ hl => hr v s₂ (.after he hl)
      exact ⟨u ++ t, s', expandPieces_reference.mpr ⟨u, s₁, t, hn, h, rfl⟩⟩

lemma exists_within (hs : s.1.Keyed) (hv : s.1.isVariable name = true)
    (hc : ∀ path, (name :: path).IsChain s.1.Refers → path.length < n)
    (hr : ∀ v s₁, Reaches x name s v s₁ → v.Succeeds x s₁) :
    ∃ t s', expandWithin x n name s = (.ok t, s') := by
  induction n generalizing name s with
  | zero => exact absurd (hc [] (List.isChain_singleton name)) (Nat.lt_irrefl 0)
  | succ n ih =>
    obtain ⟨v, hv⟩ := Option.isSome_iff_exists.mp hv
    by_cases hk : v.kind = .template
    · have hp := parted_pieces s.1.isVariable v.value
      rw [expandWithin_template hv hk]
      refine exists_pieces hs (fun {w s₁} hm hl hreach => ih hl.1 ?_ (fun path hpath => ?_) hreach)
        fun v' s₁ hreach => hr v' s₁ (.template hv hk hp hreach)
      · rw [Registry.isVariable_stored hl.2]
        exact hp.known_of_mem hm
      · rw [Registry.refers_stored hl.2] at hpath
        have hrefers : s.1.Refers name w := ⟨v, _, hv, hk, hp, hm⟩
        exact Nat.lt_of_succ_lt_succ (hc (w :: path) (List.isChain_cons_cons.mpr ⟨hrefers, hpath⟩))
    · rw [expandWithin_leaf hv hk]
      exact hr v s (.leaf hv hk)

end levels

section limit

variable {x : Context} {name : Text} {s : Registry × Interaction}

lemma exists_chain_of_cycle {R : Text → Text → Prop} {w : Text} (h : Relation.ReflTransGen R name w)
    (hw : Relation.TransGen R w w) (n : Nat) :
    ∃ path, (name :: path).IsChain R ∧ path.length = n := by
  induction n generalizing name with
  | zero => exact ⟨[], List.isChain_singleton name, rfl⟩
  | succ n ih =>
    have hnext : ∃ u, R name u ∧ Relation.ReflTransGen R u w := by
      rcases h.cases_head with rfl | hnext
      · exact Relation.TransGen.head'_iff.mp hw
      · exact hnext
    obtain ⟨u, hu, hreach⟩ := hnext
    obtain ⟨path, hc, rfl⟩ := ih hreach
    exact ⟨u :: path, List.isChain_cons_cons.mpr ⟨hu, hc⟩, rfl⟩

lemma expand_of_chain (hs : s.1.Keyed) {path : List Text}
    (hc : (name :: path).IsChain s.1.Refers) (hn : 16 < path.length) :
    ∃ e s', expand x name s = (.error e, s') := by
  cases he : expand x name s with
  | mk res s' =>
    cases res with
    | error e => exact ⟨e, s', rfl⟩
    | ok t => exact absurd he (expandWithin_of_chain hs hc hn)

lemma expand_succeeds_iff (hs : s.1.Keyed) :
    (∃ t s', expand x name s = (.ok t, s')) ↔
      s.1.isVariable name = true ∧
        (∀ path, (name :: path).IsChain s.1.Refers → path.length ≤ 16) ∧
        ∀ v s₁, Reaches x name s v s₁ → v.Succeeds x s₁ := by
  constructor
  · rintro ⟨t, s', h⟩
    refine ⟨?_, fun path hc => ?_, fun v s₁ hr => expandWithin_checks x _ h hr⟩
    · cases hv : s.1.variableTable.get? name with
      | none =>
        obtain ⟨e, he⟩ := expandWithin_unknown (x := x) (n := maxTemplateDepth + 1) hv
        rw [expand, he] at h
        cases h
      | some v => exact Option.isSome_of_eq_some hv
    · by_contra hn
      exact expandWithin_of_chain hs hc (Nat.not_le.mp hn) h
  · rintro ⟨hv, hc, hr⟩
    exact exists_within hs hv (fun path hpath => Nat.lt_succ_of_le (hc path hpath)) hr

/-- An expansion that succeeds is the complete one. It does succeed if every leaf on its way does
and no more than sixteen references are to be followed in a row; more than that are an error, and
so is a reference that leads back to where it started. -/
theorem expand_complete (x : Context) (name : Text) (hs : s.1.Keyed) :
    (∀ t s', expand x name s = (.ok t, s') →
      ∀ t₂ s₂, Expands x name s t₂ s₂ ↔ (t₂, s₂) = (t, s')) ∧
    ((∃ t s', expand x name s = (.ok t, s')) ↔
      s.1.isVariable name = true ∧
        (∀ path, (name :: path).IsChain s.1.Refers → path.length ≤ 16) ∧
        ∀ v s₁, Reaches x name s v s₁ → v.Succeeds x s₁) ∧
    (∀ path, (name :: path).IsChain s.1.Refers → 16 < path.length →
      ∃ e s', expand x name s = (.error e, s')) ∧
    ∀ w, Relation.ReflTransGen s.1.Refers name w → Relation.TransGen s.1.Refers w w →
      ∃ e s', expand x name s = (.error e, s') := by
  refine ⟨fun t s' h t₂ s₂ => expandWithin_completes x _ h, expand_succeeds_iff hs,
    fun path hc hn => expand_of_chain hs hc hn, fun w hr hw => ?_⟩
  obtain ⟨path, hc, hl⟩ := exists_chain_of_cycle hr hw 17
  exact expand_of_chain hs hc (by omega)

theorem sample_expand_complete :
    let who : Variable := { name := "Who".toList, kind := .inputOnce }
    let head : Variable :=
      { name := "Head".toList, kind := .template, value := "@x@Who@ @Line@ @ @Who@".toList }
    let line : Variable := { name := "Line".toList, kind := .builtin }
    let loop : Variable := { name := "Loop".toList, kind := .template, value := "<@Loop@>".toList }
    let r :=
      (((({} : Registry).setVariable who).setVariable head).setVariable line).setVariable loop
    let s : Registry × Interaction := (r, { dialog := .scripted [some "me".toList] })
    r.Keyed ∧ (∃ s', Expands { line := 4 } head.name s "@xme 5 @ me".toList s') ∧
      ∃ e s', expand { line := 4 } loop.name s = (.error e, s') := by
  intro who head line loop r s
  have hk : r.Keyed :=
    (((Registry.keyed_empty.setVariable who).setVariable head).setVariable line).setVariable loop
  have hhead := (expand_complete (s := s) { line := 4 } head.name hk).1
  have hloop := (expand_complete (s := s) { line := 4 } loop.name hk).2.2.2
  have hcycle : r.Refers loop.name loop.name :=
    ⟨loop, _, by decide, rfl, parted_pieces _ _, by decide +kernel⟩
  refine ⟨hk, ?_, hloop _ .refl (.single hcycle)⟩
  have h : (expand { line := 4 } head.name s).1 = .ok "@xme 5 @ me".toList := by decide +kernel
  exact ⟨_, (hhead _ _ (Prod.ext h rfl) _ _).mpr rfl⟩

end limit

end ModalEdit.Macro
