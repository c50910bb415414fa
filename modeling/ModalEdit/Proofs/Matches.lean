import ModalEdit.Line.Search
import ModalEdit.Proofs.Positions

namespace ModalEdit

open Text

namespace Pattern

structure Place.Parts (t : Text) (p : Place) : Prop where
  text : p.before.reverse ++ p.after = t
  byte : p.byte = byteLength p.before.reverse

def Bounds (t : Text) (saved : List (Nat × Nat)) : Prop := ∀ x ∈ saved, IsCharBoundary t x.2

variable {t : Text} {p : Pattern}

namespace Place.Parts

variable {place : Place} {before after : Text} {byte : Nat} {c : Char}

lemma ofByte (t : Text) (n : Nat) : (Place.ofByte t n).Parts t := by
  constructor <;> simp [Place.ofByte]

lemma boundary (h : place.Parts t) : IsCharBoundary t place.byte := by
  rw [← h.text, h.byte]
  exact isCharBoundary_between _ _

lemma next (h : Parts t ⟨before, c :: after, byte⟩) :
    Parts t ⟨c :: before, after, byte + c.utf8Size⟩ := by
  obtain ⟨ht, hb⟩ := h
  simp only at ht hb
  constructor <;> simp [← ht, hb]

end Place.Parts

namespace Thread

structure Within (t : Text) (thread : Thread) : Prop where
  parts : thread.place.Parts t
  bounds : Bounds t thread.saved

variable {thread : Thread} {i : Instruction} {us : List Thread} {saved : List (Nat × Nat)}

lemma Within.next (h : thread.Within t) (hn : thread.next i = .inl us) : ∀ u ∈ us, u.Within t := by
  obtain ⟨instruction, place, saved⟩ := thread
  obtain ⟨hp, hs⟩ := h
  cases i with
  | take s =>
    obtain ⟨before, - | ⟨c, after⟩, byte⟩ := place
    · cases hn
      exact List.forall_mem_nil _
    · simp only [Thread.next] at hn
      split at hn
      · cases hn
        exact List.forall_mem_singleton.mpr ⟨hp.next, hs⟩
      · cases hn
        exact List.forall_mem_nil _
  | check l =>
    simp only [Thread.next] at hn
    split at hn
    · cases hn
      exact List.forall_mem_singleton.mpr ⟨hp, hs⟩
    · cases hn
      exact List.forall_mem_nil _
  | save k =>
    cases hn
    exact List.forall_mem_singleton.mpr ⟨hp, List.forall_mem_cons.mpr ⟨hp.boundary, hs⟩⟩
  | jump j =>
    cases hn
    exact List.forall_mem_singleton.mpr ⟨hp, hs⟩
  | split j k =>
    cases hn
    exact List.forall_mem_cons.mpr ⟨⟨hp, hs⟩, List.forall_mem_singleton.mpr ⟨hp, hs⟩⟩
  | accept => cases hn

lemma Within.start {place : Place} (h : place.Parts t) :
    ∀ u ∈ [(⟨0, place, []⟩ : Thread)], u.Within t :=
  List.forall_mem_singleton.mpr ⟨h, fun _ hx => absurd hx List.not_mem_nil⟩

lemma next_saved (hn : thread.next i = .inr saved) : saved = thread.saved := by
  cases i with
  | accept => exact (Sum.inr.inj hn).symm
  | take s =>
    simp only [Thread.next] at hn
    split at hn
    · split at hn <;> cases hn
    · cases hn
  | _ => cases hn

lemma run_bounds {program : Array Instruction} {fuel : Nat} {ts : List Thread} {visited : Visited}
    (h : ∀ u ∈ ts, u.Within t) (hr : (run program fuel ts visited).1 = some saved) :
    Bounds t saved := by
  -- by induction on the steps: all threads on the stack are within the text
  induction fuel generalizing ts visited with
  | zero => cases hr
  | succ fuel ih =>
    cases ts with
    | nil => cases hr
    | cons thread ts =>
      obtain ⟨ht, hts⟩ := List.forall_mem_cons.mp h
      simp only [run] at hr
      split at hr
      · exact ih hts hr
      · split at hr
        · exact ih hts hr
        · split at hr
          · rename_i us hn
            exact ih (List.forall_mem_append.mpr ⟨ht.next hn, hts⟩) hr
          · rename_i hn
            obtain rfl := Option.some.inj hr
            exact next_saved hn ▸ ht.bounds

end Thread

lemma mem_of_lookup {saved : List (Nat × Nat)} {k n : Nat} (h : saved.lookup k = some n) :
    (k, n) ∈ saved := by
  obtain ⟨l₁, l₂, rfl, -⟩ := List.lookup_eq_some_iff.mp h
  exact List.mem_append_right _ List.mem_cons_self

lemma Bounds.slot {saved : List (Nat × Nat)} (h : Bounds t saved) (k : Nat) :
    IsCharBoundary t ((saved.lookup k).getD 0) := by
  cases hl : saved.lookup k with
  | none => exact isCharBoundary_zero t
  | some n => exact h _ (mem_of_lookup hl)

lemma searchFrom_bounds {program : Array Instruction} {fuel byte : Nat} {visited : Visited}
    {before after : Text} {m : Match} (h : Place.Parts t ⟨before, after, byte⟩)
    (hm : searchFrom program fuel visited before byte after = some m) :
    IsCharBoundary t m.start := by
  induction after generalizing visited before byte with
  | nil =>
    obtain ⟨saved, hs, rfl⟩ := Option.map_eq_some_iff.mp hm
    exact (Thread.run_bounds (Thread.Within.start h) hs).slot 0
  | cons c after ih =>
    unfold searchFrom at hm
    split at hm
    · rename_i saved _ hs
      obtain rfl := Option.some.inj hm
      exact (Thread.run_bounds (Thread.Within.start h) (congrArg Prod.fst hs)).slot 0
    · exact ih h.next hm

lemma find?_boundary {n : Nat} {m : Match} (hm : p.find? t n = some m) :
    IsCharBoundary t m.start :=
  searchFrom_bounds (Place.Parts.ofByte t n) hm

lemma findAllFrom_boundary {fuel byte : Nat} {last : Option Nat} :
    ∀ m ∈ p.findAllFrom t fuel byte last, IsCharBoundary t m.start := by
  induction fuel generalizing byte last with
  | zero => exact List.forall_mem_nil _
  | succ fuel ih =>
    unfold findAllFrom
    dsimp only
    split
    · rename_i m hf
      refine List.forall_mem_cons.mpr ⟨?_, ih⟩
      have hp := Place.Parts.ofByte t byte
      obtain ⟨m', hm', hf⟩ := Option.bind_eq_some_iff.mp hf
      split at hf
      · split at hf
        · rename_i ha
          refine searchFrom_bounds (Place.Parts.next ?_) hf
          exact ⟨ha ▸ hp.text, hp.byte⟩
        · cases hf
      · obtain rfl := Option.some.inj hf
        exact searchFrom_bounds hp hm'
    · exact List.forall_mem_nil _

end Pattern

open Pattern

theorem Finder.search_lands {p : Pattern} {d : SearchDirection} {t : Text} {cursor q : Position}
    (hq : p.finder.search? d t cursor = some q) : Lands t q := by
  obtain ⟨step, hs⟩ := List.exists_of_findSome?_eq_some hq
  obtain ⟨b, hb, rfl⟩ := Option.map_eq_some_iff.mp hs.2
  have hnext : ∀ {l : Text} {n : Nat}, p.finder.next? l n = some b → IsCharBoundary l b := by
    intro l n hn
    obtain ⟨m, hm, rfl⟩ := Option.map_eq_some_iff.mp hn
    exact find?_boundary hm
  cases d with
  | forward =>
    simp only [hit?] at hb
    split at hb
    · exact hnext hb
    · exact hnext (Option.filter_eq_some_iff.mp hb).1
  | backward =>
    obtain ⟨m, hm, rfl⟩ := List.mem_map.mp (List.mem_filter.mp (List.mem_of_getLast? hb)).1
    exact findAllFrom_boundary m hm

end ModalEdit
