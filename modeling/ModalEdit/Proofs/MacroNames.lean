import Mathlib.Data.List.Nodup
import ModalEdit.Macro.Registry
import ModalEdit.Proofs.Tables

namespace ModalEdit

lemma Text.startsWith_iff {s t : Text} : Text.startsWith s t = true ↔ t <+: s := by
  induction t generalizing s with
  | nil => simp [Text.startsWith]
  | cons b t ih =>
    cases s with
    | nil => simp [Text.startsWith]
    | cons a s =>
      rw [Text.startsWith, Bool.and_eq_true, beq_iff_eq, ih, List.cons_prefix_cons, eq_comm]

namespace Table

variable {α : Type}

lemma mem_keys_iff {t : Table α} {k : Text} : k ∈ t.keys ↔ t.contains k = true := by
  rw [contains, get?, List.lookup_isSome_iff, keys]
  constructor
  · intro hk
    obtain ⟨e, he, rfl⟩ := List.mem_map.mp hk
    exact ⟨e, he, by simp⟩
  · rintro ⟨e, he, hk⟩
    exact List.mem_map.mpr ⟨e, he, (beq_iff_eq.mp hk).symm⟩

lemma mem_keys_insert {t : Table α} {k k' : Text} {a : α} :
    k' ∈ (t.insert k a).keys ↔ k' = k ∨ k' ∈ t.keys := by
  rw [mem_keys_iff, mem_keys_iff, contains, contains]
  by_cases hk : k' = k
  · subst hk
    simp [get?_insert_self]
  · simp [get?_insert_of_ne hk, hk]

lemma mem_keys_foldl_insert (ks : List Text) (t : Table Unit) (k : Text) :
    k ∈ (ks.foldl (fun t k => t.insert k ()) t).keys ↔ k ∈ ks ∨ k ∈ t.keys := by
  induction ks generalizing t with
  | nil => simp
  | cons k' ks ih =>
    rw [List.foldl_cons, ih, mem_keys_insert, List.mem_cons]
    tauto

lemma keys_nodup (t : Table α) : t.keys.Nodup := by
  refine List.pairwise_map.mpr (t.sorted.imp fun {e e'} hb he => ?_)
  rw [he] at hb
  exact Text.before_irrefl _ hb

end Table

namespace Macro.Registry

variable {r : Registry} {name start : Text}

lemma mem_names : name ∈ r.names ↔ r.isRecorded name = true ∨ r.isVariable name = true := by
  unfold names isRecorded isVariable
  rw [Table.mem_keys_foldl_insert, Table.mem_keys_foldl_insert, Table.mem_keys_iff,
    Table.mem_keys_iff]
  simp [Table.keys]

lemma mem_names_iff_keys : name ∈ r.names ↔ name ∈ r.macros.keys ∨ name ∈ r.variableTable.keys := by
  rw [mem_names, Table.mem_keys_iff, Table.mem_keys_iff]
  exact .rfl

lemma mem_candidates : name ∈ r.candidates start ↔ name ∈ r.names ∧ start <+: name := by
  rw [candidates, List.mem_filter, Text.startsWith_iff]

lemma candidates_nodup (r : Registry) (start : Text) : (r.candidates start).Nodup :=
  (Table.keys_nodup _).filter _

lemma candidates_eq_singleton (hn : name ∈ r.names) (hs : start <+: name) :
    r.candidates start = [name] ↔ ∀ other ∈ r.names, start <+: other → other = name := by
  constructor
  · intro hc other ho hp
    have hm := mem_candidates.mpr ⟨ho, hp⟩
    rw [hc] at hm
    exact List.mem_singleton.mp hm
  · intro hall
    have hm : name ∈ r.candidates start := mem_candidates.mpr ⟨hn, hs⟩
    have heq : ∀ other ∈ r.candidates start, other = name := fun other ho =>
      hall other (mem_candidates.mp ho).1 (mem_candidates.mp ho).2
    have hd := candidates_nodup r start
    generalize r.candidates start = l at hm heq hd
    cases l with
    | nil => cases hm
    | cons x xs =>
      obtain ⟨rfl, hxs⟩ := List.forall_mem_cons.mp heq
      cases xs with
      | nil => rfl
      | cons y ys =>
        obtain rfl : y = x := hxs y List.mem_cons_self
        simp at hd

end Macro.Registry

end ModalEdit
