import Mathlib.Tactic.Common
import ModalEdit.Text.Table

namespace ModalEdit

variable {α β : Type}

lemma Text.before_irrefl (t : Text) : ¬Text.before t t := by
  induction t with
  | nil => simp [Text.before]
  | cons c cs ih => simpa [Text.before] using ih

lemma lookup_insertEntry_self (k : Text) (a : α) (es : List (Text × α)) :
    (insertEntry k a es).lookup k = some a := by
  induction es with
  | nil => simp [insertEntry]
  | cons e es ih =>
    obtain ⟨k', a'⟩ := e
    rw [insertEntry]
    split_ifs with hb he
    · simp
    · simp
    · have hn : (k == k') = false := by simpa using he
      rw [List.lookup_cons, hn]
      exact ih

lemma lookup_insertEntry_of_ne {k k' : Text} (h : k' ≠ k) (a : α) (es : List (Text × α)) :
    (insertEntry k a es).lookup k' = es.lookup k' := by
  have hk : (k' == k) = false := by simpa using h
  induction es with
  | nil => simp [insertEntry, h]
  | cons e es ih =>
    obtain ⟨k'', a''⟩ := e
    rw [insertEntry]
    split_ifs with hb he
    · rw [List.lookup_cons, hk]
    · subst he
      rw [List.lookup_cons, List.lookup_cons, hk]
    · rw [List.lookup_cons, List.lookup_cons, ih]

lemma insertEntry_insertEntry (k : Text) (a b : α) (es : List (Text × α)) :
    insertEntry k b (insertEntry k a es) = insertEntry k b es := by
  have hk : k.before k = false := Bool.eq_false_iff.mpr (Text.before_irrefl k)
  induction es with
  | nil => simp [insertEntry, hk]
  | cons e es ih =>
    obtain ⟨k', a'⟩ := e
    simp only [insertEntry]
    split_ifs with hb he
    · simp [insertEntry, hk]
    · simp [insertEntry, hk]
    · simp [insertEntry, hb, he, ih]

lemma map_insertEntry {k : Text} {a b : α} {f : α → β} {es : List (Text × α)}
    (hs : es.Pairwise fun e e' => e.1.before e'.1) (hk : es.lookup k = some b) (hf : f a = f b) :
    (insertEntry k a es).map (fun e => (e.1, f e.2)) = es.map fun e => (e.1, f e.2) := by
  induction es with
  | nil => cases hk
  | cons e es ih =>
    obtain ⟨hb, hs⟩ := List.pairwise_cons.mp hs
    rw [List.lookup_cons] at hk
    by_cases he : k = e.1
    · subst he
      simp only [beq_self_eq_true, Option.some.injEq] at hk
      have hb : ¬e.1.before e.1 := Text.before_irrefl e.1
      rw [insertEntry, if_neg hb, if_pos rfl, List.map_cons, List.map_cons, hf, ← hk]
    · rw [beq_eq_false_iff_ne.mpr he] at hk
      obtain ⟨e', he', hk'⟩ := List.lookup_isSome_iff.mp (Option.isSome_of_eq_some hk)
      have hb' : ¬k.before e.1 := fun h =>
        Text.before_irrefl k (Text.before_trans h (beq_iff_eq.mp hk' ▸ hb e' he'))
      rw [insertEntry, if_neg hb', if_neg he, List.map_cons, List.map_cons, ih hs hk]

lemma insertEntry_last {k : Text} {es : List (Text × α)} (h : ∀ e ∈ es, e.1.before k = true)
    (a : α) : insertEntry k a es = es ++ [(k, a)] := by
  induction es with
  | nil => rfl
  | cons e es ih =>
    obtain ⟨he, hes⟩ := List.forall_mem_cons.mp h
    have hb : ¬k.before e.1 := fun hb => Text.before_irrefl k (Text.before_trans hb he)
    have hk : k ≠ e.1 := fun hk => Text.before_irrefl k (by rw [← hk] at he; exact he)
    rw [insertEntry, if_neg hb, if_neg hk, ih hes, List.cons_append]

namespace Table

lemma ext {t t' : Table α} (h : t.entries = t'.entries) : t = t' := by
  obtain ⟨es, hs⟩ := t
  cases h
  rfl

lemma foldl_insert {es : List (Text × α)} (t : Table α)
    (h : (t.entries ++ es).Pairwise fun e e' => e.1.before e'.1) :
    (es.foldl (fun t e => t.insert e.1 e.2) t).entries = t.entries ++ es := by
  induction es generalizing t with
  | nil => rw [List.foldl_nil, List.append_nil]
  | cons e es ih =>
    have hl : ∀ e' ∈ t.entries, e'.1.before e.1 = true := fun e' he' =>
      (List.pairwise_append.mp h).2.2 e' he' e List.mem_cons_self
    have he : (t.insert e.1 e.2).entries = t.entries ++ [e] := insertEntry_last hl e.2
    rw [List.append_cons, ← he] at h
    rw [List.foldl_cons, ih _ h, he, List.append_assoc, List.singleton_append]

lemma foldl_insert_entries (t : Table α) :
    t.entries.foldl (fun t e => t.insert e.1 e.2) {} = t :=
  ext (foldl_insert {} t.sorted)

def mapValues (f : α → β) (t : Table α) : Table β :=
  ⟨t.entries.map fun e => (e.1, f e.2), List.pairwise_map.mpr t.sorted⟩

@[simp]
lemma keys_mapValues (f : α → β) (t : Table α) : (t.mapValues f).keys = t.keys := by
  simp only [keys, mapValues, List.map_map]
  rfl

lemma mapValues_insert {f : α → β} {t : Table α} {k : Text} {a b : α} (hk : t.get? k = some b)
    (hf : f a = f b) : (t.insert k a).mapValues f = t.mapValues f :=
  ext (map_insertEntry t.sorted hk hf)

lemma erase_of_not_contains {t : Table α} {k : Text} (hk : t.contains k = false) :
    t.erase k = t := by
  refine ext (List.filter_eq_self.mpr fun e he => ?_)
  rw [contains, get?, Option.isSome_eq_false_iff, Option.isNone_iff_eq_none,
    List.lookup_eq_none_iff] at hk
  exact bne_iff_ne.mpr fun h => beq_eq_false_iff_ne.mp (by simpa using hk e he) h.symm

lemma insert_insert (t : Table α) (k : Text) (a b : α) :
    (t.insert k a).insert k b = t.insert k b := by
  simp only [insert, insertEntry_insertEntry]

lemma get?_insert_self (t : Table α) (k : Text) (a : α) : (t.insert k a).get? k = some a :=
  lookup_insertEntry_self k a t.entries

lemma get?_insert_of_ne {k k' : Text} (h : k' ≠ k) (t : Table α) (a : α) :
    (t.insert k a).get? k' = t.get? k' :=
  lookup_insertEntry_of_ne h a t.entries

end Table

end ModalEdit
