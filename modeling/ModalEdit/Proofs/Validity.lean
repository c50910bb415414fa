import ModalEdit.Macro.Storage
import ModalEdit.Proofs.Document
import ModalEdit.Proofs.MacroCommands

namespace ModalEdit.Macro

namespace Registry

variable {r r' : Registry}

def Agrees (r r' : Registry) : Prop := r.macros = r'.macros ∧ r.stored = r'.stored

protected lemma Agrees.refl (r : Registry) : Agrees r r := ⟨rfl, rfl⟩

lemma Agrees.trans {r'' : Registry} (h : Agrees r r') (h' : Agrees r' r'') : Agrees r r'' :=
  ⟨h.1.trans h'.1, h.2.trans h'.2⟩

lemma mem_stored {e : Text × Variable} (he : e ∈ r.variableTable.entries) :
    (e.1, e.2.stored) ∈ r.stored.entries :=
  List.mem_map_of_mem (f := fun e => (e.1, Variable.stored e.2)) he

lemma keyed_stored (hk : ∀ e ∈ r.variableTable.entries, e.2.name = e.1) :
    ∀ e ∈ r.stored.entries, e.2.name = e.1 := by
  intro e he
  obtain ⟨e', he', rfl⟩ := List.mem_map.mp he
  exact hk e' he'

namespace Valid

lemma agrees (h : r.Valid) (ha : Agrees r' r) : r'.Valid where
  names name hn := by
    refine h.names name (mem_names_iff_keys.mpr ?_)
    rw [mem_names_iff_keys, ha.1, ← Table.keys_mapValues Variable.stored r'.variableTable] at hn
    rwa [show r'.variableTable.mapValues Variable.stored = r.stored from ha.2, stored,
      Table.keys_mapValues] at hn
  keyed e he := by
    have hs : (e.1, e.2.stored) ∈ r.stored.entries := ha.2 ▸ mem_stored he
    exact keyed_stored h.keyed (e.1, e.2.stored) hs

lemma set (h : r.Valid) {name : Text} (hn : isValidName name = true) (keys : Text) :
    (r.set name keys).Valid where
  names other ho := by
    rw [mem_names_iff_keys, Registry.set, Table.mem_keys_insert] at ho
    rcases ho with (rfl | ho) | ho
    · exact hn
    · exact h.names other (mem_names_iff_keys.mpr (.inl ho))
    · exact h.names other (mem_names_iff_keys.mpr (.inr ho))
  keyed := h.keyed

lemma setVariable (h : r.Valid) {v : Variable} (hv : isValidName v.name = true) :
    (r.setVariable v).Valid where
  names other ho := by
    rw [mem_names_iff_keys, Registry.setVariable, Table.mem_keys_insert] at ho
    rcases ho with ho | rfl | ho
    · exact h.names other (mem_names_iff_keys.mpr (.inl ho))
    · exact hv
    · exact h.names other (mem_names_iff_keys.mpr (.inr ho))
  keyed e he := by
    rcases mem_insertEntry he with rfl | he
    · rfl
    · exact h.keyed e he

lemma erase (h : r.Valid) (name : Text) : (r.erase name).Valid where
  names other ho := by
    refine h.names other (mem_names_iff_keys.mpr ?_)
    refine (mem_names_iff_keys.mp ho).imp_left fun hm => ?_
    obtain ⟨e, he, rfl⟩ := List.mem_map.mp hm
    exact List.mem_map_of_mem (List.mem_filter.mp he).1
  keyed := h.keyed

lemma name_eq (h : r.Valid) {name : Text} {v : Variable}
    (hv : r.variableTable.get? name = some v) : v.name = name := by
  obtain ⟨l₁, l₂, he, -⟩ := List.lookup_eq_some_iff.mp hv
  exact h.keyed (name, v) (he ▸ List.mem_append_right l₁ List.mem_cons_self)

lemma cache_agrees (h : r.Valid) {name : Text} {v : Variable}
    (hv : r.variableTable.get? name = some v) (answer : Text) : Agrees (r.cache v answer) r := by
  rw [← h.name_eq hv] at hv
  exact ⟨rfl, Table.mapValues_insert hv rfl⟩

lemma caches_agrees (h : r.Valid) (hc : Caches r r') : Agrees r' r := by
  induction hc with
  | none => exact .refl r
  | more _ hv answer ih => exact ((h.agrees ih).cache_agrees hv answer).trans ih

end Valid

lemma mem_foldl_insert (vs : List Variable) (t : Table Variable) :
    ∀ e ∈ (vs.foldl (fun t v => t.insert v.name v) t).entries,
      e ∈ t.entries ∨ e.2 ∈ vs ∧ e.2.name = e.1 := by
  induction vs generalizing t with
  | nil => exact fun e he => .inl he
  | cons v vs ih =>
    intro e he
    rcases ih (t.insert v.name v) e he with he | ⟨hm, hn⟩
    · rcases mem_insertEntry he with rfl | he
      · exact .inr ⟨List.mem_cons_self, rfl⟩
      · exact .inl he
    · exact .inr ⟨List.mem_cons_of_mem v hm, hn⟩

lemma ofParts_valid {macros : Table Text} {vs : List Variable}
    (h : ofParts macros vs = .ok r) : r.Valid ∧ r.modified = false := by
  simp only [ofParts] at h
  split at h
  · cases h
  · cases h
  · rename_i hm hv
    cases h
    have hvars := mem_foldl_insert vs {}
    refine ⟨⟨fun name hn => ?_, fun e he => ?_⟩, rfl⟩
    · rcases mem_names_iff_keys.mp hn with hn | hn
      · simpa using List.find?_eq_none.mp hm name hn
      · obtain ⟨e, he, rfl⟩ := List.mem_map.mp hn
        rcases hvars e he with he | ⟨hmem, hname⟩
        · cases he
        · simpa [hname] using List.find?_eq_none.mp hv e.2.name (List.mem_map_of_mem hmem)
    · rcases hvars e he with he | ⟨-, hname⟩
      · cases he
      · exact hname

lemma read_valid {t : Text} (h : read t = .ok r) : r.Valid ∧ r.modified = false := by
  rw [read] at h
  split at h
  · cases h
  · exact ofParts_valid h

lemma valid_empty (path : Option Text) : Valid { path } := ⟨nofun, nofun⟩

lemma load_spec {files : Files} {path : Text} (h : load files path = .ok r) :
    r.Valid ∧ r.path = some path ∧ r.modified = false := by
  rw [load] at h
  split at h
  · split at h
    · rename_i r' hr
      cases h
      obtain ⟨hv, hm⟩ := read_valid hr
      exact ⟨⟨hv.names, hv.keyed⟩, rfl, hm⟩
    · cases h
  · split at h
    · cases h
    · cases h
      exact ⟨valid_empty _, rfl, rfl⟩

lemma load_of_write (h : r.Valid) {files : Files} {path : Text}
    (hf : files.get? path = some r.write) : ∃ r', load files path = .ok r' ∧ Agrees r' r := by
  have hl : load files path =
      .ok { macros := r.macros, variableTable := r.stored, path := some path } := by
    simp only [load, hf, read_write h]
  refine ⟨_, hl, rfl, Table.ext ?_⟩
  simp only [stored, Table.mapValues, List.map_map]
  rfl

lemma load_save (h : r.Valid) {files : Files} {path : Text} (hp : r.path = some path)
    (hs : r.modified = false → ∃ r', load files path = .ok r' ∧ Agrees r' r) :
    ∃ r', load (save files r).1 path = .ok r' ∧ Agrees r' r := by
  cases hm : r.modified with
  | false => simpa only [save, hp, hm, Bool.false_eq_true, if_false] using hs hm
  | true =>
    simp only [save, hp, hm, if_true]
    exact load_of_write h (Table.get?_insert_self files path r.write)

end Registry

end ModalEdit.Macro
