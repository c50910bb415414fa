import ModalEdit.Macro.Document
import ModalEdit.Proofs.MacroNames
import ModalEdit.Proofs.TokenReading

namespace ModalEdit.Toml.Entries

variable {pre : Entries} {k : Text}

lemma lookup_last (hk : k ∉ pre.map (·.1)) (v : Value) : (pre ++ [(k, v)]).lookup k = some v := by
  induction pre with
  | nil => simp
  | cons e pre ih =>
    rw [List.map_cons, List.mem_cons, not_or] at hk
    have he : (k == e.1) = false := by simpa using hk.1
    rw [List.cons_append, List.lookup_cons, he]
    exact ih hk.2

lemma lookup_none (hk : k ∉ pre.map (·.1)) : pre.lookup k = none := by
  rw [List.lookup_eq_none_iff]
  intro e he
  simpa using fun h : k = e.1 => hk (h ▸ List.mem_map_of_mem he)

lemma replace_last (hk : k ∉ pre.map (·.1)) (v v' : Value) :
    (pre ++ [(k, v)]).replace k v' = pre ++ [(k, v')] := by
  induction pre with
  | nil => simp [replace]
  | cons e pre ih =>
    rw [List.map_cons, List.mem_cons, not_or] at hk
    rw [List.cons_append, replace, if_neg hk.1, ih hk.2, List.cons_append]

def Focused (f : Entries → Entries) (path : List Text) : Prop :=
  ∀ (g : Entries → Option Entries) (es : Entries), (f es).modify? g path = (g es).map f

lemma focused_table (hk : k ∉ pre.map (·.1)) (o : Origin) :
    Focused (fun es => pre ++ [(k, .table o es)]) [k] := by
  intro g es
  simp only [modify?, lookup_last hk, replace_last hk]

lemma focused_element (hk : k ∉ pre.map (·.1)) (items : List Value) :
    Focused (fun es => pre ++ [(k, .array true (items ++ [.table .header es]))]) [k] := by
  intro g es
  simp only [modify?, lookup_last hk, replace_last hk, List.getLast?_concat, List.dropLast_concat]

lemma openTable?_new (hk : k ∉ pre.map (·.1)) :
    pre.openTable? [k] = some (pre ++ [(k, .table .header [])]) := by
  simp [openTable?, descend?, lookup_none hk, add]

def withElements (pre : Entries) (k : Text) (items : List Value) : Entries :=
  if items = [] then pre else pre ++ [(k, .array true items)]

lemma openElement?_withElements (hk : k ∉ pre.map (·.1)) (items : List Value) :
    (withElements pre k items).openElement? [k] =
      some (pre ++ [(k, .array true (items ++ [.table .header []]))]) := by
  rw [withElements]
  split
  · rename_i h
    simp [openElement?, descend?, lookup_none hk, add, h]
  · simp [openElement?, descend?, lookup_last hk, replace_last hk]

end ModalEdit.Toml.Entries

namespace ModalEdit.Macro

open Toml Toml.State

def textEntries (kvs : List (Text × Text)) : Entries := kvs.map fun e => (e.1, .text e.2)

namespace Variable

def stored (v : Variable) : Variable := { v with cached := none }

def lines (v : Variable) : List (Text × Text) :=
  [("name".toList, v.name), ("kind".toList, v.kind.name.toList)] ++
    (if v.value.isEmpty then [] else [("value".toList, v.value)]) ++
    v.prompt.toList.map fun p => ("prompt".toList, p)

lemma lines_nodup (v : Variable) : (v.lines.map (·.1)).Nodup := by
  rw [lines]
  cases v.prompt <;> split <;> simp

def element (v : Variable) : Value := .table .header (textEntries v.lines)

lemma ofName?_name (k : VariableKind) : VariableKind.ofName? k.name.toList = some k := by
  cases k <;> decide

lemma fields?_element (v : Variable) :
    v.element.fields? ["name", "kind", "value", "prompt"] =
      some [some (.text v.name), some (.text v.kind.name.toList),
        if v.value.isEmpty then none else some (.text v.value), v.prompt.map .text] := by
  obtain ⟨name, kind, value, prompt, cached⟩ := v
  cases prompt <;> cases value <;> rfl

lemma ofValue?_element (v : Variable) : ofValue? v.element = some v.stored := by
  have hf := fields?_element v
  obtain ⟨name, kind, value, prompt, cached⟩ := v
  have hk := ofName?_name kind
  rw [ofValue?, hf]
  cases prompt <;> cases value <;>
    simp [Value.text?, Value.variant?, Value.withDefault, Value.optional, stored, hk]

end Variable

namespace Registry

lemma writeVariable_eq (v : Variable) :
    writeVariable v =
      "\n[[variable]]\n".toList ++ v.lines.flatMap fun e => writeEntry e.1 e.2 := by
  unfold writeVariable Variable.lines
  generalize "\n[[variable]]\n".toList = header
  cases v.prompt <;> split <;>
    simp only [List.flatMap_append, List.flatMap_cons, List.flatMap_nil, List.append_nil,
      List.append_assoc, Option.toList_none, Option.toList_some, List.map_nil, List.map_cons]

lemma feed_entries {f : Entries → Entries} {current : List Text} (hf : Entries.Focused f current)
    (kvs done : List (Text × Text)) (hn : ((done ++ kvs).map (·.1)).Nodup) (r : Text) :
    (between (f (textEntries done)) current).feed []
        ((kvs.flatMap fun e => writeEntry e.1 e.2) ++ r) =
      (between (f (textEntries (done ++ kvs))) current).feed [] r := by
  -- the entries `done` of the lines before are in the table, and no key comes twice
  induction kvs generalizing done with
  | nil => simp
  | cons e kvs ih =>
    have hnew : (textEntries done).insertDotted? [e.1] (.text e.2) =
        some (textEntries (done ++ [e])) := by
      have hk : e.1 ∉ (textEntries done).map (·.1) := by
        intro hm
        have hd : e.1 ∈ done.map (·.1) := by simpa [textEntries] using hm
        rw [List.map_append] at hn
        exact (List.nodup_append.mp hn).2.2 _ hd _ List.mem_cons_self rfl
      rw [Entries.insertDotted?, Entries.lookup_none hk]
      simp [Entries.add, textEntries]
    have hplace : place (f (textEntries done)) current e.1 (.text e.2) =
        some (f (textEntries (done ++ [e]))) := by
      rw [place, hf, hnew, Option.map_some]
    rw [List.append_cons] at hn ⊢
    rw [← ih _ hn, List.flatMap_cons, List.append_assoc, writeEntry, feed_entry, hplace,
      Option.bind_some]

lemma feed_macros {pre : Entries} (hpre : "macros".toList ∉ pre.map (·.1)) (current : List Text)
    (r : Registry) (rest : Text) :
    (between pre current).feed [] (r.writeMacros ++ rest) =
      (between (pre ++ [("macros".toList, .table .header (textEntries r.macros.entries))])
        ["macros".toList]).feed [] rest := by
  have hw : r.writeMacros ++ rest = '[' :: ("macros".toList ++ ']' :: '\n' ::
      ((r.macros.entries.flatMap fun e => writeEntry e.1 e.2) ++ rest)) := by
    unfold writeMacros
    rw [List.append_assoc]
    rfl
  rw [hw, feed_header (k := "macros".toList) pre current (by decide), Entries.openTable?_new hpre]
  exact feed_entries (Entries.focused_table hpre .header) _ [] (Table.keys_nodup r.macros) rest

lemma feed_variable {pre : Entries} (hpre : "variable".toList ∉ pre.map (·.1))
    (current : List Text) (items : List Value) (v : Variable) (rest : Text) :
    (between (Entries.withElements pre "variable".toList items) current).feed []
        (writeVariable v ++ rest) =
      (between (Entries.withElements pre "variable".toList (items ++ [v.element]))
        ["variable".toList]).feed [] rest := by
  have hw : writeVariable v ++ rest = '\n' :: '[' :: '[' :: ("variable".toList ++ ']' :: ']' ::
      '\n' :: ((v.lines.flatMap fun e => writeEntry e.1 e.2) ++ rest)) := by
    rw [writeVariable_eq, List.append_assoc]
    rfl
  have hfocus := Entries.focused_element hpre items
  have hlines := feed_entries hfocus v.lines [] v.lines_nodup rest
  rw [hw, feed_blankLine, feed_elementHeader (k := "variable".toList) _ current (by decide),
    Entries.openElement?_withElements hpre]
  refine hlines.trans ?_
  rw [Entries.withElements, if_neg (List.append_ne_nil_of_right_ne_nil _ (List.cons_ne_nil _ _))]
  rfl

lemma feed_variables {pre : Entries} (hpre : "variable".toList ∉ pre.map (·.1))
    (current : List Text) (items : List Value) (vs : List Variable) :
    ∃ current', (between (Entries.withElements pre "variable".toList items) current).feed []
        (vs.flatMap writeVariable) =
      some (between (Entries.withElements pre "variable".toList (items ++ vs.map Variable.element))
        current') := by
  induction vs generalizing current items with
  | nil => exact ⟨current, by simp⟩
  | cons v vs ih =>
    obtain ⟨current', hv⟩ := ih ["variable".toList] (items ++ [v.element])
    refine ⟨current', ?_⟩
    rw [List.flatMap_cons, feed_variable hpre, hv, List.map_cons, List.append_assoc,
      List.singleton_append]

def macrosEntry (r : Registry) : Text × Value :=
  ("macros".toList, .table .header (textEntries r.macros.entries))

lemma read?_writeMacros (r : Registry) :
    Toml.read? ("variable = []\n\n".toList ++ r.writeMacros) =
      some [("variable".toList, .array false []), r.macrosEntry] := by
  have hw : "variable = []\n\n".toList ++ r.writeMacros =
      writeKey "variable".toList ++ " = ".toList ++ '[' :: ']' :: '\n' :: ('\n' ::
        (r.writeMacros ++ [])) := by
    rw [List.append_nil]
    rfl
  have hplace : place [] [] "variable".toList (.array false []) =
      some [("variable".toList, .array false [])] := rfl
  rw [read?_feed (c := 'v') rfl (by decide), hw]
  change ((between [] []).feed [] _).bind finish = _
  rw [feed_emptyArray, hplace, Option.bind_some, feed_blankLine, feed_macros (by decide),
    feed_nil, Option.bind_some, finish_between]
  rfl

lemma read?_writeAll (r : Registry) {vs : List Variable} (hvs : vs ≠ []) :
    Toml.read? (r.writeMacros ++ vs.flatMap writeVariable) =
      some [r.macrosEntry, ("variable".toList, .array true (vs.map Variable.element))] := by
  have hpre : "variable".toList ∉ [r.macrosEntry].map (·.1) := by
    change "variable".toList ∉ ["macros".toList]
    decide
  obtain ⟨current, hv⟩ := feed_variables hpre ["macros".toList] [] vs
  rw [read?_feed (c := '[') rfl (by decide)]
  change ((between [] []).feed [] _).bind finish = _
  rw [feed_macros (by simp)]
  change ((between (Entries.withElements [r.macrosEntry] "variable".toList []) _).feed [] _).bind
    finish = _
  rw [hv, Option.bind_some, finish_between]
  simp [Entries.withElements, hvs]

lemma macrosOf?_textEntries (o : Origin) (kvs : List (Text × Text)) :
    macrosOf? (.table o (textEntries kvs)) = some kvs := by
  induction kvs with
  | nil => rfl
  | cons e kvs ih =>
    simp only [macrosOf?, textEntries, List.map_cons, List.mapM_cons] at ih ⊢
    rw [ih]
    rfl

lemma variablesOf?_element (written : Bool) (vs : List Variable) :
    variablesOf? (.array written (vs.map Variable.element)) = some (vs.map Variable.stored) := by
  induction vs with
  | nil => rfl
  | cons v vs ih =>
    simp only [variablesOf?, List.map_cons, List.mapM_cons] at ih ⊢
    rw [ih, Variable.ofValue?_element]
    rfl

def variableList (r : Registry) : List Variable := r.variableTable.entries.map (·.2)

lemma read?_write (r : Registry) :
    (Toml.read? r.write).bind parts? = some (r.macros, r.variableList.map Variable.stored) := by
  have hmacros : Value.withDefault [] macrosOf? (some r.macrosEntry.2) = some r.macros.entries :=
    macrosOf?_textEntries .header r.macros.entries
  rw [write]
  split
  · rename_i he
    have hvs : r.variableList = [] := by simpa [variableList] using he
    rw [read?_writeMacros, Option.bind_some, parts?]
    change ((Value.withDefault [] macrosOf? (some r.macrosEntry.2)).bind fun macros => _) = _
    rw [hmacros, hvs]
    exact congrArg (fun t => some (t, [])) (Table.foldl_insert_entries r.macros)
  · rename_i he
    have hvs : r.variableList ≠ [] := by simpa [variableList] using he
    have hr := read?_writeAll r hvs
    rw [variableList, List.flatMap_map] at hr
    refine (congrArg (·.bind parts?) hr).trans ?_
    rw [Option.bind_some, parts?]
    change ((Value.withDefault [] macrosOf? (some r.macrosEntry.2)).bind fun macros =>
      (variablesOf? (.array true (r.variableList.map Variable.element))).bind fun vs => _) = _
    rw [hmacros, variablesOf?_element]
    exact congrArg (fun t => some (t, _)) (Table.foldl_insert_entries r.macros)

/-- All names are valid. Variables get into their table only under their own names. -/
structure Valid (r : Registry) : Prop where
  names : ∀ name ∈ r.names, isValidName name = true
  keyed : ∀ e ∈ r.variableTable.entries, e.2.name = e.1

def stored (r : Registry) : Table Variable := r.variableTable.mapValues Variable.stored

lemma Valid.foldl_stored {r : Registry} (h : r.Valid) :
    (r.variableList.map Variable.stored).foldl (fun t v => t.insert v.name v) {} = r.stored := by
  have he : (r.variableList.map Variable.stored).map (fun v => (v.name, v)) = r.stored.entries := by
    rw [variableList, List.map_map, List.map_map]
    exact List.map_congr_left fun e he => Prod.ext (h.keyed e he) rfl
  rw [← Table.foldl_insert_entries r.stored, ← he, List.foldl_map (l := r.variableList.map _)]

/-- What is written of a registry is read back: the macros, and the variables without the answers
that are only cached. -/
theorem read_write {r : Registry} (h : r.Valid) :
    read r.write = .ok { macros := r.macros, variableTable := r.stored, last := none
                         modified := false, path := none } := by
  have hm : r.macros.keys.find? (!isValidName ·) = none := by
    rw [List.find?_eq_none]
    intro name hn
    simpa using h.names name (mem_names_iff_keys.mpr (.inl hn))
  have hv : ((r.variableList.map Variable.stored).map (·.name)).find? (!isValidName ·) = none := by
    rw [List.find?_eq_none, variableList, List.map_map, List.map_map]
    intro name hn
    obtain ⟨e, he, rfl⟩ := List.mem_map.mp hn
    have hk : e.1 ∈ r.variableTable.keys := List.mem_map_of_mem he
    simpa [Variable.stored, h.keyed e he] using h.names e.1 (mem_names_iff_keys.mpr (.inr hk))
  rw [read, read?_write]
  simp only [ofParts, hm, hv, h.foldl_stored]

theorem read_write_control_characters :
    let ask : Variable :=
      { name := "Straße".toList, kind := .inputOnce, value := "\"\\".toList, prompt := some [] }
    let r := (({} : Registry).set "a".toList "i'''\r\n\x1b\"\"\"".toList).setVariable
      { ask with cached := some "me".toList }
    let stored := ({} : Table Variable).insert ask.name ask
    r.Valid ∧ read r.write = .ok { macros := r.macros, variableTable := stored } := by
  intro ask r stored
  have h : r.Valid := ⟨by decide +kernel, by decide⟩
  exact ⟨h, read_write h⟩

end Registry

end ModalEdit.Macro
