import ModalEdit.Proofs.Extraction
import ModalEdit.Proofs.Inserting
import ModalEdit.Proofs.LineByLine

/-! Insertions at the edge of a block. The first row is typed into where the cursor stands, at the
end of the line if the edge is behind it; the other rows repeat what was typed if they reach the
edge. -/

namespace ModalEdit

open Text Grapheme

def Grapheme.insertAtColumn (column : Nat) (t l : Text) : Text :=
  if columnOf l l.byteLength < column then l else insertAt l (byteAtColumn l column) t

def BlockEdge.insertInto (b : BlockEdge) (t : Text) (ls : List Text) : List Text :=
  ls.mapIdx fun i l => if b.first ≤ i ∧ i ≤ b.last then insertAtColumn b.column t l else l

def VisualAction.linesLeft (a : VisualAction) (span : Span) (ls : List Text) : List Text :=
  match a, span with
  | .change, .block first last left right =>
    ls.mapIdx fun i l => if first ≤ i ∧ i ≤ last then offColumns left right l else l
  | _, _ => ls

namespace VisualAction

variable {first last left right n : Nat} {ls : List Text}

lemma linesLeft_length (a : VisualAction) (span : Span) :
    (a.linesLeft span ls).length = ls.length := by
  unfold linesLeft
  split
  · exact List.length_mapIdx ..
  · rfl

lemma linesLeft_unbroken (a : VisualAction) (hls : ∀ l ∈ ls, Unbroken l) (hle : left ≤ right) :
    ∀ l ∈ a.linesLeft (.block first last left right) ls, Unbroken l := by
  cases a
  case change =>
    exact unbroken_mapIdx hls (fun _ => Span.offColumns_unbroken hle) fun i => first ≤ i ∧ i ≤ last
  all_goals exact hls

end VisualAction

lemma Grapheme.columnOf_le (l : Text) (n : Nat) : columnOf l n ≤ columnOf l l.byteLength := by
  suffices h : ∀ k gs, (∀ g ∈ gs, g ≠ []) →
      columnsBefore n k gs ≤ columnsBefore (k + byteLength gs.flatten) k gs by
    have hall := h 0 _ (Unicode.clusters_ne_nil l)
    rwa [Unicode.clusters_flatten, Nat.zero_add] at hall
  intro k gs hgs
  induction gs generalizing k with
  | nil => exact Nat.le_refl _
  | cons g gs ih =>
    obtain ⟨hg, hgs⟩ := List.forall_mem_cons.mp hgs
    have hpos : 0 < byteLength g := Nat.pos_of_ne_zero (mt byteLength_eq_zero.mp hg)
    rw [columnsBefore, columnsBefore, List.flatten_cons, byteLength_append, ← Nat.add_assoc]
    rw [if_pos (show k < k + byteLength g + byteLength gs.flatten by omega)]
    split
    · exact Nat.add_le_add_left (ih (k + byteLength g) hgs) _
    · exact Nat.zero_le _

lemma Span.ofSelection_block (t : Text) {selection : Selection}
    (hk : selection.kind = .blockwise) : ∃ left right, ofSelection t selection =
      .block selection.start.line selection.stop.line left right ∧ left ≤ right ∧
      left ≤ columnOf (t.lineAt selection.start.line) selection.start.byte := by
  rw [ofSelection, hk]
  exact ⟨_, _, rfl, Nat.le_trans (Nat.min_le_left ..) (Nat.le_max_left ..),
    (Selection.start_stop_of (P := fun p => _ ≤ columnOf (t.lineAt p.line) p.byte)
      (Nat.min_le_left ..) (Nat.min_le_right ..)).1⟩

namespace Text

variable {s x l : Text} {i : Nat}

lemma insertAt_between (u v x : Text) : insertAt (u ++ v) (byteLength u) x = u ++ (x ++ v) := by
  rw [insertAt, takeBytes_left, dropBytes_left, List.append_assoc]

lemma insertAt_unbroken (hl : Unbroken l) (hx : Unbroken x) (n : Nat) :
    Unbroken (insertAt l n x) :=
  unbroken_append.mpr ⟨unbroken_append.mpr ⟨hl.takeBytes n, hx⟩, hl.dropBytes n⟩

lemma exists_column (hs : ∀ l ∈ s.lines, Unbroken l) (hi : i < s.lineCount) (column : Nat) :
    ∃ a b, s = a ++ b ∧ Ends a b i (byteAtColumn (s.lineAt i) column) ∧
      ∀ x, Unbroken x → lines (a ++ (x ++ b)) =
        s.lines.set i (insertAt (s.lineAt i) (byteAtColumn (s.lineAt i) column) x) := by
  obtain ⟨a, b, hab, h⟩ := exists_around hs hi
  have hl := lineAt_unbroken hs i
  have hb := byteAtColumn_boundary (s.lineAt i) column
  generalize byteAtColumn (s.lineAt i) column = n at hb ⊢
  obtain ⟨u, v, huv, rfl⟩ := isCharBoundary_iff.mp hb
  rw [huv] at hl
  obtain ⟨hu, hv⟩ := unbroken_append.mp hl
  refine ⟨a ++ u, v ++ b, ?_, h.ends hu _, fun x hx => ?_⟩
  · rw [List.append_assoc, ← List.append_assoc u, ← huv]
    exact hab
  · have hset := h.lines_set hl (insertAt_unbroken hl hx (byteLength u))
    rw [← huv, ← hab] at hset
    rw [← hset, huv, insertAt_between]
    simp only [List.append_assoc]

end Text

section rows

variable {s : Surface} {t l : Text} {i column : Nat} {b : BlockEdge}

lemma Grapheme.insertAtColumn_unbroken (hl : Unbroken l) (ht : Unbroken t) (column : Nat) :
    Unbroken (insertAtColumn column t l) := by
  unfold insertAtColumn
  split
  · exact hl
  · exact insertAt_unbroken hl ht _

lemma Typing.repeatInRow_mapsLine (ht : Unbroken t) (column : Nat) :
    Surface.MapsLine (insertAtColumn column t) (repeatInRow t column) := by
  intro s i hs hi _
  rw [repeatInRow, insertAtColumn]
  split
  · exact (set_lineAt hi).symm
  · obtain ⟨a, b, hab, hends, hset⟩ := exists_column hs hi column
    have ho : s.text.offsetOf ⟨i, byteAtColumn (s.lineAt i) column⟩ = byteLength a := by
      rw [hab]
      exact hends.offset
    rw [Surface.insert_between hab ho]
    exact hset t ht

lemma Typing.finish_lines (typing : Typing) (hb : typing.block = some b) (hne : typing.text ≠ [])
    (ht : Unbroken typing.text) (hs : ∀ l ∈ s.text.lines, Unbroken l) (hl : b.last < s.lineCount) :
    (∀ l ∈ (typing.finish .insertBlock s).text.lines, Unbroken l) ∧
      (typing.finish .insertBlock s).text.lines = s.text.lines.mapIdx fun i l =>
        if b.first < i ∧ i ≤ b.last then insertAtColumn b.column typing.text l else l := by
  have hfeed : '\n' ∉ typing.text := fun hm => by
    have hn := ht _ hm
    cases hn
  have hn : (lineRange (b.first + 1) b.last).Nodup := List.nodup_range' ..
  have h := (repeatInRow_mapsLine ht b.column).foldl hs hn fun i hi =>
    ⟨Nat.lt_of_le_of_lt (mem_lineRange.mp hi).2 hl,
      insertAtColumn_unbroken (lineAt_unbroken hs i) ht _⟩
  simp only [mem_lineRange, Nat.succ_le_iff] at h
  simp only [finish, ↓reduceIte, Surface.stepBack_text, repeatInBlock, hb, hne, hfeed, or_self]
  exact h

lemma BlockEdge.insertInto_unbroken {ls : List Text} (hls : ∀ l ∈ ls, Unbroken l) (ht : Unbroken t)
    (b : BlockEdge) : ∀ l ∈ b.insertInto t ls, Unbroken l :=
  unbroken_mapIdx hls (fun _ hl => insertAtColumn_unbroken hl ht _) _

section first

variable {ls : List Text} (hl : ls[b.first]? = some l)
include hl

lemma BlockEdge.insertInto_first (hle : b.first ≤ b.last) :
    (b.insertInto t ls)[b.first]? = some (insertAtColumn b.column t l) := by
  simp [insertInto, hl, hle]

lemma BlockEdge.insertInto_set (x : Text) :
    ((ls.set b.first x).mapIdx fun i l =>
        if b.first < i ∧ i ≤ b.last then insertAtColumn b.column t l else l) =
      (b.insertInto t ls).set b.first x := by
  have hlt : b.first < ls.length := (List.getElem?_eq_some_iff.mp hl).1
  refine List.ext_getElem? fun i => ?_
  simp only [insertInto, List.getElem?_mapIdx, List.getElem?_set, List.length_mapIdx]
  by_cases hi : b.first = i
  · subst hi
    simp [hlt]
  · simp [hi, Nat.lt_iff_le_and_ne]

lemma BlockEdge.insertInto_set_eq (hle : b.first ≤ b.last) (hne : t ≠ []) :
    (b.insertInto t ls).set b.first (insertAt l (byteAtColumn l b.column) t) = b.insertInto t ls ↔
      b.column ≤ columnOf l l.byteLength := by
  have hfirst := insertInto_first (t := t) hl hle
  have hlt := (List.getElem?_eq_some_iff.mp hfirst).1
  constructor
  · intro hset
    by_contra hshort
    have hget := congrArg (·[b.first]?) hset
    rw [List.getElem?_set_self hlt, hfirst, insertAtColumn,
      if_pos (Nat.lt_of_not_le hshort)] at hget
    obtain ⟨u, v, huv, hn⟩ := isCharBoundary_iff.mp (byteAtColumn_boundary l b.column)
    rw [← hn, huv, insertAt_between, Option.some.injEq, List.append_cancel_left_eq] at hget
    exact hne (List.append_left_eq_self.mp hget)
  · intro hwide
    rw [insertAtColumn, if_neg (Nat.not_lt_of_le hwide)] at hfirst
    rw [← (List.getElem?_eq_some_iff.mp hfirst).2]
    exact List.set_getElem_self hlt

lemma BlockEdge.joinLines_insertInto (hls : ∀ l ∈ ls, Unbroken l) (ht : Unbroken t)
    (hle : b.first ≤ b.last) (hne : t ≠ []) :
    Span.joinLines ((b.insertInto t ls).set b.first (insertAt l (byteAtColumn l b.column) t)) =
        Span.joinLines (b.insertInto t ls) ↔ b.column ≤ columnOf l l.byteLength := by
  have hinto := b.insertInto_unbroken hls ht
  have hsome : b.insertInto t ls ≠ [] :=
    List.ne_nil_of_mem (List.mem_of_getElem? (insertInto_first (t := t) hl hle))
  rw [← insertInto_set_eq hl hle hne]
  refine joinLines_inj (by simpa using hsome) (fun l' hl' => ?_) hsome hinto
  rcases List.mem_or_eq_of_mem_set hl' with hl' | rfl
  · exact hinto l' hl'
  · exact insertAt_unbroken (hls l (List.mem_of_getElem? hl)) ht _

end first

lemma VisualAction.apply_edge {a : VisualAction} {first last left right : Nat}
    (register : Option Char) (n : Nat) (hs : ∀ l ∈ s.text.lines, Unbroken l) (hl : last < s.lineCount)
    (hle : left ≤ right) (hedge : a.edge? (.block first last left right) = some b) :
    b.first = first ∧ b.last = last ∧
      (a.apply s (.block first last left right) register n).1.text.lines =
        a.linesLeft (.block first last left right) s.text.lines ∧
      (a.apply s (.block first last left right) register n).2 = ⟨b.first, byteAtColumn
        ((a.apply s (.block first last left right) register n).1.lineAt b.first) b.column⟩ := by
  cases a <;> cases hedge
  case insertLeft => exact ⟨rfl, rfl, rfl, rfl⟩
  case appendRight => exact ⟨rfl, rfl, rfl, rfl⟩
  case change => exact ⟨rfl, rfl, Span.erase_block_lines hs hl hle, rfl⟩

structure Surface.AtEdge (x y l : Text) (b : BlockEdge) (s : Surface) : Prop where
  unbroken : ∀ l ∈ s.text.lines, Unbroken l
  first : s.text.lines[b.first]? = some l
  rows : b.first ≤ b.last ∧ b.last < s.lineCount
  between : s.Between x y []
  inserted : ∀ t, Unbroken t →
    lines (x ++ (t ++ y)) = s.text.lines.set b.first (insertAt l (byteAtColumn l b.column) t)

lemma Surface.exists_atEdge (hs : ∀ l ∈ s.text.lines, Unbroken l) (hle : b.first ≤ b.last)
    (hl : b.last < s.lineCount) (hc : s.cursor =
      s.text.clamp ⟨b.first, byteAtColumn (s.lineAt b.first) b.column⟩) :
    ∃ x y l, s.AtEdge x y l b := by
  have hi : b.first < s.lineCount := Nat.lt_of_le_of_lt hle hl
  obtain ⟨x, y, hxy, hends, hset⟩ := exists_column hs hi b.column
  have hcursor : s.cursor = ⟨b.first, byteAtColumn (s.lineAt b.first) b.column⟩ := by
    have hv := hends.valid
    rw [← hxy] at hv
    exact hc.trans (clamp_of_valid hv)
  refine ⟨x, y, _, hs, getElem?_lines hi, ⟨hle, hl⟩, ⟨hxy, ?_, ?_⟩, hset⟩
  · rw [hcursor, List.append_nil]
    exact hends
  · rw [List.append_nil]
    intro hm
    have hr := feedsOnly_of_unbroken hs '\r' (hxy ▸ List.mem_append_left y hm) rfl
    cases hr

lemma VisualAction.apply_atEdge {a : VisualAction} {first last left right : Nat}
    (register : Option Char) (n : Nat) (hs : ∀ l ∈ s.text.lines, Unbroken l)
    (hin : first ≤ last ∧ last < s.lineCount) (hle : left ≤ right)
    (hedge : a.edge? (.block first last left right) = some b) {s' : Surface}
    (hs' : { Surface.landed (a.apply s (.block first last left right) register n) with
      selection := none } = s') :
    s'.text.lines = a.linesLeft (.block first last left right) s.text.lines ∧
      ∃ x y l, s'.AtEdge x y l b := by
  obtain ⟨hfirst, hlast, htext, hplace⟩ := apply_edge register n hs hin.2 hle hedge
  generalize a.apply s (.block first last left right) register n = r at htext hplace hs'
  subst hs'
  refine ⟨htext, Surface.exists_atEdge ?_ (hfirst ▸ hlast ▸ hin.1) ?_ (congrArg r.1.text.clamp hplace)⟩
  · change ∀ l ∈ r.1.text.lines, Unbroken l
    rw [htext]
    exact a.linesLeft_unbroken hs hle
  · change b.last < r.1.text.lineCount
    rw [lineCount_eq_length, htext, linesLeft_length, ← lineCount_eq_length, hlast]
    exact hin.2

end rows

namespace Engine

variable {e : Engine} {h : Host} {s : Surface} {selection : Selection} {a : VisualAction}
  {edge : BlockEdge} {key : Char} {register : Option Char} {n : Nat} {q t x y v : Text} {p : Prefix}

lemma Inserts.type_plain {m : Mode} {typing : Typing} (he : e.Inserts m s typing)
    (hi : m.isInsert = true) (ho : typing.overwrite = false) (hb : s.Between x y v)
    (ht : ∀ k ∈ t, Typable k) :
    ∃ s', (e.type h t).1.Inserts m s' { typing with text := typing.text ++ t } ∧
      s'.Between x y (v ++ t) := by
  induction t generalizing e s typing v with
  | nil =>
    rw [List.append_nil, List.append_nil]
    exact ⟨s, he, hb⟩
  | cons k t ih =>
    obtain ⟨⟨hesc, henter, herase⟩, ht⟩ := List.forall_mem_cons.mp ht
    have hr : k ≠ '\r' := by
      rintro rfl
      cases henter
    have hkey := he.key (h := h) hi ho hesc
    simp only [Surface.typeKey, herase, hr, Bool.false_eq_true, ↓reduceIte] at hkey
    obtain ⟨s', hs', hb'⟩ := ih hkey ho (hb.insert (r := [k]) (by simpa using hr.symm)) ht
    rw [type_cons]
    simp only [List.append_assoc, List.singleton_append] at hs' hb'
    exact ⟨s', hs', hb'⟩

lemma editor_enter_insertBlock (he : e.mode ≠ .insertBlock) (block : Option BlockEdge) :
    (e.enter .insertBlock block).editor =
      e.editor.turned .insertBlock { e.typing with text := [], block } := by
  simp only [enter, ModeChange.between?, if_neg he]
  rfl

lemma useSelection_inserts (hm : e.mode = .visualBlock) (hs : e.surface? = some s)
    (hu : Unlocked h s) (hsel : s.selection = some selection)
    (hedge : a.edge? (Span.ofSelection s.text selection) = some edge) {text : Text}
    (ht : Trigger.classify? .visualBlock text = a.trigger? .visualBlock) {s' : Surface}
    (hs' : Surface.landed (a.apply s (Span.ofSelection s.text selection) register n) = s') :
    (e.useSelection h s a register n text).1.Inserts .insertBlock { s' with selection := none }
      { e.typing with text := [], block := some edge } := by
  have ha : a.trigger? .visualBlock = some .change := by
    unfold VisualAction.edge? at hedge
    split at hedge
    · split at hedge <;> cases hedge <;> rfl
    · cases hedge
  have hput : (e.putSurface s').surface? = some s' := surface?_putSurface hs
  have hne : (e.putSurface s').mode ≠ .insertBlock := by
    rw [putSurface_mode, hm]
    decide
  have hx := editor_useUp_insert rfl hput (editor_enter_insertBlock hne (some edge))
  rw [editor_putSurface, putSurface_typing, Editor.put_put] at hx
  have huse : (e.useSelection h s a register n text).1 = _ := useSelection_eq
    (fun _ => ⟨hm, by rw [hedge, Option.isSome_some]⟩) hs hu hsel rfl (by rw [hm, ht, ha]) hs'
  rw [hm, hedge] at huse
  rw [huse]
  exact ⟨congrArg Editor.mode hx, (congrArg Editor.surface? hx).trans (Editor.surface?_put hs),
    congrArg Editor.typing hx⟩

lemma type_visualAction (hm : e.mode = .visualBlock) (hp : e.pending.text = [])
    (hs : e.surface? = some s) (hu : Unlocked h s) (hsel : s.selection = some selection)
    (hq : Prefix.split? q = some (p, [])) (hk : ∀ k ∈ q, Typable k)
    (ha : VisualAction.ofKey? key = some a)
    (hedge : a.edge? (Span.ofSelection s.text selection) = some edge) {s' : Surface}
    (hs' : Surface.landed
      (a.apply s (Span.ofSelection s.text selection) p.register p.countOrOne) = s') :
    (e.type h (q ++ [key])).1.Inserts .insertBlock { s' with selection := none }
      { e.typing with text := [], block := some edge } := by
  have hparse := Command.parse_visualAction hq ha
  have hkeys : ∀ k ∈ q ++ [key], Typable k := List.forall_mem_append.mpr
    ⟨hk, List.forall_mem_singleton.mpr (VisualAction.typable_key ha)⟩
  obtain ⟨heditor, -⟩ := editor_type_of_complete (h := h) (by rw [hm]; rfl) hs (by simp [hp])
    (by simp) hkeys (c := .visualAction a p.register p.countOrOne) (by rw [hm, hp]; exact hparse)
  rw [hp] at heditor
  exact inserts_of_editor (useSelection_inserts (e := e.clearPending) hm hs hu hsel hedge
    (Command.classify?_of_parse (m := .visualBlock) rfl hparse nofun).1 hs') heditor

lemma Inserts.textAfter_block {typing : Typing} {l : Text}
    (he : e.Inserts .insertBlock s { typing with text := [], block := some edge })
    (ho : typing.overwrite = false) (hs : s.AtEdge x y l edge) (hne : t ≠ []) (ht : Unbroken t)
    (htk : ∀ k ∈ t, Typable k) :
    e.textAfter h (t ++ [escapeKey]) = some (Span.joinLines
      ((edge.insertInto t s.text.lines).set edge.first
        (insertAt l (byteAtColumn l edge.column) t))) := by
  obtain ⟨s', he', hb'⟩ := he.type_plain (h := h) rfl ho hs.between htk
  rw [List.nil_append] at hb'
  have hlines := hb'.text ▸ hs.inserted t ht
  have hl : Unbroken l := hs.unbroken l (List.mem_of_getElem? hs.first)
  have hu := unbroken_set hlines hs.unbroken
    (insertAt_unbroken hl ht (byteAtColumn l edge.column))
  obtain ⟨hfinal, hrest⟩ := Typing.finish_lines { typing with text := t, block := some edge } rfl
    hne ht hu (Nat.lt_of_lt_of_eq hs.rows.2 (lineCount_set hlines).symm)
  dsimp only at hrest
  rw [hlines, BlockEdge.insertInto_set hs.first] at hrest
  rw [Engine.textAfter, type_concat, he'.escape rfl, ← hrest,
    joinLines_lines (feedsOnly_of_unbroken hfinal)]
  rfl

/-- An insertion at the edge of a block puts the text at the column of the edge into all rows that
reach it, and into the first row in any case: all rows are treated alike if and only if the first
row reaches the edge, as it does in front of a block. -/
theorem block_insert (hm : e.mode = .visualBlock) (hp : e.pending.text = [])
    (hs : e.surface? = some s) (hu : Unlocked h s) (hfeeds : FeedsOnly s.text)
    (ho : e.typing.overwrite = false) (hsel : s.selection = some selection)
    (hkind : selection.kind = .blockwise) (hanchor : selection.anchor.line < s.lineCount)
    (hhead : selection.head.line < s.lineCount) (hq : Prefix.split? q = some (p, []))
    (hk : ∀ k ∈ q, Typable k) (ha : VisualAction.ofKey? key = some a)
    (hedge : a.edge? (Span.ofSelection s.text selection) = some edge) (hne : t ≠ [])
    (ht : Unbroken t) (htk : ∀ k ∈ t, Typable k) :
    let rows := a.linesLeft (Span.ofSelection s.text selection) s.text.lines
    let after := e.textAfter h (q ++ key :: (t ++ [escapeKey]))
    ∃ l, rows[edge.first]? = some l ∧
      after = some (Span.joinLines ((edge.insertInto t rows).set edge.first
        (insertAt l (byteAtColumn l edge.column) t))) ∧
      (after = some (Span.joinLines (edge.insertInto t rows)) ↔
        edge.column ≤ columnOf l l.byteLength) ∧
      (a = .insertLeft → edge.column ≤ columnOf l l.byteLength) := by
  intro rows after
  obtain ⟨left, right, hspan, hle, hleft⟩ := Span.ofSelection_block s.text hkind
  obtain ⟨hstart, hstop⟩ := Selection.start_stop_of (P := fun p => p.line < s.lineCount)
    hanchor hhead
  have hlines : selection.start.line ≤ selection.stop.line := by
    have hle := selection.start_le_stop
    rw [Position.le_def] at hle
    omega
  have hbegin := type_visualAction (h := h) hm hp hs hu hsel hq hk ha hedge rfl
  have hrows : rows = a.linesLeft _ s.text.lines := rfl
  clear_value rows
  rw [hspan] at hedge hrows hbegin
  obtain ⟨htext, x, y, l, hat⟩ := VisualAction.apply_atEdge p.register p.countOrOne
    hfeeds.unbroken ⟨hlines, hstop⟩ hle hedge rfl
  generalize Surface.landed (a.apply s _ p.register p.countOrOne) = s' at hbegin htext hat
  have hafter := hbegin.textAfter_block (h := h) ho hat hne ht htk
  rw [← textAfter_append, List.append_assoc, htext, ← hrows] at hafter
  have hl := hat.first
  have hunbroken := hat.unbroken
  rw [htext, ← hrows] at hl hunbroken
  refine ⟨l, hl, hafter, ?_, ?_⟩
  · rw [show after = _ from hafter, Option.some.injEq]
    exact BlockEdge.joinLines_insertInto hl hunbroken ht hat.rows.1 hne
  · rintro rfl
    have hall : rows = s.text.lines := hrows
    cases hedge
    obtain rfl := Option.some.inj ((getElem?_lines hstart).symm.trans (hall ▸ hl))
    exact Nat.le_trans hleft (columnOf_le _ _)

theorem sample_block_insert :
    let e := ((sample "ab\nc\nde" []).type {} "l\x16jj".toList).1
    e.mode = .visualBlock ∧ e.textAfter {} "Ax\x1b".toList = some "abx\nc\ndex".toList := by
  intro e
  let s := e.surface?.get (by decide +kernel)
  have hs : e.surface? = some s := (Option.some_get _).symm
  have hsel : s.selection = some ⟨⟨0, 1⟩, ⟨2, 0⟩, .blockwise⟩ := by decide +kernel
  have ha : VisualAction.ofKey? 'A' = some .appendRight := rfl
  have hkey : Typable 'x' := by decide
  have hedge : VisualAction.appendRight.edge?
      (Span.ofSelection s.text ⟨⟨0, 1⟩, ⟨2, 0⟩, .blockwise⟩) = some ⟨0, 2, 2⟩ := by decide +kernel
  obtain ⟨l, hl, -, hx, -⟩ := block_insert (e := e) (h := {}) (q := []) (p := {}) (t := ['x'])
    (by decide +kernel) (by decide +kernel) hs (by unfold Unlocked; decide +kernel)
    (by decide +kernel) (by decide +kernel) hsel rfl (by decide +kernel) (by decide +kernel) rfl
    (by simp) ha hedge (by decide) (by decide) (List.forall_mem_singleton.mpr hkey)
  obtain rfl : l = "ab".toList := Option.some.inj (hl.symm.trans (by decide +kernel))
  exact ⟨by decide +kernel, (hx.mpr (by decide +kernel)).trans (by decide +kernel)⟩

example : (sample "a\nbcd" []).textAfter {} "jll\x16kAx\x1b".toList = some "ax\nbcdx".toList := by
  decide +kernel

end Engine

end ModalEdit
