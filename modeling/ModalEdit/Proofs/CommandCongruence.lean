import ModalEdit.Proofs.Congruence

namespace ModalEdit.Engine.Congruence

variable {R : Engine → Engine → Prop} (hR : Congruence R) {a b : Engine} (hab : R a b)
include hR hab

lemma operate (h : Host) (s : Surface) (op : Operator) (span : Span) (register : Option Char)
    (text : Text) :
    Both R (a.operate h s op span register text) (b.operate h s op span register text) := by
  have act {a b : Engine} (hab : R a b) :
      Both R
        (if op = .change then
            ((a.putSurface (op.apply s span register)).changeMode h text none).1
          else a.putSurface (op.apply s span register), true)
        (if op = .change then
            ((b.putSurface (op.apply s span register)).changeMode h text none).1
          else b.putSurface (op.apply s span register), true) := by
    have hp := hR.putSurface hab (op.apply s span register)
    refine ⟨?_, rfl⟩
    dsimp only
    by_cases hc : op = .change
    · rw [if_pos hc, if_pos hc]
      exact (hR.changeMode hp h text none).1
    · rwa [if_neg hc, if_neg hc]
  exact .ite (fun _ => hR.editedBy hab h s act) fun _ => act hab

lemma move (s : Surface) (m : Motion) (count : Nat) (explicit : Bool) :
    Both R (a.move s m count explicit) (b.move s m count explicit) := by
  unfold Engine.move
  rw [← (hR.alike hab).mode]
  exact ⟨hR.putSurface hab _, rfl⟩

lemma pasteRegister (s : Surface) (side : Surface.Side) (count : Nat) (register : Option Char) :
    Both R (a.pasteRegister s side count register) (b.pasteRegister s side count register) := by
  unfold Engine.pasteRegister
  split
  · exact ⟨hR.putSurface hab _, rfl⟩
  · exact ⟨hR.tell hab _, rfl⟩

lemma joinBelow (s : Surface) (count : Nat) :
    Both R (a.joinBelow s count) (b.joinBelow s count) :=
  .ite (fun _ => ⟨hab, rfl⟩) fun _ => ⟨hR.putSurface hab _, rfl⟩

lemma toggleAhead (s : Surface) (count : Nat) :
    Both R (a.toggleAhead s count) (b.toggleAhead s count) :=
  .ite (fun _ => ⟨hab, rfl⟩) fun _ => ⟨hR.putSurface hab _, rfl⟩

lemma runSimple (h : Host) (s : Surface) (c : Simple) (count : Nat) (register : Option Char)
    (text : Text) :
    Both R (a.runSimple h s c count register text) (b.runSimple h s c count register text) := by
  have within (op : Operator) (span : Span) {a b : Engine} (hab : R a b) :=
    hR.operate hab h s op span register text
  cases c with
  | yankLines => exact within _ _ hab
  | deleteForward =>
    exact hR.editedBy hab h s fun hab => .ite (fun _ => ⟨hab, rfl⟩) fun _ => within _ _ hab
  | deleteBackward =>
    exact hR.editedBy hab h s fun hab => .ite (fun _ => ⟨hab, rfl⟩) fun _ => within _ _ hab
  | deleteToEnd => exact hR.editedBy hab h s (within _ _)
  | changeToEnd => exact hR.editedBy hab h s (within _ _)
  | paste side => exact hR.editedBy hab h s fun hab => hR.pasteRegister hab s side count register
  | joinLines => exact hR.editedBy hab h s fun hab => hR.joinBelow hab s count
  | toggleCase => exact hR.editedBy hab h s fun hab => hR.toggleAhead hab s count

lemma replace (h : Host) (s : Surface) (c : Char) (count : Nat) :
    Both R (a.replace h s c count) (b.replace h s c count) := by
  refine hR.editedBy hab h s fun {a b} hab => ?_
  dsimp only
  split
  · exact ⟨hab, rfl⟩
  · exact ⟨hR.putSurface hab _, rfl⟩

lemma insert (h : Host) (s : Surface) (i : Insertion) (count : Nat) (text : Text) :
    Both R (a.insert h s i count text) (b.insert h s i count text) := by
  have hr : b.isReadonly h = a.isReadonly h := by
    obtain ⟨d, r, i, rfl⟩ := hR.exists_beside hab
    rfl
  unfold Engine.insert
  rw [hr]
  refine .ite (fun _ => ⟨hR.tell (hR.changeMode hab h text none).1 _, rfl⟩) fun _ => ?_
  have hc := (hR.changeMode (hR.putSurface hab (i.prepare s count)) h text none).1
  dsimp only
  rw [← (hR.alike hc).typing]
  exact ⟨hR.typing _ hc, rfl⟩

lemma select (h : Host) (s : Surface) (text : Text) :
    Both R (a.select h s text) (b.select h s text) := by
  obtain ⟨hc, he⟩ := hR.changeMode hab h text none
  unfold Engine.select
  rw [← (hR.alike hab).mode]
  generalize a.changeMode h text none = x at hc he
  generalize b.changeMode h text none = y at hc he
  obtain ⟨x, w⟩ := x
  obtain ⟨y, w'⟩ := y
  obtain rfl : w = w' := he
  cases w with
  | false => exact ⟨hc, rfl⟩
  | true =>
    dsimp only at hc ⊢
    rw [← (hR.alike hc).mode]
    split
    · exact ⟨hc, rfl⟩
    · exact ⟨hR.putSurface hc _, rfl⟩

lemma useRegion (h : Host) (s : Surface) (v : VisualAction) (span : Span)
    (register : Option Char) (count : Nat) (text : Text) :
    Both R (a.useRegion h s v span register count text)
      (b.useRegion h s v span register count text) := by
  unfold Engine.useRegion
  generalize v.apply s span register count = placed
  obtain ⟨s, cursor⟩ := placed
  refine .ite (fun _ => ⟨hab, rfl⟩) fun _ => ⟨?_, rfl⟩
  have hc := (hR.changeMode (hR.putSurface hab (s.setCursor cursor)) h text (v.edge? span)).1
  obtain ⟨x, -⟩ := (a.putSurface (s.setCursor cursor)).changeMode h text (v.edge? span)
  obtain ⟨y, -⟩ := (b.putSurface (s.setCursor cursor)).changeMode h text (v.edge? span)
  dsimp only at hc ⊢
  rw [← (hR.alike hc).mode]
  split_ifs
  · exact hR.clearSelection hc
  · exact hc

lemma useSelection (h : Host) (s : Surface) (v : VisualAction) (register : Option Char)
    (count : Nat) (text : Text) :
    Both R (a.useSelection h s v register count text)
      (b.useSelection h s v register count text) := by
  unfold Engine.useSelection
  rw [← (hR.alike hab).mode]
  refine .ite (fun _ => ⟨hab, rfl⟩) fun _ => ?_
  split
  · exact hR.giveUp hab
  · refine .ite (fun _ => ?_) fun _ => hR.useRegion hab h s v _ register count text
    unfold Engine.editable
    split_ifs
    · exact hR.giveUp (hR.tell hab _)
    · exact hR.useRegion hab h s v _ register count text

lemma runCommand (h : Host) (s : Surface) (text : Text) (c : Command) :
    Both R (a.runCommand h s text c) (b.runCommand h s text c) := by
  cases c with
  | escape => exact hR.escapeMode hab
  | move m count explicit => exact hR.move hab s m count explicit
  | operate op m count explicit register => exact hR.operate hab h s op _ register text
  | operateLines op count register => exact hR.operate hab h s op _ register text
  | simple c count register => exact hR.runSimple hab h s c count register text
  | replace c count => exact hR.replace hab h s c count
  | insert i count => exact hR.insert hab h s i count text
  | visual => exact hR.select hab h s text
  | visualAction v register count => exact hR.useSelection hab h s v register count text

lemma execute (h : Host) (text : Text) (c : Command) :
    Both R (a.execute h text c) (b.execute h text c) := by
  unfold Engine.execute
  rw [hR.surface?_eq hab]
  split
  · exact ⟨hR.tell hab _, rfl⟩
  · exact hR.runCommand hab h _ text c

lemma substitute (s : Surface) (r : LineRange) (pattern replacement : Text) (all : Bool) :
    Both R (a.substitute s r pattern replacement all)
      (b.substitute s r pattern replacement all) := by
  unfold Engine.substitute
  split
  · exact ⟨hR.say hab _, rfl⟩
  · dsimp only
    split
    · exact ⟨hR.say (hR.putSurface hab _) _, rfl⟩
    · exact ⟨hR.say (hR.putSurface hab _) _, rfl⟩

lemma openSurface (h : Host) (name : Text) :
    Both R (a.openSurface h name) (b.openSurface h name) := by
  obtain ⟨d, r, i, rfl⟩ := hR.exists_beside hab
  unfold Engine.openSurface
  split
  · exact ⟨hR.tell hab _, rfl⟩
  · exact ⟨hR.say hab _, rfl⟩
  · have hw := hR.workspace (a.workspace.activate name) hab
    have hp := hR.bind (some name) hw
    exact ⟨hR.say hp name, rfl⟩

lemma setOption (s : Surface) (option : Text) :
    Both R (a.setOption s option) (b.setOption s option) := by
  unfold Engine.setOption
  split
  · exact ⟨hR.putSurface hab _, rfl⟩
  · exact ⟨hR.putSurface hab _, rfl⟩
  · exact ⟨hR.putSurface hab _, rfl⟩
  · exact ⟨hR.putSurface hab _, rfl⟩
  · exact ⟨hR.say hab _, rfl⟩

lemma runLineCommand (h : Host) (s : Surface) (c : LineCommand) :
    Both R (a.runLineCommand h s c) (b.runLineCommand h s c) := by
  cases c with
  | goTo address => exact ⟨hR.goToLine hab _ _, rfl⟩
  | delete r => exact hR.editedBy hab h s fun hab => ⟨hR.putSurface hab _, rfl⟩
  | yank r => exact ⟨hR.putSurface hab _, rfl⟩
  | substitute r pattern replacement all =>
    exact hR.editedBy hab h s fun hab => hR.substitute hab s r pattern replacement all
  | edit name => exact hR.openSurface hab h name
  | setOption option => exact hR.setOption hab s option
  | registers => exact ⟨hR.say hab _, rfl⟩
  | macros =>
    refine ⟨?_, rfl⟩
    dsimp only [Engine.runLineCommand]
    rw [← (hR.alike hab).macros]
    exact hR.sayMacro hab _
  | unknown t => exact ⟨hR.say hab _, rfl⟩

lemma search (s : Surface) (d : SearchDirection) (pattern : Text) :
    Both R (a.search s d pattern) (b.search s d pattern) := by
  unfold Engine.search
  rw [← (hR.alike hab).lastPattern]
  generalize (if pattern.isEmpty then a.lastPattern else some pattern) = found
  cases found with
  | none => exact ⟨hR.tell hab _, rfl⟩
  | some text =>
    dsimp only
    split
    · exact ⟨hR.say hab _, rfl⟩
    · have hl := hR.lastPattern (some text) hab
      split
      · exact ⟨hR.putSurface hl _, rfl⟩
      · exact ⟨hR.say hl _, rfl⟩

lemma calculate (expression : Text) :
    Both R (a.calculate expression) (b.calculate expression) := by
  unfold Engine.calculate
  split
  · exact ⟨hR.say hab _, rfl⟩
  · exact ⟨hR.say hab _, rfl⟩

lemma runShell (h : Host) (command : Text) :
    Both R (a.runShell h command) (b.runShell h command) := by
  unfold Engine.runShell
  split
  · exact ⟨hR.tell hab _, rfl⟩
  · dsimp only
    split
    · exact ⟨hR.say (hR.noted (.inl rfl) hab) _, rfl⟩
    · exact ⟨hR.say (hR.noted (.inl rfl) hab) _, rfl⟩

lemma runLine (h : Host) (s : Surface) : Both R (a.runLine h s) (b.runLine h s) := by
  unfold Engine.runLine
  rw [← (hR.alike hab).pending]
  dsimp only
  split
  · exact hR.runLineCommand hab h s _
  · exact hR.search hab s _ _
  · exact hR.calculate hab _
  · exact hR.runShell hab h _
  · exact ⟨hab, rfl⟩
  · exact ⟨hab, rfl⟩

lemma finishLine (h : Host) : Both R (a.finishLine h) (b.finishLine h) := by
  unfold Engine.finishLine
  rw [hR.surface?_eq hab]
  split
  · exact ⟨hR.clearPending (hR.tell hab _), rfl⟩
  · obtain ⟨hl, he⟩ := hR.runLine hab h _
    exact ⟨hR.clearPending hl, he⟩

end ModalEdit.Engine.Congruence
