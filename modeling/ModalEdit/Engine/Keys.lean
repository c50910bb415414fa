import ModalEdit.Command.Parser
import ModalEdit.Engine.Visual

/-! One key: it is inserted, added to the pending command, or carries the command out. -/

namespace ModalEdit

def backspaceKey : Char := '\x08'

def deleteKey : Char := '\x7f'

def isErasing (c : Char) : Bool := c == backspaceKey || c == deleteKey

def isEnter (c : Char) : Bool := c == '\r' || c == '\n'

inductive Reply where
  | handled (acted : Bool)
  | play (name : Text) (times : Nat)
  deriving DecidableEq, Repr

namespace Engine

def eraseBack (e : Engine) (s : Surface) : Engine × Bool :=
  let p := s.cursor
  if p.byte = 0 then (e, false)
  else
    let joint : Position := ⟨p.line, Grapheme.prevBoundary s.currentLine p.byte⟩
    let e := e.putSurface ((s.erase joint p).setCursor joint)
    ({ e with typing := { e.typing with text := e.typing.text.dropLast } }, true)

def typeChar (e : Engine) (s : Surface) (c : Char) : Engine :=
  let p := s.cursor
  let s :=
    if e.typing.overwrite ∧ c ≠ '\n' ∧ p.byte < s.currentLine.byteLength then
      s.erase p ⟨p.line, Grapheme.nextBoundary s.currentLine p.byte⟩
    else s
  let (s, stop) := s.insert p [c]
  let e := e.putSurface (s.setCursor stop)
  { e with typing := { e.typing with text := e.typing.text ++ [c] } }

def insertKey (e : Engine) (c : Char) : Engine × Bool :=
  if c = escapeKey then e.escapeMode
  else match e.surface? with
    | none => (e, false)
    | some s =>
      if isErasing c then e.eraseBack s
      else (e.typeChar s (if c = '\r' then '\n' else c), true)

def runCommand (e : Engine) (h : Host) (s : Surface) (text : Text) : Command → Engine × Bool
  | .escape => e.escapeMode
  | .move m count explicit => e.move s m count explicit
  | .operate op m count explicit register =>
    e.operate h s op (op.region s m count explicit) register text
  | .operateLines op count register =>
    e.operate h s op (Operator.lineRegion s count) register text
  | .simple c count register => e.runSimple h s c count register text
  | .replace c count => e.replace h s c count
  | .insert i count => e.insert h s i count text
  | .visual _ => e.select h s text
  | .visualAction a register count => e.useSelection h s a register count text

/-- Whether a command can read the text that it is about. A refused one reads none, but its motion
is gone before. -/
def canRun (h : Host) (s : Surface) (c : Command) : Bool :=
  let locked := h.readonly || s.readonly
  match c with
  | .move m count _ => m.hasTarget s.text s.cursor count
  | .operate op m count explicit _ =>
    op.hasRegion s m count &&
      (op.edits && locked || op.canApply s (op.region s m count explicit))
  | .operateLines op count _ => op.edits && locked || op.canApply s (Operator.lineRegion s count)
  | .simple c count _ => locked || c.canApply s count
  | .visualAction a _ _ =>
    s.selection.all fun selection =>
      a.edits && locked || a.canApply s (.ofSelection s.text selection)
  | .escape | .replace .. | .insert .. | .visual _ => true

def execute (e : Engine) (h : Host) (text : Text) (c : Command) : Engine × Bool :=
  match e.surface? with
  | none => (e.tell "no surface", false)
  | some s => e.runCommand h s text c

def expandVariable (e : Engine) (h : Host) (name : Text) (times : Nat) : Engine × Bool :=
  match e.surface? with
  | none => (e.tell "no surface", false)
  | some s =>
    e.editedBy h s fun e =>
      let x : Macro.Context :=
        { environment := h.environment, now := h.now, filename := s.name, line := s.cursor.line }
      match e.macros.expand e.interaction x name with
      | (macros, interaction, none) => ({ e with macros, interaction }, false)
      | (macros, interaction, some t) =>
        let (s, stop) := s.insert s.cursor (copies times t)
        ({ e with macros, interaction }.putSurface (s.setCursor stop), true)

def clearPending (e : Engine) : Engine := { e with pending := e.pending.clear }

def noteResolved (e : Engine) (name : Text) : Engine :=
  { e with resolved := e.resolved.or (some name) }

def runMacro (e : Engine) (h : Host) (body : Text) (times : Nat) (complete : Bool) :
    Engine × Reply :=
  let (macros, interaction, outcome) := e.macros.read e.interaction body complete times
  let e := { e with macros, interaction }
  match outcome with
  | .incomplete => (if complete then e.clearPending else e, .handled false)
  | .ignored | .cancelled | .notFound => (e.clearPending, .handled false)
  | .done _ none => (e.clearPending, .handled true)
  | .done _ (some (.play name times)) => (e.clearPending.noteResolved name, .play name times)
  | .done _ (some (.expand name times)) =>
    let (e, acted) := (e.clearPending.noteResolved name).expandVariable h name times
    (e, .handled acted)

/-- Carries out the pending command if it is complete. `complete` says that nothing will be added
to it. -/
def runPending (e : Engine) (h : Host) (complete : Bool) : Engine × Reply :=
  let text := e.pending.text
  match Prefix.split? text with
  | none => (e, .handled false)
  | some (p, body) =>
    if isMacroBody body then e.runMacro h body p.countOrOne complete
    else match Command.parse e.mode.isVisual text with
      | .incomplete => (if complete then e.clearPending else e, .handled false)
      | .invalid => (e.clearPending, .handled false)
      | .complete c =>
        let (e, acted) := e.clearPending.execute h text c
        (e, .handled acted)

def canRunPending (e : Engine) (h : Host) : Bool :=
  match Command.parse e.mode.isVisual e.pending.text with
  | .complete c => e.surface?.all (canRun h · c)
  | _ => true

def pendingIsMacro (e : Engine) : Bool :=
  (Prefix.split? e.pending.text).any fun (_, body) => isMacroBody body

def nextLine (e : Engine) : Engine × Bool :=
  match e.surface? with
  | none => (e, false)
  | some s =>
    if s.lineCount ≤ s.cursor.line + 1 then (e, false)
    else (e.goToLine s (s.cursor.line + 1), true)

def handle (r : Engine × Bool) : Engine × Reply := (r.1, .handled r.2)

def takeBack (e : Engine) : Engine := { e with pending := e.pending.pop }

def extend (e : Engine) (c : Char) : Engine := { e with pending := e.pending.append [c] }

def lineKey (e : Engine) (h : Host) (c : Char) : Engine × Bool :=
  if isEnter c then e.finishLine h
  else if isErasing c then (e.takeBack, true)
  else (e.extend c, false)

def enterKey (e : Engine) (h : Host) : Engine × Reply :=
  if e.pendingIsMacro then e.runPending h true
  else if e.pending.text.isEmpty then handle e.nextLine
  else (e.clearPending, .handled false)

def commandKey (e : Engine) (h : Host) (c : Char) : Engine × Reply :=
  if c = escapeKey then
    if e.pending.text.isEmpty then handle e.escapeMode else (e.clearPending, .handled true)
  else if e.pending.kind.isLine then handle (e.lineKey h c)
  else if isEnter c then e.enterKey h
  else if isErasing c && !e.pending.text.isEmpty then (e.takeBack, .handled true)
  else
    let e := e.extend c
    if e.pending.kind.isLine then (e, .handled false) else e.runPending h false

def stroke (e : Engine) (h : Host) (c : Char) : Engine × Reply :=
  if e.mode.isInsert then handle (e.insertKey c) else e.commandKey h c

def canStroke (e : Engine) (h : Host) (c : Char) : Bool :=
  e.mode.isInsert || c = escapeKey || e.pending.kind.isLine || isEnter c ||
    isErasing c && !e.pending.text.isEmpty || (e.extend c).canRunPending h

end Engine

end ModalEdit
