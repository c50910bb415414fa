import ModalEdit.Calculator
import ModalEdit.Engine.Basic
import ModalEdit.Line.Search

namespace ModalEdit.Engine

-- The notice ends with the pattern, where the editor gives the pattern library's account of what is
-- wrong with it; the wording of that account is not modelled.
def tellInvalidPattern (e : Engine) (pattern : Text) : Engine :=
  e.say ("invalid pattern: ".toList ++ pattern)

def tellUnknownPattern (e : Engine) (pattern : Text) : Engine :=
  e.say ("pattern not found: ".toList ++ pattern)

def goToLine (e : Engine) (s : Surface) (line : Nat) : Engine :=
  e.putSurface (s.setCursor ⟨line, firstNonBlankOf s.text line⟩)

def deleteLines (e : Engine) (s : Surface) (r : LineRange) : Engine :=
  let (first, last) := r.resolve s.cursor.line s.lineCount
  let (s, removed) := (Span.lines first last).delete s
  let line := min first s.lastLine
  e.putSurface ((s.setCursor ⟨line, firstNonBlankOf s.text line⟩).setRegister '"' removed)

def yankLines (e : Engine) (s : Surface) (r : LineRange) : Engine :=
  let (first, last) := r.resolve s.cursor.line s.lineCount
  e.putSurface (s.setRegister '"' ((Span.lines first last).textOf s.text))

def substitute (e : Engine) (s : Surface) (r : LineRange) (pattern replacement : Text)
    (all : Bool) : Engine × Bool :=
  match Pattern.ofText? pattern with
  | none => (e.tellInvalidPattern pattern, false)
  | some p =>
    let (first, last) := r.resolve s.cursor.line s.lineCount
    match s.mapLines first last (p.replace all (Pattern.Template.ofShort replacement)) with
    | (s, 0) => ((e.putSurface s).tellUnknownPattern pattern, false)
    | (s, n) => ((e.putSurface s).say (Nat.toDigits 10 n ++ " lines changed".toList), true)

def openSurface (e : Engine) (h : Host) (name : Text) : Engine × Bool :=
  match h.access with
  | .absent => (e.tell "no workspace", false)
  | .closed => (e.say ("cannot open: ".toList ++ name), false)
  | .byName =>
    ({ e with
        workspace := e.workspace.activate name
        pending := e.pending.bind (some name) }.say name, true)

def setOption (e : Engine) (s : Surface) (option : Text) : Engine × Bool :=
  match String.ofList option with
  | "ro" | "readonly" => (e.putSurface { s with readonly := true }, true)
  | "noro" | "noreadonly" => (e.putSurface { s with readonly := false }, true)
  | _ => (e.say ("unknown option: ".toList ++ option), false)

def listing (r : Registers) : Text :=
  List.intercalate " | ".toList (r.listing.map fun (c, t) => '"' :: c :: ' ' :: Unicode.escape t)

def editedBy (e : Engine) (h : Host) (s : Surface) (f : Engine → Engine × Bool) : Engine × Bool :=
  match e.editable h s with
  | (e, true) => f e
  | (e, false) => (e, false)

def runLineCommand (e : Engine) (h : Host) (s : Surface) : LineCommand → Engine × Bool
  | .goTo a => (e.goToLine s (a.resolve s.cursor.line s.lineCount), true)
  | .delete r => e.editedBy h s fun e => (e.deleteLines s r, true)
  | .yank r => (e.yankLines s r, true)
  | .substitute r pattern replacement all =>
    e.editedBy h s fun e => e.substitute s r pattern replacement all
  | .edit name => e.openSurface h name
  | .setOption option => e.setOption s option
  | .registers => (e.say (listing s.registers), true)
  | .macros => (e.sayMacro (List.intercalate [' '] e.macros.registry.macros.keys), true)
  | .unknown t => (e.say ("unknown command: ".toList ++ t), false)

def search (e : Engine) (s : Surface) (d : SearchDirection) (pattern : Text) : Engine × Bool :=
  match if pattern.isEmpty then e.lastPattern else some pattern with
  | none => (e.tell "no previous pattern", false)
  | some pattern =>
    match Pattern.ofText? pattern with
    | none => (e.tellInvalidPattern pattern, false)
    | some p =>
      let e := { e with lastPattern := some pattern }
      match p.finder.search? d s.text s.cursor with
      | some cursor => (e.putSurface (s.setCursor cursor), true)
      | none => (e.tellUnknownPattern pattern, false)

def calculate (e : Engine) (expression : Text) : Engine × Bool :=
  match Calculator.evaluate expression with
  | .ok x => (e.say (Calculator.format x), true)
  | .error err => (e.say err.message, false)

def runShell (e : Engine) (h : Host) (command : Text) : Engine × Bool :=
  match h.run with
  | none => (e.tell "process execution unavailable", false)
  | some run =>
    let e := { e with interaction := e.interaction.note (.ran command) }
    match run command with
    | .ok output => (e.say ((Text.fileLines output).headD []), true)
    | .error message => (e.say (command ++ ": ".toList ++ message), false)

def runLine (e : Engine) (h : Host) (s : Surface) : Engine × Bool :=
  let body := e.pending.text.drop 1
  match e.pending.kind with
  | .line => e.runLineCommand h s (.parse e.pending.text)
  | .search =>
    e.search s (if e.pending.text.head? = some '/' then .forward else .backward) body
  | .calculation => e.calculate body
  | .shell => e.runShell h (Text.trim body)
  | .keys | .none => (e, false)

def finishLine (e : Engine) (h : Host) : Engine × Bool :=
  match e.surface? with
  | none =>
    let e := e.tell "no surface"
    ({ e with pending := e.pending.clear }, false)
  | some s =>
    let (e, handled) := e.runLine h s
    ({ e with pending := e.pending.clear }, handled)

end ModalEdit.Engine
