import ModalEdit.Engine.Operators

namespace ModalEdit

def Mode.selectionKind? : Mode → Option SelectionKind
  | .visual => some .characterwise
  | .visualLine => some .linewise
  | .visualBlock => some .blockwise
  | _ => none

namespace VisualAction

def edits : VisualAction → Bool
  | yank | yankLines => false
  | _ => true

def isForBlock : VisualAction → Bool
  | insertLeft | appendRight => true
  | _ => false

def widen (a : VisualAction) (span : Span) : Span :=
  match a with
  | yankLines | deleteLines | changeLines => .lines span.firstLine span.lastLine
  | _ => span

def edge? (a : VisualAction) : Span → Option BlockEdge
  | .block first last left right =>
    match a with
    | insertLeft | change => some ⟨first, last, left⟩
    | appendRight => some ⟨first, last, right + 1⟩
    | _ => none
  | _ => none

def clearRegion (s : Surface) : Span → Surface × Text
  | .lines first last => s.emptyLines first last
  | span => span.delete s

def shiftTimes (s : Surface) (first last : Nat) (d : Surface.Direction) (n : Nat) : Surface :=
  n.repeat (·.shift first last d) s

def apply (a : VisualAction) (s : Surface) (span : Span) (register : Option Char) (count : Nat) :
    Surface × Position :=
  let target := a.widen span
  let first := span.firstLine
  match a with
  | yank | yankLines =>
    let s := s.store register (target.textOf s.text)
    (s, target.start s.text)
  | delete | deleteLines =>
    let (s, removed) := target.delete s
    (s.store register removed, normalize s.text (target.start s.text))
  | shift d =>
    let s := shiftTimes s first span.lastLine d count
    (s, ⟨first, firstNonBlankOf s.text first⟩)
  | join => s.join first (max span.lastLine (first + 1))
  | changeCase case =>
    let s := s.changeCase span case
    (s, normalize s.text (span.start s.text))
  | insertLeft | appendRight =>
    let column := ((a.edge? span).map (·.column)).getD 0
    (s, ⟨first, Grapheme.byteAtColumn (s.lineAt first) column⟩)
  | change | changeLines =>
    let (s, removed) := clearRegion s target
    (s.store register removed, target.start s.text)

def canApply (a : VisualAction) (s : Surface) (span : Span) : Bool :=
  match a with
  | yank | yankLines | delete | deleteLines | change | changeLines =>
    (a.widen span).hasText s.text
  | changeCase case => s.canChangeCase span case
  | _ => true

end VisualAction

namespace Engine

def select (e : Engine) (h : Host) (s : Surface) (text : Text) : Engine × Bool :=
  let before := e.mode
  match e.changeMode h text none with
  | (e, false) => (e, false)
  | (e, true) =>
    match e.mode.selectionKind? with
    | none => (e, true)
    | some kind =>
      let selection : Selection :=
        match s.selection with
        | some selection =>
          if before.isVisual then { selection with kind } else ⟨s.cursor, s.cursor, kind⟩
        | none => ⟨s.cursor, s.cursor, kind⟩
      (e.putSurface { s with selection := some selection }, true)

def clearSelection (e : Engine) : Engine :=
  match e.surface? with
  | some s => e.putSurface { s with selection := none }
  | none => e

def giveUp (e : Engine) : Engine × Bool := (e.escapeMode.1, false)

def useRegion (e : Engine) (h : Host) (s : Surface) (a : VisualAction) (span : Span)
    (register : Option Char) (count : Nat) (text : Text) : Engine × Bool :=
  let edge := a.edge? span
  if a.isForBlock && edge.isNone then (e, false)
  else
    let (s, cursor) := a.apply s span register count
    let (e, _) := (e.putSurface (s.setCursor cursor)).changeMode h text edge
    (if e.mode.isInsert then e.clearSelection else e, true)

def useSelection (e : Engine) (h : Host) (s : Surface) (a : VisualAction)
    (register : Option Char) (count : Nat) (text : Text) : Engine × Bool :=
  if a.isForBlock && e.mode != .visualBlock then (e, false)
  else match s.selection with
    | none => e.giveUp
    | some selection =>
      let span := Span.ofSelection s.text selection
      if a.edits then
        match e.editable h s with
        | (e, true) => e.useRegion h s a span register count text
        | (e, false) => e.giveUp
      else e.useRegion h s a span register count text

end Engine

end ModalEdit
