import ModalEdit.Pattern.Bracket
import ModalEdit.Pattern.Program

namespace ModalEdit.Pattern

structure Sequence where
  branches : List Node := []
  pieces : List (Option Node) := []

namespace Sequence

def push (s : Sequence) (a : Node) : Sequence := { s with pieces := some a :: s.pieces }

def branch (s : Sequence) : Node := .ofList (s.pieces.reverse.filterMap id)

def node (s : Sequence) : Node := .ofBranches (s.branches.reverse ++ [s.branch])

end Sequence

structure OpenGroup where
  around : Sequence
  flags : Flags
  index : Option Nat

structure Reader where
  flags : Flags := {}
  current : Sequence := {}
  stack : List OpenGroup := []
  groups : Nat := 1
  names : List (Text × Nat) := []

namespace Reader

def depthLimit : Nat := 250

def push (r : Reader) (a : Node) : Reader := { r with current := r.current.push a }

def pushSet? (r : Reader) (s : CharSet) : Option Reader := (r.flags.admit? s).map (r.push <| .set ·)

def pushAtom? (r : Reader) : Atom → Option Reader
  | .look l => some (r.push (.look l))
  | .set s => some (r.push (.set s))
  | .literal c byte =>
    if r.flags.ascii && c.toNat ≥ 128 && (byte || r.flags.ignoreCase) then none
    else some (r.push (.set (r.flags.foldCase (.single c))))

def dot (f : Flags) : CharSet :=
  if f.dotAll then CharSet.none.compl
  else if f.crlf then (CharSet.ofList ['\n', '\r']).compl
  else (CharSet.single '\n').compl

def repeat? (r : Reader) (least : Nat) (most : Option Nat) (t : Text) : Option (Reader × Text) :=
  match r.current.pieces with
  | some a :: pieces =>
    let (lazy, t) := match t with
      | '?' :: t => (true, t)
      | t => (false, t)
    let greedy := lazy == r.flags.swapGreed
    some ({ r with current.pieces := some (.repeated greedy least most a) :: pieces }, t)
  | _ => none

def decimal? (f : Flags) (t : Text) : Option (Nat × Text) :=
  let t := t.dropWhile Unicode.isWhitespace
  let digits := t.takeWhile fun c => c.isDigit || f.verbose && Unicode.isWhitespace c
  let rest := (t.drop digits.length).dropWhile Unicode.isWhitespace
  let digits := digits.filter Char.isDigit
  let n := digits.foldl (fun n c => 10 * n + (c.toNat - 48)) 0
  if digits.isEmpty || n ≥ Nat.pow 2 32 then none else some (n, rest)

def bounds? (f : Flags) (t : Text) : Option (Nat × Option Nat × Text) := do
  let (least, t) ← decimal? f t
  match t with
  | '\x7d' :: t => pure (least, some least, f.skip t)
  | ',' :: t =>
    match f.skip t with
    | '\x7d' :: t => pure (least, none, f.skip t)
    | t =>
      let (most, t) ← decimal? f t
      let '\x7d' :: t := t | none
      if least ≤ most then pure (least, some most, f.skip t) else none
  | _ => none

def isNameLetter (first : Bool) (c : Char) : Bool :=
  c == '_' || if first then Unicode.isAlphabetic c
    else c == '.' || c == '[' || c == ']' || Unicode.isAlphanumeric c

def groupName? (t : Text) : Option (Text × Text) :=
  let name := t.takeWhile (· != '>')
  match name, t.drop name.length with
  | c :: cs, _ :: rest =>
    if isNameLetter true c && cs.all (isNameLetter false) then some (name, rest) else none
  | _, _ => none

def readFlags (f : Flags) (seen : List Char) : Text → Option (Flags × Char × Text)
  | [] => none
  | c :: t =>
    if c == ':' || c == ')' then
      if seen.head? == some '-' || seen.isEmpty && c == ')' then none else some (f, c, t)
    else if seen.contains c then none
    else if c == '-' then readFlags f (c :: seen) t
    else (f.set? (!seen.contains '-') c).bind fun f => readFlags f (c :: seen) t

def openGroup? (r : Reader) (index : Option Nat) (flags : Flags) : Option Reader :=
  if r.stack.length < depthLimit then
    some { r with
      flags
      current := {}
      stack := ⟨r.current, r.flags, index⟩ :: r.stack
      groups := r.groups + if index.isSome then 1 else 0 }
  else none

def openNamed? (r : Reader) (t : Text) : Option (Reader × Text) := do
  let (name, t) ← groupName? t
  if (r.names.lookup name).isSome then none
  else
    let r ← r.openGroup? (some r.groups) r.flags
    pure ({ r with names := (name, r.groups - 1) :: r.names }, t)

def opening? (r : Reader) (t : Text) : Option (Reader × Text) :=
  match r.flags.skip t with
  | '?' :: 'P' :: '<' :: t | '?' :: '<' :: t => r.openNamed? t
  | '?' :: t => do
    let (flags, c, t) ← readFlags r.flags [] t
    if c == ':' then
      let r ← r.openGroup? none flags
      pure (r, t)
    else pure ({ r with flags, current.pieces := none :: r.current.pieces }, t)
  | t => do
    let r ← r.openGroup? (some r.groups) r.flags
    pure (r, t)

def close? (r : Reader) : Option Reader :=
  match r.stack with
  | [] => none
  | g :: stack =>
    let a := r.current.node
    let a := match g.index with
      | some i => .group i a
      | none => a
    some { r with flags := g.flags, current := g.around.push a, stack }

def step? (r : Reader) (c : Char) (t : Text) : Option (Reader × Text) :=
  let f := r.flags
  match c with
  | '(' => r.opening? t
  | ')' => r.close?.map (·, t)
  | '|' => some ({ r with current := ⟨r.current.branch :: r.current.branches, []⟩ }, t)
  | '*' => r.repeat? 0 none t
  | '+' => r.repeat? 1 none t
  | '?' => r.repeat? 0 (some 1) t
  | '\x7b' => (bounds? f t).bind fun (least, most, t) => r.repeat? least most t
  | '[' => do
    let (k, items, t) := Bracket.opening f .none t
    let (s, t) ← Bracket.read? f [] k items t
    pure (r.push (.set s), t)
  | '.' => (r.pushSet? (dot f)).map (·, t)
  | '^' => some (r.push (.look (if f.multiLine then .lineStart f.crlf else .textStart)), t)
  | '$' => some (r.push (.look (if f.multiLine then .lineEnd f.crlf else .textEnd)), t)
  | '\\' => do
    let (a, t) ← Atom.escaped? f t
    let r ← r.pushAtom? a
    pure (r, t)
  | _ => (r.pushAtom? (.literal c false)).map (·, t)

def read? (r : Reader) (t : Text) : Option Reader :=
  match r.flags.skip t with
  | [] => some r
  | c :: rest =>
    (r.step? c rest).bind fun (r, rest) =>
      if rest.length < t.length then read? r rest else none
termination_by t.length

end Reader

def ofText? (t : Text) : Option Pattern := do
  let r ← Reader.read? {} t
  let a := r.current.node
  if r.stack.isEmpty && a.weight ≤ weightLimit then pure ⟨a.program, r.names⟩ else none

end ModalEdit.Pattern
