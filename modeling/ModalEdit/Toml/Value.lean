import ModalEdit.Text.Basic

namespace ModalEdit.Toml

inductive Origin where
  | implicit
  | header
  | dotted
  | inline
  deriving DecidableEq, Repr

inductive Value where
  | text (t : Text)
  | integer (n : Int)
  | boolean (b : Bool)
  | float (t : Text)
  | moment (t : Text)
  | array (opened : Bool) (items : List Value)
  | table (origin : Origin) (entries : List (Text × Value))
  deriving Repr

abbrev Entries := List (Text × Value)

namespace Entries

def replace (k : Text) (v : Value) : Entries → Entries
  | [] => []
  | (k', v') :: es => if k = k' then (k, v) :: es else (k', v') :: replace k v es

def add (es : Entries) (k : Text) (v : Value) : Entries := es ++ [(k, v)]

def insertDotted? (es : Entries) : List Text → Value → Option Entries
  | [], _ => none
  | [k], v => if (es.lookup k).isSome then none else some (es.add k v)
  | k :: ks, v =>
    match es.lookup k with
    | none => (insertDotted? [] ks v).map fun inner => es.add k (.table .dotted inner)
    | some (.table .dotted inner) =>
      (insertDotted? inner ks v).map fun inner => es.replace k (.table .dotted inner)
    | some (.table .implicit inner) =>
      (insertDotted? inner ks v).map fun inner => es.replace k (.table .implicit inner)
    | some _ => none

def modify? (f : Entries → Option Entries) (es : Entries) : List Text → Option Entries
  | [] => f es
  | k :: ks =>
    match es.lookup k with
    | some (.table o inner) =>
      (modify? f inner ks).map fun inner => es.replace k (.table o inner)
    | some (.array true items) =>
      match items.getLast? with
      | some (.table o inner) =>
        (modify? f inner ks).map fun inner =>
          es.replace k (.array true (items.dropLast ++ [.table o inner]))
      | _ => none
    | _ => none

def descend? (f : Entries → Text → Option Entries) (es : Entries) : List Text → Option Entries
  | [] => none
  | [k] => f es k
  | k :: ks =>
    match es.lookup k with
    | none => (descend? f [] ks).map fun inner => es.add k (.table .implicit inner)
    | some (.table .inline _) => none
    | some (.table o inner) =>
      (descend? f inner ks).map fun inner => es.replace k (.table o inner)
    | some (.array true items) =>
      match items.getLast? with
      | some (.table o inner) =>
        (descend? f inner ks).map fun inner =>
          es.replace k (.array true (items.dropLast ++ [.table o inner]))
      | _ => none
    | some _ => none

def openTable? (es : Entries) (path : List Text) : Option Entries :=
  descend? (fun es k =>
    match es.lookup k with
    | none => some (es.add k (.table .header []))
    | some (.table .implicit inner) => some (es.replace k (.table .header inner))
    | some _ => none) es path

def openElement? (es : Entries) (path : List Text) : Option Entries :=
  descend? (fun es k =>
    match es.lookup k with
    | none => some (es.add k (.array true [.table .header []]))
    | some (.array true items) => some (es.replace k (.array true (items ++ [.table .header []])))
    | some _ => none) es path

end Entries

end ModalEdit.Toml
