import ModalEdit.Command.Prefix
import ModalEdit.Files

/-! A small command interpreter: `echo`, `printf`, `cat`, lists with `;`, `&&` and `||`,
pipelines, quotes, and redirection of one output to the other. -/

namespace ModalEdit.Shell

inductive Token where
  | word (t : Text)
  | next
  | andThen
  | orElse
  | pipe
  | outToErrors
  | errorsToOut
  deriving DecidableEq, Repr

inductive Quote where
  | plain | single | double
  deriving DecidableEq, Repr

def emit (word : Option Text) (ts : List Token) : List Token :=
  match word with
  | some w => .word w.reverse :: ts
  | none => ts

def grow (word : Option Text) (c : Char) : Option Text := some (c :: word.getD [])

def close (word : Option Text) (signs : List Token) (rest : Option (List Token)) :
    Option (List Token) :=
  rest.map fun ts => emit word (signs ++ ts)

def dropDigit (word : Option Text) (d : Char) : Option Text :=
  if word = some [d] then none else word

def scan (q : Quote) (word : Option Text) (t : Text) : Option (List Token) :=
  match q, t with
  | .plain, [] => some (emit word [])
  | _, [] => none
  | .single, c :: t => if c = '\'' then scan .plain word t else scan .single (grow word c) t
  | .double, '"' :: t => scan .plain word t
  | .double, '\\' :: c :: t =>
    if c ∈ ['"', '\\', '$', '\x60'] then scan .double (grow word c) t
    else scan .double (grow (grow word '\\') c) t
  | .double, c :: t => scan .double (grow word c) t
  | .plain, '\'' :: t => scan .single (some (word.getD [])) t
  | .plain, '"' :: t => scan .double (some (word.getD [])) t
  | .plain, '\\' :: c :: t => scan .plain (grow word c) t
  | .plain, '&' :: '&' :: t => close word [.andThen] (scan .plain none t)
  | .plain, '|' :: '|' :: t => close word [.orElse] (scan .plain none t)
  | .plain, '|' :: t => close word [.pipe] (scan .plain none t)
  | .plain, '>' :: '&' :: '2' :: t =>
    close (dropDigit word '1') [.outToErrors] (scan .plain none t)
  | .plain, '>' :: '&' :: '1' :: t =>
    close (dropDigit word '2') [.errorsToOut] (scan .plain none t)
  | .plain, c :: t =>
    if c = ' ' ∨ c = '\t' then close word [] (scan .plain none t)
    else if c = ';' ∨ c = '\n' then close word [.next] (scan .plain none t)
    else scan .plain (grow word c) t
termination_by t.length

structure Result where
  out : Text := []
  errors : Text := []
  status : Nat := 0
  exited : Bool := false
  deriving DecidableEq, Repr

def unescape : Text → Text
  | '\\' :: c :: t =>
    match c with
    | 'n' => '\n' :: unescape t
    | 't' => '\t' :: unescape t
    | 'r' => '\r' :: unescape t
    | 'a' => '\x07' :: unescape t
    | 'b' => '\x08' :: unescape t
    | 'f' => '\x0c' :: unescape t
    | 'v' => '\x0b' :: unescape t
    | '\\' => '\\' :: unescape t
    | _ => '\\' :: c :: unescape t
  | c :: t => c :: unescape t
  | [] => []

def fillFormat : Text → List Text → Text × List Text
  | '%' :: '%' :: t, args => ('%' :: (fillFormat t args).1, (fillFormat t args).2)
  | '%' :: 's' :: t, args =>
    let (r, rest) := fillFormat t args.tail
    (args.headD [] ++ r, rest)
  | '%' :: 'd' :: t, args =>
    let (r, rest) := fillFormat t args.tail
    (args.headD ['0'] ++ r, rest)
  | c :: t, args => (c :: (fillFormat t args).1, (fillFormat t args).2)
  | [], args => ([], args)

def printf (format : Text) : (rounds : Nat) → List Text → Text
  | 0, _ => []
  | n + 1, args =>
    let (t, rest) := fillFormat format args
    if rest.isEmpty || rest.length = args.length then t else t ++ printf format n rest

def cat (files : Files) (input : Text) (names : List Text) : Result :=
  if names.isEmpty then { out := input }
  else names.foldl
    (fun r name =>
      match files.get? name with
      | some t => { r with out := r.out ++ t }
      | none =>
        { r with
          errors := r.errors ++ "cat: ".toList ++ name ++ ": No such file or directory\n".toList
          status := 1 })
    ({} : Result)

def runWords (files : Files) (input : Text) (last : Nat) : List Text → Result
  | [] => {}
  | name :: args =>
    match String.ofList name with
    | "echo" =>
      match args with
      | ['-', 'n'] :: args => { out := unescape (List.intercalate [' '] args) }
      | _ => { out := unescape (List.intercalate [' '] args) ++ ['\n'] }
    | "printf" =>
      match args with
      | [] => { errors := "sh: 1: printf: usage: printf format [arg ...]\n".toList, status := 2 }
      | format :: args => { out := printf (unescape format) (args.length + 1) args }
    | "cat" => cat files input args
    | "true" | ":" => {}
    | "false" => { status := 1 }
    | "exit" => { status := (args.head?.map (decimal · % 256)).getD last, exited := true }
    | _ => { errors := "sh: 1: ".toList ++ name ++ ": not found\n".toList, status := 127 }

def runSimple (files : Files) (input : Text) (last : Nat) (ts : List Token) : Result :=
  let words := ts.filterMap fun
    | .word w => some w
    | _ => none
  let r := runWords files input last words
  let r := if .errorsToOut ∈ ts then { r with out := r.out ++ r.errors, errors := [] } else r
  if .outToErrors ∈ ts then { r with out := [], errors := r.out ++ r.errors } else r

def splitOn (p : Token → Bool) : List Token → List (List Token)
  | [] => [[]]
  | t :: ts =>
    if p t then [] :: splitOn p ts
    else match splitOn p ts with
      | [] => [[t]]
      | part :: parts => (t :: part) :: parts

def runPipeline (files : Files) (last : Nat) (ts : List Token) : Result :=
  match splitOn (· == .pipe) ts with
  | [single] => runSimple files [] last single
  | parts =>
    parts.foldl
      (fun r part =>
        let s := runSimple files r.out last part
        { s with errors := r.errors ++ s.errors, exited := false })
      ({} : Result)

def runsAfter (sign : Token) (status : Nat) : Bool :=
  match sign with
  | .andThen => status == 0
  | .orElse => status != 0
  | _ => true

def parts (sign : Token) : List Token → List (Token × List Token)
  | [] => [(sign, [])]
  | t :: ts =>
    if t = .next ∨ t = .andThen ∨ t = .orElse then (sign, []) :: parts t ts
    else match parts sign ts with
      | (s, part) :: rest => (s, t :: part) :: rest
      | [] => [(sign, [t])]

def runParts (files : Files) (r : Result) : List (Token × List Token) → Result
  | [] => r
  | (sign, ts) :: rest =>
    if r.exited then r
    else if ts.isEmpty || !runsAfter sign r.status then runParts files r rest
    else
      let s := runPipeline files r.status ts
      runParts files { s with out := r.out ++ s.out, errors := r.errors ++ s.errors } rest

def run (files : Files) (command : Text) : Except Text Text :=
  let r := match scan .plain none command with
    | some ts => runParts files {} (parts .next ts)
    | none => { errors := "sh: 1: Syntax error: Unterminated quoted string\n".toList, status := 2 }
  if r.status = 0 then .ok r.out
  else .error ("exit status: ".toList ++ Nat.toDigits 10 r.status ++ ": ".toList ++ Text.trim r.errors)

end ModalEdit.Shell
