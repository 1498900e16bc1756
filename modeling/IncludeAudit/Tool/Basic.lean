/-
What a tool is given and what it gives back. A tool sees its arguments, its environment, the file tree and its input;
it answers with what it prints on its two channels, how much of the input it has taken, a changed tree, and commands
that are to be run on its behalf. A tool that needs the outcome of a command asks for it and is called again.

- `Call` and `Answer`: the two sides of a tool, `options`: the usual form of arguments.
-/
import IncludeAudit.Text.Characters
import IncludeAudit.Tree.Edit

namespace IncludeAudit.Tool

/-- where complaints of a command go that a tool waits for -/
inductive Complaints
  /-- where those of the tool go -/
  | shared
  /-- to the tool -/
  | captured
  /-- where the output of the command goes -/
  | joined
  deriving DecidableEq, Repr

/-- a command that a tool waits for -/
structure Ask where
  command : List Raw
  /-- what it reads in place of the input of the tool -/
  input : Option Raw := none
  /-- its output goes to the tool -/
  captured : Bool := false
  complaints : Complaints := .shared
  /-- its environment and its directory, if they are not those of the tool -/
  environment : Option (List (Raw × Raw)) := none
  place : Option Place := none
  deriving DecidableEq, Repr

/-- what has come of a command that a tool has waited for -/
structure Told where
  output : Raw := []
  complaints : Raw := []
  /-- what is left of an input that the command has been given -/
  left : Raw := []
  status : Nat := 0
  /-- the command has been ended by a signal -/
  signal : Option Nat := none
  /-- the file tree behind the command -/
  tree : Tree
  /-- milliseconds that the command has taken -/
  spent : Nat := 0

structure Call where
  /-- the name under which it is called -/
  name : Raw
  arguments : List Raw
  environment : List (Raw × Raw) := []
  tree : Tree
  here : Place
  input : Raw := []
  /-- the size of the file that the input is, when it is one -/
  inputSize : Option Nat := none
  /-- the file that the output goes to, when it goes to one -/
  output : Option Place := none
  /-- what can be read under the names of other open descriptors -/
  opened : List (Raw × Raw) := []
  /-- bits that new files do not get -/
  umask : Nat := 0o022
  /-- the outcomes of the commands that the tool has asked for -/
  told : List Told := []

/-- how much of its input a tool takes -/
inductive Taken
  | nothing
  | exactly (n : Nat)
  /-- what is needed, but of a pipe whole blocks -/
  | blocks (n : Nat)
  | everything
  deriving DecidableEq, Repr

/-- milliseconds that commands may take, and what happens to those that take longer -/
structure Limit where
  span : Nat
  /-- the signal that ends them -/
  signal : Nat := 15
  /-- the status of the tool is then that of the command -/
  keeps : Bool := false
  deriving DecidableEq, Repr

/-- something to be done after a tool has answered -/
inductive Step
  | say (isError : Bool) (r : Raw)
  /-- runs a command; what is given takes the place of the input, the environment and the directory of the tool -/
  | run (command : List Raw) (input : Option Raw) (environment : Option (List (Raw × Raw))) (place : Option Place)
  /-- leaves out further steps unless the last command has succeeded -/
  | skipUnlessOk (steps : Nat)
  deriving DecidableEq, Repr

/-- the exit status of a tool that runs commands -/
inductive Outcome
  | own
  /-- that of the last command -/
  | last
  /-- 1 when a command fails -/
  | failing
  /-- 123 when a command fails, with 124, 126 and 127 for those that could not go on -/
  | gathered
  /-- none: the tool ends itself by a signal -/
  | signal (n : Nat)
  deriving DecidableEq, Repr

/-- what a tool gives back -/
structure Answer where
  /-- what is printed, in order; true for the error channel -/
  said : List (Bool × Raw) := []
  status : Nat := 0
  taken : Taken := .nothing
  tree : Option Tree := none
  steps : List Step := []
  outcome : Outcome := .own
  /-- a command that comes first; the tool is then called once more, with what has come of it -/
  ask : Option Ask := none
  /-- milliseconds that the tool waits before it answers -/
  slept : Nat := 0
  /-- how long its commands may take -/
  limit : Option Limit := none

namespace Answer

def print (r : Raw) : Answer :=
  { said := [(false, r)] }

/-- a complaint on the error channel -/
def fail (message : Raw) (status : Nat) : Answer :=
  { said := [(true, message ++ ['\n'])], status }

/-- one answer behind another; complaints come first, since printing waits in a buffer -/
def buffered (errors output : Raw) (status : Nat) : Answer :=
  { said := (if errors = [] then [] else [(true, errors)]) ++ if output = [] then [] else [(false, output)], status }

end Answer

/-! ## Languages -/

namespace Locale

/-- the variables that name how text is spelled; the first one that says something counts -/
def names : List Raw :=
  ["LC_ALL", "LC_CTYPE", "LANG"]

/-- text is spelled in UTF-8, unless the variables name another way -/
def isWide (environment : List (Raw × Raw)) : Bool :=
  let values := names.filterMap fun n => (environment.find? (·.1 = n)).map (·.2)
  match values.find? (· ≠ []) with
  | some v => v ∈ ([("C.UTF-8" : Raw), "C.utf8"] : List Raw)
  | none => true

end Locale

/-! ## Names in complaints -/

def escapeLetter? (c : Char) : Option Char :=
  (("\x07\x08\t\n\x0b\x0c\r".toList.zip "abtnvfr".toList).find? (·.1 = c)).map (·.2)

/-- a byte that is not shown as it is: its escape -/
def escapeOf? (c : Char) : Option Raw :=
  match escapeLetter? c with
  | some l => some ['\\', l]
  | none =>
    if ' ' ≤ c ∧ c ≤ '~' then none
    else
      let n := c.toNat
      some ('\\' :: [n / 64, n / 8 % 8, n % 8].map fun d => Char.ofNat (48 + d))

/-- characters that can stand in a file name without quotes -/
def isPlainInName (c : Char) : Bool :=
  c.isAlphanum || c ∈ ("%+,-./@]_\x7b\x7d" : Raw)

/-- characters that need no care in double quotes either -/
def isMildInName (c : Char) : Bool :=
  c.isAlphanum || c ∈ (" '%+,-./:]_" : Raw)

/-! ### Quotations

What stands in quotation marks is shown as the environment asks: between curved marks where text is spelled in UTF-8,
between straight ones otherwise, and what could not be shown is escaped. Until it is printed, a quotation is kept in
characters that are no bytes. -/

namespace Quotation

inductive Kind
  /-- between the marks of the language -/
  | spoken
  /-- as a shell would read it -/
  | name
  /-- the same, but only when it could be misread -/
  | sparing
  deriving DecidableEq, Repr

def Kind.sign : Kind → Char
  | .spoken => '‘'
  | .name => '‹'
  | .sparing => '«'

/-- the sign behind every quotation -/
def closing : Char := '’'

def Kind.ofSign? (c : Char) : Option Kind :=
  [Kind.spoken, .name, .sparing].find? fun k => k.sign = c

def mark (k : Kind) (t : Raw) : Raw :=
  k.sign :: t.map (fun c => Char.ofNat (256 + c.toNat)) ++ [closing]

/-- the escape of a byte by its number -/
def octal (c : Char) : Raw :=
  let n := c.toNat
  '\\' :: [n / 64, n / 8 % 8, n % 8].map fun d => Char.ofNat (48 + d)

/-- the pieces of a text: what can be shown as it is, or, with true, an escape -/
def pieces (wide : Bool) (t : Raw) : List (Bool × Raw) :=
  (if wide then Raw.characters t else t).map fun c =>
    if wide ∧ 128 ≤ c.toNat then
      if Raw.isStray c then (true, octal (Char.ofNat (c.toNat - Raw.strayBase)))
      else if Text.isPrintable c then (false, Raw.ofText [c])
      else (true, (Raw.ofText [c]).flatMap octal)
    else
      match escapeOf? c with
      | some e => (true, e)
      | none => (false, [c])

/-- a text between the marks of the language -/
def inWords (wide : Bool) (t : Raw) : Raw :=
  let curved (c : Char) : Raw := if wide then Raw.ofText [c] else ['\'']
  curved '‘' ++
    (pieces wide t).flatMap (fun p =>
      if p.2 = ['\\'] ∨ (p.2 = ['\''] ∧ !wide) then '\\' :: p.2 else p.2) ++ curved '’'

/-- a name in quotes as a shell would read it -/
def inQuotes (wide : Bool) (name : Raw) : Raw :=
  let ps := pieces wide name
  let isMild : Bool := ps.all fun p => !p.1 && p.2.all fun c => isMildInName c || 128 ≤ c.toNat
  if '\'' ∈ name ∧ isMild then '"' :: name ++ ['"']
  else
    let (shown, _) := ps.foldl (fun (acc : Raw × Bool) p =>
      if p.1 then (acc.1 ++ (if acc.2 then p.2 else "'$'" ++ p.2), true)
      else
        let lead : Raw := if acc.2 then "''" else []
        let escaped : Raw := "'\\''"
        (acc.1 ++ lead ++ (if p.2 = ['\''] then escaped else p.2), false)) (['\''], false)
    shown ++ ['\'']

def inSparingQuotes (wide : Bool) (name : Raw) : Raw :=
  let isPlain : Bool := (pieces wide name).all fun p =>
    !p.1 && p.2.all fun c => isPlainInName c || c = '#' || c = '~' || 128 ≤ c.toNat
  let alone : List Raw := ["\x7b", "\x7d"]
  if name ≠ [] ∧ isPlain ∧ name.head? ≠ some '#' ∧ name.head? ≠ some '~' ∧ !alone.contains name then name
  else inQuotes wide name

def shown (wide : Bool) (k : Kind) (t : Raw) : Raw :=
  match k with
  | .spoken => inWords wide t
  | .name => inQuotes wide t
  | .sparing => inSparingQuotes wide t

/-- the bytes that are printed; `open_` is the quotation around the place, with its bytes, the latest first -/
def spokenFrom (wide : Bool) : Raw → (open_ : Option (Kind × Raw)) → Raw
  | [], none => []
  | [], some (k, t) => shown wide k t.reverse
  | c :: r, some (k, t) =>
    if c = closing then shown wide k t.reverse ++ spokenFrom wide r none
    else spokenFrom wide r (some (k, Char.ofNat (c.toNat - 256) :: t))
  | c :: r, none =>
    match Kind.ofSign? c with
    | some k => spokenFrom wide r (some (k, []))
    | none => c :: spokenFrom wide r none

/-- a text as it is printed -/
def spoken (wide : Bool) (r : Raw) : Raw :=
  if r.any fun c => 256 ≤ c.toNat then spokenFrom wide r none else r

end Quotation

/-- a text in quotation marks, with escapes for what could not be shown -/
def quote (t : Raw) : Raw :=
  Quotation.mark .spoken t

def quoteName (name : Raw) : Raw :=
  Quotation.mark .name name

/-- a name, in quotes when it could be misread -/
def showName (name : Raw) : Raw :=
  Quotation.mark .sparing name

def Answer.spoken (a : Answer) (wide : Bool) : Answer :=
  let said := a.said.map fun p => (p.1, Quotation.spoken wide p.2)
  let steps := a.steps.map fun s =>
    match s with
    | .say isError r => .say isError (Quotation.spoken wide r)
    | s => s
  { a with said, steps }

/-! ## Options -/

structure Option_ where
  letter : Char
  long : Raw := []
  /-- an option with a value -/
  valued : Bool := false
  /-- an option with a value that may be left out and stands right behind the letter -/
  attached : Bool := false
  deriving DecidableEq, Repr

/-- options without long names: a colon follows a letter that takes a value -/
def letters : Raw → List Option_
  | c :: ':' :: r => { letter := c, valued := true } :: letters r
  | c :: r => { letter := c } :: letters r
  | [] => []

def option (letter : Char) (long : Raw) : Option_ :=
  { letter, long }

def valuedOption (letter : Char) (long : Raw) : Option_ :=
  { letter, long, valued := true }

/-- options given, with their values, and the other arguments -/
structure Parsed where
  given : List (Char × Raw) := []
  operands : List Raw := []
  deriving DecidableEq, Repr

namespace Parsed

/-- the option was given -/
def has (p : Parsed) (c : Char) : Bool :=
  p.given.any (·.1 = c)

def value? (p : Parsed) (c : Char) : Option Raw :=
  (p.given.reverse.find? (·.1 = c)).map (·.2)

def values (p : Parsed) (c : Char) : List Raw :=
  (p.given.filter (·.1 = c)).map (·.2)

end Parsed

/-- the letters of one argument; the rest of a letter that takes a value is that value -/
def readLetters (known : List Option_) : Raw → List Raw → Parsed → Except Raw (Parsed × List Raw)
  | [], rest, p => .ok (p, rest)
  | c :: r, rest, p =>
    match known.find? (·.letter = c) with
    | none => .error ("invalid option -- '" ++ [c, '\''])
    | some o =>
      if o.attached then .ok ({ p with given := p.given ++ [(c, r)] }, rest)
      else if o.valued then
        match r, rest with
        | [], v :: rest => .ok ({ p with given := p.given ++ [(c, v)] }, rest)
        | [], [] => .error ("option requires an argument -- '" ++ [c, '\''])
        | v, rest => .ok ({ p with given := p.given ++ [(c, v)] }, rest)
      else readLetters known r rest { p with given := p.given ++ [(c, [])] }

/-- arguments with options anywhere in front of `--`; with `strict` the first other argument ends the options -/
def readOptions (known : List Option_) (strict : Bool) :
    (fuel : Nat) → List Raw → Parsed → Except Raw Parsed
  | 0, _, p => .ok p
  | _, [], p => .ok p
  | fuel + 1, a :: rest, p =>
    match a with
    | ['-', '-'] => .ok { p with operands := p.operands ++ rest }
    | '-' :: '-' :: l =>
      let name := l.takeWhile (· ≠ '=')
      let matching := known.filter fun o => o.long ≠ [] && name.isPrefixOf o.long
      let exact := matching.filter (·.long = name)
      match (if exact.isEmpty then matching else exact) with
      | [o] =>
        let value? : Option Raw := if name.length < l.length then some (l.drop (name.length + 1)) else none
        match o.valued, value?, rest with
        | true, some v, _ => readOptions known strict fuel rest { p with given := p.given ++ [(o.letter, v)] }
        | true, none, v :: rest => readOptions known strict fuel rest { p with given := p.given ++ [(o.letter, v)] }
        | true, none, [] => .error ("option '--" ++ o.long ++ "' requires an argument")
        | false, none, _ => readOptions known strict fuel rest { p with given := p.given ++ [(o.letter, [])] }
        | false, some v, _ =>
          -- a value that may be left out
          readOptions known strict fuel rest { p with given := p.given ++ [(o.letter, v)] }
      | [] => .error ("unrecognized option '" ++ a ++ ['\''])
      | many =>
        let possible : Raw := many.flatMap fun o => (" '--" : Raw) ++ o.long ++ ['\'']
        .error ("option '" ++ a ++ "' is ambiguous; possibilities:" ++ possible)
    | '-' :: c :: r =>
      match readLetters known (c :: r) rest p with
      | .ok (p, rest) => readOptions known strict fuel rest p
      | .error e => .error e
    | _ =>
      if strict then .ok { p with operands := p.operands ++ a :: rest }
      else readOptions known strict fuel rest { p with operands := p.operands ++ [a] }

def options (known : List Option_) (strict : Bool) (arguments : List Raw) : Except Raw Parsed :=
  readOptions known strict (arguments.length + 1) arguments {}

/-- a number with a letter for its unit: powers of 1024, or of 1000 with a `B` behind the letter -/
def size? (t : Raw) : Option Nat :=
  let digits := t.takeWhile Char.isDigit
  let n := Raw.toNat digits
  let power (c : Char) : Option Nat :=
    match c with
    | 'k' | 'K' => some 1
    | 'm' | 'M' => some 2
    | 'g' | 'G' => some 3
    | 't' | 'T' => some 4
    | _ => none
  if digits = [] then none
  else
    match t.drop digits.length with
    | [] => some n
    | ['b'] => some (n * 512)
    | [c] => (power c).map fun k => n * Nat.pow 1024 k
    | [c, 'B'] => (power c).map fun k => n * Nat.pow 1000 k
    | [c, 'i', 'B'] => (power c).map fun k => n * Nat.pow 1024 k
    | _ => none

/-- more bytes than are ever read of a source that does not end -/
def endless : Nat := 1048576

namespace Call

/-- a complaint under the name of the tool -/
def fail (c : Call) (message : Raw) (status : Nat) : Answer :=
  .fail (c.name ++ ": " ++ message) status

/-- a complaint about the arguments -/
def misused (c : Call) (message : Raw) (status : Nat) : Answer :=
  .fail (c.name ++ ": " ++ message ++ "\nTry '" ++ c.name ++ " --help' for more information.") status

def parse (c : Call) (known : List Option_) (status : Nat) (f : Parsed → Answer) : Answer :=
  match options known false c.arguments with
  | .ok p => f p
  | .error e => c.misused e status

/-- the value of a variable of the environment -/
def setting? (c : Call) (name : Raw) : Option Raw :=
  (c.environment.find? (·.1 = name)).map (·.2)

/-- text goes by characters of UTF-8, and not by bytes -/
def isWide (c : Call) : Bool :=
  Locale.isWide c.environment

def stat (c : Call) (p : Raw) : Except OsError Node :=
  c.tree.stat c.here (Raw.toText p)

/-- so many bytes that follow no rule -/
def randomBytes : (count : Nat) → (state : UInt32) → Raw → Raw
  | 0, _, r => r
  | n + 1, state, r =>
    let state := state * 1664525 + 1013904223
    randomBytes n state (Char.ofNat (state >>> 24).toNat :: r)

/-- the bytes that a device gives -/
def given : Device → Except OsError Raw
  | .null | .pipe => .ok []
  | .zero | .full => .ok (List.replicate endless '\x00')
  | .random => .ok (randomBytes endless 4242 [])
  | .terminal => .error .noDevice

/-- a path leads to the pipe that a descriptor has a name for -/
def isPipe (c : Call) (p descriptor : Raw) : Bool :=
  match c.tree.locate c.here (Raw.toText p), c.tree.locate c.here (Raw.toText descriptor) with
  | .ok q, .ok d => q = d && c.tree.node? q = some (.device .pipe)
  | _, _ => false

def isInputName (p : Raw) : Bool :=
  p = "/dev/stdin" || p = "/dev/fd/0" || p = "/proc/self/fd/0"

/-- the bytes of the file at a path -/
def read (c : Call) (p : Raw) : Except OsError Raw :=
  if isInputName p then .ok c.input
  else
    match c.opened.find? (·.1 = p) with
    | some f => .ok f.2
    | none =>
      match c.stat p with
      | .ok (.file bytes _) => .ok (Raw.ofBytes bytes)
      | .ok (.device d) => given d
      | .ok _ => .error .isDirectory
      | .error e => .error e

/-- the bytes of the file at a path, or of the input for a dash -/
def readInput (c : Call) (p : Raw) : Except OsError Raw :=
  if p = ['-'] then .ok c.input else c.read p

/-- how much of the input is taken by a tool that reads files: all of it if the input is among them -/
def takenBy (files : List Raw) : Taken :=
  if files = [] ∨ files.any fun f => f = ['-'] || isInputName f then .everything else .nothing

/-- the contents of several files, or of the input, one after another, with complaints about those that cannot be
read -/
def gather (c : Call) (files : List Raw) : List (Raw × Raw) × Raw :=
  let files := if files = [] then [['-']] else files
  let r := files.foldl (fun (acc : List (Raw × Raw) × Raw × Bool) f =>
    let (got, complaints, used) := acc
    if (f = ['-'] || isInputName f) && used then (got ++ [(f, [])], complaints, used)
    else
      match c.readInput f with
      | .ok r => (got ++ [(f, r)], complaints, used || f = ['-'] || isInputName f)
      | .error e => (got, complaints ++ c.name ++ ": " ++ showName f ++ ": " ++ e.words ++ ['\n'], used)) ([], [], false)
  (r.1, r.2.1)

end Call
end IncludeAudit.Tool
