/-
Starting a program: the name is looked up, and a script names the program that reads it in its first line, as far as
it takes to find one that is part of the system.

- `Image.load`: what runs when a path is started, `Image.find`: the same for a name.
-/
import IncludeAudit.Text.Utf8
import IncludeAudit.Tree.Walk

namespace IncludeAudit.Shell

/-- how a program of the system starts; its name follows -/
def systemMark : Raw :=
  "\x7fELF"

def systemProgram (name : Raw) : Node :=
  .file (Raw.toBytes (systemMark ++ name)) Node.programMode

/-- how many bytes of a script are looked at -/
def maxHead : Nat := 255

/-- scripts that may name one another before it is too many -/
def maxScripts : Nat := 5

def isBlankOrTab (c : Char) : Bool :=
  c = ' ' || c = '\t'

/-- the program that the first line of a script names, and one argument for it -/
def interpreter? (bytes : Raw) : Option (Raw × Option Raw) :=
  match bytes with
  | '#' :: '!' :: r =>
    let window := r.take (maxHead - 2)
    let line := window.takeWhile (· ≠ '\n')
    let endsInside := line.length < window.length || bytes.length < maxHead
    let line := line.takeWhile (· ≠ '\x00')
    let line := line.dropWhile isBlankOrTab
    let line := (line.reverse.dropWhile isBlankOrTab).reverse
    let name := line.takeWhile (!isBlankOrTab ·)
    let argument := (line.drop name.length).dropWhile isBlankOrTab
    if name = [] ∨ (endsInside = false ∧ name.length = line.length) then none
    else some (name, if argument = [] then none else some argument)
  | _ => none

/-- a program of the system with its arguments, its own name first -/
structure Image where
  program : Raw
  arguments : List Raw
  deriving DecidableEq, Repr

namespace Image

/-- what runs when the file at a path is started -/
def load (t : Tree) (here : Place) : (scripts : Nat) → (path : Raw) → (arguments : List Raw) → Except OsError Image
  | 0, _, _ => .error .linkLoop
  | n + 1, path, arguments =>
    match t.stat here (Raw.toText path) with
    | .error e => .error e
    | .ok (.file bytes mode) =>
      if Node.startable mode = false then .error .denied
      else
        let bytes := Raw.ofBytes bytes
        if systemMark.isPrefixOf bytes then .ok { program := bytes.drop systemMark.length, arguments }
        else
          match interpreter? bytes with
          | none => .error .execFormat
          | some (name, argument) => load t here n name (name :: argument.toList ++ path :: arguments.tail)
    | .ok _ => .error .denied

def ofPath (t : Tree) (here : Place) (path : Raw) (arguments : List Raw) : Except OsError Image :=
  load t here (maxScripts + 1) path arguments

/-- directories that are searched when nothing else is said -/
def usualPath : Raw :=
  "/bin:/usr/bin"

/-- the paths that a name may mean -/
def candidates (search : Option Raw) (name : Raw) : List Raw :=
  (Text.pieces ':' (search.getD usualPath)).map fun d => if d = [] then name else d ++ '/' :: name

/-- the first candidate that can be started; one that may not be is remembered -/
def first (t : Tree) (here : Place) (arguments : List Raw) : (denied : Bool) → List Raw → Except OsError Image
  | denied, [] => .error (if denied then .denied else .noEntry)
  | denied, p :: rest =>
    match ofPath t here p arguments with
    | .ok i => .ok i
    | .error .denied => first t here arguments true rest
    | .error .noEntry | .error .notDirectory => first t here arguments denied rest
    | .error e => .error e

/-- what runs when a name is started with arguments; a name with a slash is a path -/
def find (t : Tree) (here : Place) (search : Option Raw) (name : Raw) (arguments : List Raw) : Except OsError Image :=
  if name = [] then .error .noEntry
  else if '/' ∈ name then ofPath t here name arguments
  else if 255 < name.length then .error .nameTooLong
  else first t here arguments false (candidates search name)

/-- the first candidate that is a file, as a shell looks for it -/
def lookup (t : Tree) (here : Place) (search : Option Raw) (name : Raw) : Except OsError Raw :=
  let step (found : Except OsError Raw) (p : Raw) : Except OsError Raw :=
    match found with
    | .ok q => .ok q
    | .error e =>
      match t.stat here (Raw.toText p) with
      | .ok (.file _ _) => .ok p
      | .ok _ => .error .denied
      | .error .noEntry | .error .notDirectory => .error e
      | .error e => .error e
  (candidates search name).foldl step (.error .noEntry)

end Image
end IncludeAudit.Shell
