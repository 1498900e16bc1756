/-
Finding the place that a path means, link by link. Every step needs a directory to stand in, a link is replaced by
its target, and more than forty links are too many.

- `steps`: the walk between two links, `follow`: the walk with a number of links to spare.
- `locate`: what opening a path finds, `real`: the same for the canonical spelling of a path.
- `identity`: by what a file is known, whether it is there or not.
-/
import IncludeAudit.Text.Utf8
import IncludeAudit.Tree.Basic
import IncludeAudit.Path.Basic

namespace IncludeAudit.Tree

/-- the longest name of a node, in bytes -/
def maxName : Nat := 255

/-- the longest path that can be opened, in bytes -/
def maxPath : Nat := 4095

/-- links followed before a path counts as a loop -/
def maxLinks : Nat := 40

/-- the pieces of a path that are still to be walked and the place where the walk starts -/
def origin (here : Place) (p : Path) : Place :=
  if Path.isAbsolute p then [] else here

/-- walks over the pieces of a path; `jump` goes on behind a link -/
def steps (t : Tree) (jump : Place → List Text → Except OsError Place) :
    Place → List Text → Except OsError Place
  | here, [] => .ok here
  | here, p :: rest =>
    if t.isDirectoryAt here = false then .error .notDirectory
    else if p = [] ∨ p = ['.'] then steps t jump here rest
    else if p = ['.', '.'] then steps t jump here.tail rest
    else if maxName < Text.bytes p then .error .nameTooLong
    else
      match t.node? (p :: here) with
      | none => .error .noEntry
      | some (.link target) => jump (origin here target) (Text.pieces '/' target ++ rest)
      | some _ => steps t jump (p :: here) rest

/-- walks over the pieces of a path with `n` links to spare -/
def follow (t : Tree) : (n : Nat) → Place → List Text → Except OsError Place
  | 0 => steps t fun _ _ => .error .linkLoop
  | n + 1 => steps t (follow t n)

/-- the place that a path means, seen from `here` -/
def walk (t : Tree) (here : Place) (p : Path) : Except OsError Place :=
  if p = [] then .error .noEntry else follow t maxLinks (origin here p) (Text.pieces '/' p)

/-- the place that is found when a path is opened -/
def locate (t : Tree) (here : Place) (p : Path) : Except OsError Place :=
  if maxPath < Text.bytes p then .error .nameTooLong else walk t here p

/-- the canonical spelling of a path that exists throughout -/
def real (t : Tree) (here : Place) (p : Path) : Except OsError Path :=
  match walk t here p with
  | .ok q => if maxPath < Text.bytes q.path then .error .nameTooLong else .ok q.path
  | .error e => .error e

/-- the node that is found when a path is opened -/
def stat (t : Tree) (here : Place) (p : Path) : Except OsError Node :=
  match locate t here p with
  | .ok q => (t.node? q).elim (.error .noEntry) .ok
  | .error e => .error e

def isDirectory (t : Tree) (here : Place) (p : Path) : Bool :=
  match stat t here p with
  | .ok .directory => true
  | _ => false

def isFile (t : Tree) (here : Place) (p : Path) : Bool :=
  match stat t here p with
  | .ok (.file _ _) => true
  | _ => false

/-- names directly in a directory, each once; pipes have none -/
def namesIn (t : Tree) (dir : Place) : List Text :=
  t.nodes.filterMap fun n =>
    match n.1 with
    | name :: d => if d = dir ∧ n.2 ≠ .device .pipe then some name else none
    | [] => none

/-- the place that a path means when a link at its end is not followed -/
def linkPlace (t : Tree) (here : Place) (p : Path) : Except OsError Place :=
  match (Text.pieces '/' p).reverse with
  | [] => .error .noEntry
  | last :: before =>
    if last = [] ∨ last = ['.'] ∨ last = ['.', '.'] ∨ p = [] then locate t here p
    else
      match follow t maxLinks (origin here p) before.reverse with
      | .error e => .error e
      | .ok dir =>
        if t.isDirectoryAt dir = false then .error .notDirectory
        else if maxName < Text.bytes last then .error .nameTooLong
        else if (t.node? (last :: dir)).isSome then .ok (last :: dir)
        else .error .noEntry

/-- the node that a path means when a link at its end is not followed -/
def lstat (t : Tree) (here : Place) (p : Path) : Except OsError Node :=
  match linkPlace t here p with
  | .ok q => (t.node? q).elim (.error .noEntry) .ok
  | .error e => .error e

/-! ## Reading -/

/-- why the text of a file cannot be had -/
inductive ReadError
  | os (e : OsError)
  | nulInPath
  | notUtf8
  deriving DecidableEq, Repr

def ReadError.message : ReadError → Text
  | .os e => e.message
  | .nulInPath => "file name contained an unexpected NUL byte"
  | .notUtf8 => "stream did not contain valid UTF-8"

/-- the text of the file at a path, as a superuser reads it: the mode is not looked at; no device is waited for, each is
read as an empty text -/
def readText (t : Tree) (here : Place) (p : Path) : Except ReadError Text :=
  if '\x00' ∈ p then .error .nulInPath
  else
    match stat t here p with
    | .error e => .error (.os e)
    | .ok (.file bytes _) => (Utf8.decode? bytes).elim (.error .notUtf8) .ok
    | .ok (.device _) => .ok []
    | .ok _ => .error (.os .isDirectory)

end IncludeAudit.Tree

/-!
## Identities

One identity for each source file. A path that exists throughout is identified by its canonical spelling, so links
make no difference; any other path by its lexical normal form, so a file that is not there yet has an identity too.
-/

namespace IncludeAudit.Tree

/-- the identity of the file that a path names, seen from `here` -/
def identity (t : Tree) (here : Place) (p : Path) : Path :=
  if '\x00' ∈ p then Path.normal p
  else
    match real t here p with
    | .ok q => q
    | .error _ => Path.normal p

end IncludeAudit.Tree
