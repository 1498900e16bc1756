/-
Changes to a file tree, each with the notes that a watcher of its directories would get. An edit either happens in
full or fails with an error of the operating system.
-/
import IncludeAudit.Tree.Walk

namespace IncludeAudit

inductive Change
  | created (p : Place)
  | modified (p : Place)
  | removed (p : Place)
  | moved (source target : Place)
  deriving DecidableEq, Repr

namespace Tree

/-- a changed tree and what changed -/
abbrev Edit := Except OsError (Tree × List Change)

/-- the directory that holds the last step of a path, and that step's name; a directory is no such step -/
def slot (t : Tree) (here : Place) (p : Path) : Except OsError (Place × Text) :=
  match (Text.pieces '/' p).reverse.dropWhile (· = []) with
  | [] => .error (if p = [] then .noEntry else .isDirectory)
  | last :: before =>
    match follow t maxLinks (origin here p) before.reverse with
    | .error e => .error e
    | .ok dir =>
      if t.isDirectoryAt dir = false then .error .notDirectory
      else if last = ['.'] ∨ last = ['.', '.'] then .error .isDirectory
      else if maxName < Text.bytes last then .error .nameTooLong
      else .ok (dir, last)

/-- makes the missing directories on the way from a place, from the outside in -/
def makeAll : List Text → Tree → Place → List Change → Edit
  | [], t, here, notes => if t.isDirectoryAt here then .ok (t, notes) else .error .exists_
  | p :: rest, t, here, notes =>
    match follow t maxLinks here [p] with
    | .ok next => if t.isDirectoryAt next then makeAll rest t next notes else .error .notDirectory
    | .error .noEntry =>
      if (t.node? (p :: here)).isSome then .error .exists_
      else makeAll rest (t.put (p :: here) .directory) (p :: here) (notes ++ [.created (p :: here)])
    | .error e => .error e

/-- makes a directory and every missing directory above it; one that is there is fine -/
def makeDirectory (t : Tree) (here : Place) (p : Path) : Edit :=
  if maxPath < Text.bytes p then .error .nameTooLong
  else makeAll (Text.pieces '/' p) t (origin here p) []

/-- where writing to a path puts its bytes; a dangling link leads to the place it names -/
def target (t : Tree) : (n : Nat) → (here : Place) → Path → Except OsError Place
  | 0, _, _ => .error .linkLoop
  | n + 1, here, p =>
    match slot t here p with
    | .error e => .error e
    | .ok (dir, name) =>
      if maxPath < Text.bytes p then .error .nameTooLong
      else if p.getLast? = some '/' then .error .isDirectory
      else
        match t.node? (name :: dir) with
        | some (.link next) => target t n dir next
        | some .directory => .error .isDirectory
        | _ => .ok (name :: dir)

/-- writes a file; a program that is to be written may be started, and an older file keeps its mode otherwise -/
def write (t : Tree) (here : Place) (p : Path) (bytes : List UInt8) (program : Bool) : Edit :=
  match target t (maxLinks + 1) here p with
  | .error e => .error e
  | .ok q =>
    match t.node? q with
    | some (.file _ mode) =>
      .ok (t.put q (.file bytes (if program then Node.programMode else mode)), [.modified q])
    | some (.device _) => .ok (t, [])
    | _ =>
      .ok (t.put q (.file bytes (if program then Node.programMode else Node.plainMode)), [.created q, .modified q])

/-- adds to the end of a file and makes it when it is missing -/
def append (t : Tree) (here : Place) (p : Path) (bytes : List UInt8) : Edit :=
  match target t (maxLinks + 1) here p with
  | .error e => .error e
  | .ok q =>
    match t.node? q with
    | some (.file old mode) => .ok (t.put q (.file (old ++ bytes) mode), [.modified q])
    | some (.device _) => .ok (t, [])
    | _ => .ok (t.put q (.file bytes Node.plainMode), [.created q])

/-- the path asks for a directory by a slash at its end -/
def wantsDirectory (p : Path) : Bool :=
  p.getLast? = some '/'

/-- removes a file or a link, or a directory with everything in it -/
def remove (t : Tree) (here : Place) (p : Path) : Edit :=
  match slot t here p with
  | .error e => .error e
  | .ok (dir, name) =>
    let q := name :: dir
    match t.node? q with
    | none => .error .noEntry
    | some n =>
      if wantsDirectory p ∧ n ≠ .directory then .error .notDirectory
      else
        let gone := (t.nodes.filter fun n => Place.within q n.1 && n.1 ≠ q).map (·.1)
        .ok (t.prune q, gone.map .removed ++ [.removed q])

/-- the place of a node that moves along from `source` to `goal` -/
def rebase (source goal p : Place) : Place :=
  p.take (p.length - source.length) ++ goal

/-- moves a node with everything below it; what stood at the goal is replaced when it is of the same kind and empty -/
def rename (t : Tree) (here : Place) (p q : Path) : Edit :=
  match slot t here p, slot t here q with
  | .error e, _ => .error e
  | _, .error e => .error e
  | .ok (dir, name), .ok (dir', name') =>
    let source := name :: dir
    let goal := name' :: dir'
    match t.node? source, t.node? goal with
    | none, _ => .error .noEntry
    | some .directory, some .directory =>
      if source = goal then .ok (t, [])
      else if Place.within source goal then .error .invalid
      else if t.isInhabited goal then .error .notEmpty
      else move t source goal
    | some .directory, some _ => .error .notDirectory
    | some .directory, none => if Place.within source goal then .error .invalid else move t source goal
    | some _, some .directory => .error .isDirectory
    | some _, _ =>
      if wantsDirectory p ∨ wantsDirectory q then .error .notDirectory
      else if source = goal then .ok (t, [])
      else move t source goal
where
  /-- the move itself -/
  move (t : Tree) (source goal : Place) : Edit :=
    let moving := t.nodes.filter fun n => Place.within source n.1
    let rest := ((t.prune goal).prune source).nodes
    .ok ({ nodes := moving.map (fun n => (rebase source goal n.1, n.2)) ++ rest }, [.moved source goal])

def symlink (t : Tree) (here : Place) (p : Path) (destination : Path) : Edit :=
  match slot t here p with
  | .error e => .error e
  | .ok (dir, name) =>
    if destination = [] ∨ p.getLast? = some '/' then .error .noEntry
    else if (t.node? (name :: dir)).isSome then .error .exists_
    else .ok (t.put (name :: dir) (.link destination), [.created (name :: dir)])

end Tree
end IncludeAudit
