/-
A file tree: directories, files and symbolic links, each at its place. A place is the list of names from the node
itself up to the root, so that the node's directory is the tail of its place and the root is the empty place.
-/
import IncludeAudit.Path.Basic

namespace IncludeAudit

/-- what the operating system refuses -/
inductive OsError
  | noEntry
  | execFormat
  | denied
  | exists_
  | notDirectory
  | isDirectory
  | invalid
  | nameTooLong
  | notEmpty
  | linkLoop
  | noDevice
  deriving DecidableEq, Repr

namespace OsError

def words : OsError → Text
  | .noEntry => "No such file or directory"
  | .execFormat => "Exec format error"
  | .denied => "Permission denied"
  | .exists_ => "File exists"
  | .notDirectory => "Not a directory"
  | .isDirectory => "Is a directory"
  | .invalid => "Invalid argument"
  | .nameTooLong => "File name too long"
  | .notEmpty => "Directory not empty"
  | .linkLoop => "Too many levels of symbolic links"
  | .noDevice => "No such device or address"

def number : OsError → Nat
  | .noEntry => 2
  | .execFormat => 8
  | .denied => 13
  | .exists_ => 17
  | .notDirectory => 20
  | .isDirectory => 21
  | .invalid => 22
  | .nameTooLong => 36
  | .notEmpty => 39
  | .linkLoop => 40
  | .noDevice => 6

def message (e : OsError) : Text :=
  e.words ++ " (os error " ++ Text.ofNat e.number ++ ")"

end OsError

/-- the names from a node up to the root, its own name first -/
abbrev Place := List Text

/-- files that hold no bytes of their own -/
inductive Device
  /-- takes everything and gives nothing -/
  | null
  /-- gives zero bytes without end -/
  | zero
  /-- takes nothing -/
  | full
  /-- gives bytes that follow no rule -/
  | random
  /-- cannot be opened where there is no terminal -/
  | terminal
  /-- what is put in at one end comes out at the other -/
  | pipe
  deriving DecidableEq, Repr

def Device.title : Device → Text
  | .null => "null"
  | .zero => "zero"
  | .full => "full"
  | .random => "urandom"
  | .terminal => "tty"
  | .pipe => "pipe"

/-- What stands at a place. The mode of a file has nine bits that say who may read, write and start it. The tree is seen
by a superuser: reading and writing never look at them, and a program only asks whether anybody may start a file. -/
inductive Node
  | directory
  | file (bytes : List UInt8) (mode : Nat)
  | link (target : Path)
  | device (d : Device)
  deriving DecidableEq, Repr

namespace Node

def plainMode : Nat := 0o644

def programMode : Nat := 0o755

/-- somebody may start a file with this mode -/
def startable (mode : Nat) : Bool :=
  mode &&& 0o111 ≠ 0

end Node

/-- a file tree; the root is always there -/
structure Tree where
  nodes : List (Place × Node) := []
  deriving DecidableEq, Repr

namespace Place

/-- the plain absolute spelling of a place -/
def path (p : Place) : Path :=
  Path.ofComponents (.root :: p.reverse.map .name)

/-- `p` is `top` or lies below it -/
def within (top p : Place) : Bool :=
  top.isSuffixOf p

end Place

namespace Tree

def node? (t : Tree) (p : Place) : Option Node :=
  if p = [] then some .directory else (t.nodes.find? (·.1 = p)).map (·.2)

def isDirectoryAt (t : Tree) (p : Place) : Bool :=
  t.node? p = some .directory

/-- something lies directly in the directory -/
def isInhabited (t : Tree) (p : Place) : Bool :=
  t.nodes.any fun n => n.1 ≠ [] ∧ n.1.tail = p

/-- puts a node at a place, in front of what was there -/
def put (t : Tree) (p : Place) (n : Node) : Tree :=
  { nodes := (p, n) :: t.nodes.filter (·.1 ≠ p) }

/-- takes away a node with everything below it -/
def prune (t : Tree) (p : Place) : Tree :=
  { nodes := t.nodes.filter fun n => !Place.within p n.1 }

end Tree
end IncludeAudit
