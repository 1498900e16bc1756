/-
A system before anything is put on it: its usual directories, its devices, its programs, and what comes of starting
one of them.
-/
import IncludeAudit.Session.Launch
import IncludeAudit.Shell.Eval
import IncludeAudit.Shell.Program
import IncludeAudit.Tool.Table

namespace IncludeAudit.Shell

def systemDirectories : List Place :=
  [["bin", "usr"], ["sbin", "usr"], ["lib", "usr"], ["bin", "local", "usr"], ["local", "usr"], ["usr"], ["dev"], ["etc"],
   ["home"], ["root"], ["var"], ["opt"], ["tmp"]]

def systemLinks : List (Place × Path) :=
  [(["bin"], "usr/bin"), (["sbin"], "usr/sbin"), (["lib"], "usr/lib"), (["sh", "bin", "usr"], "dash"),
   (["stdin", "dev"], "/proc/self/fd/0"), (["stdout", "dev"], "/proc/self/fd/1"),
   (["stderr", "dev"], "/proc/self/fd/2"), (["fd", "dev"], "/proc/self/fd")]

def systemDevices : List (Place × Device) :=
  [(["null", "dev"], .null), (["zero", "dev"], .zero), (["full", "dev"], .full), (["random", "dev"], .random),
   (["urandom", "dev"], .random), (["tty", "dev"], .terminal)]

def systemPrograms : List Raw :=
  let shells : List Raw := ["dash", "bash"]
  shells ++ Tool.table.map (·.1)

def systemTree : Tree where
  nodes :=
    systemDirectories.map (fun p => (p, .directory)) ++ systemLinks.map (fun p => (p.1, .link p.2)) ++
      systemDevices.map (fun p => (p.1, .device p.2)) ++
      systemPrograms.map fun n => ([Raw.toText n, "bin", "usr"], systemProgram n)

abbrev Variables := List (Text × Text)

namespace Variables

def get? (vs : Variables) (name : Text) : Option Text :=
  (vs.find? (·.1 = name)).map (·.2)

/-- names and values as programs see them -/
def raw (vs : Variables) : List (Raw × Raw) :=
  vs.map fun p => (Raw.ofText p.1, Raw.ofText p.2)

/-- the directory for the configuration of a user, as far as variables tell: below home unless it is set and absolute -/
def configuration? (vs : Variables) : Option Path :=
  match (vs.get? "XDG_CONFIG_HOME").filter Path.isAbsolute with
  | some c => some c
  | none => ((vs.get? "HOME").filter (· ≠ [])).map (Path.join · ".config")

end Variables

/-! ## Programs -/

/-- a text that the system takes has no NUL byte -/
def hasNul (i : Invocation) : Bool :=
  '\x00' ∈ i.program || '\x00' ∈ i.directory || i.arguments.any ('\x00' ∈ ·)

def placeOf (t : Tree) (here : Place) (directory : Path) : Except OsError Place :=
  match t.locate here directory with
  | .error e => .error e
  | .ok p => if t.isDirectoryAt p then .ok p else .error .notDirectory

/-- the process that a program starts in: its input is at hand, and what it prints is gathered -/
def processIn (t : Tree) (here : Place) (input : Option Text) : St :=
  let source : Stream :=
    match input with
    | some text => .supply (Raw.ofText text)
    | none => .device .null
  { world := { tree := t, streams := #[source, .gathered [], .gathered []] }
    here
    name := []
    fds := [(0, 0), (1, 1), (2, 2)] }

/-- what a process has printed, and how it has ended -/
def endOf (s : St) : Ended :=
  let exitCode :=
    match s.exit with
    | .code n => some n
    | .signal _ => none
  { output := Raw.toBytes (s.world.gathered 1), errors := Raw.toBytes (s.world.gathered 2), exitCode,
    tree := s.world.tree }

/-- what comes of starting a program of this library, which is given variables -/
def programs (vs : Variables) : Programs := fun t here i input =>
  if hasNul i then .unstarted .nulByte
  else
    match placeOf t here i.directory with
    | .error e => .unstarted (.os e)
    | .ok place =>
      let name := Raw.ofText i.program
      let search := (vs.get? "PATH").map Raw.ofText
      match Image.find t place search name (name :: i.arguments.map Raw.ofText) with
      | .error e => .unstarted (.os e)
      | .ok image => .ended (endOf (runImage maxDepth image vs.raw (processIn t place input)))

end IncludeAudit.Shell
