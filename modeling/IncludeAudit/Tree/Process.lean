/-
What a file tree shows of a process that looks at it: the descriptors that it holds open, as links to what they lead
to, and a few facts of its own. All of it lies below `proc`, and none of it is kept when the process is over.

- `OpenEnd`: what a descriptor leads to, `Process`: what is shown of a process.
- `Tree.withProcess`: the tree as a process sees it, `Tree.withoutProcesses`: the tree without what is shown of processes.
-/
import IncludeAudit.Tree.Walk

namespace IncludeAudit

/-- what an open descriptor leads to -/
inductive OpenEnd
  | node (p : Place)
  /-- one end of a pipe, which stands at no place; pipes are told apart by numbers -/
  | pipe (number : Nat)
  deriving DecidableEq, Repr

structure Process where
  /-- its open descriptors -/
  descriptors : List (Nat × OpenEnd)
  here : Place
  /-- the file of its program -/
  program : Path
  /-- its name, its arguments and its environment, as the files that hold them -/
  facts : List (Text × List UInt8)
  /-- the numbers that it is looked for by -/
  numbers : List Text

namespace Tree

def processes : Place := ["proc"]

/-- the directory of what a process is shown of itself -/
def ownProcess : Place := "self" :: processes

def ownDescriptors : Place := "fd" :: ownProcess

def pipeName (number : Nat) : Text :=
  "pipe:[" ++ Text.ofNat (40000 + number) ++ [']']

/-- what an open descriptor is shown as: a link, and for a pipe what the link leads to -/
def descriptorNodes (n : Nat) : OpenEnd → List (Place × Node)
  | .node p => [(Text.ofNat n :: ownDescriptors, .link p.path)]
  | .pipe k => [(Text.ofNat n :: ownDescriptors, .link (pipeName k)), (pipeName k :: ownDescriptors, .device .pipe)]

def processNodes (p : Process) : List (Place × Node) :=
  [(processes, .directory), (ownProcess, .directory), (ownDescriptors, .directory),
   ("cwd" :: ownProcess, .link p.here.path), ("exe" :: ownProcess, .link p.program)] ++
  (p.facts.map fun f => (f.1 :: ownProcess, .file f.2 0o444)) ++
  (p.numbers.map fun n => (n :: processes, .link "self")) ++
  p.descriptors.flatMap fun d => descriptorNodes d.1 d.2

def withProcess (t : Tree) (p : Process) : Tree :=
  { nodes := processNodes p ++ t.nodes }

def withoutProcesses (t : Tree) : Tree :=
  t.prune processes

/-- the pipe that stands at a place, among some numbers -/
def pipeAt? (numbers : List Nat) (p : Place) : Option Nat :=
  numbers.find? fun k => p = pipeName k :: ownDescriptors

end Tree
end IncludeAudit
