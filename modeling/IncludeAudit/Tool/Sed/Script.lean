/-
Scripts that edit text line by line. A command has up to two addresses, which say for which lines it runs, and an
action. Blocks and jumps are places in the list of commands.
-/
import IncludeAudit.Regex.Reader

namespace IncludeAudit.Tool.Sed

/-- an expression to be searched for; none stands for the one that was used last -/
structure Search where
  regex : Option Regex
  mode : Regex.Mode := {}
  deriving DecidableEq, Repr

/-- which lines are meant -/
inductive Address
  | line (n : Nat)
  | last
  /-- every line that a step leads to -/
  | step (first by_ : Nat)
  | found (s : Search)
  /-- a number of further lines -/
  | further (n : Nat)
  /-- the next line with a number that can be divided -/
  | multiple (n : Nat)
  deriving DecidableEq, Repr

/-- what is done to the case of letters -/
inductive Letters
  | asTheyAre
  | small
  | capital
  deriving DecidableEq, Repr

inductive Part
  | text (t : Raw)
  /-- what a group has matched; the whole match for zero -/
  | group (n : Nat)
  /-- the case of all letters from here on -/
  | letters (l : Letters)
  /-- the case of the next letter -/
  | letter (l : Letters)
  deriving DecidableEq, Repr

structure Replacing where
  search : Search
  parts : List Part
  all : Bool := false
  /-- the first match that counts -/
  number : Nat := 1
  print : Bool := false
  file : Option Raw := none
  deriving DecidableEq, Repr

inductive Jump
  | always
  /-- after a replacement -/
  | replaced
  /-- without a replacement -/
  | unreplaced
  deriving DecidableEq, Repr

/-- what a command does -/
inductive Action
  /-- goes to a place unless the addresses fit -/
  | enter (stop : Nat)
  | nothing
  | jump (when_ : Jump) (label : Raw)
  | append (t : Raw)
  | insert (t : Raw)
  | change (t : Raw)
  | number
  | delete
  | deleteFirst
  | get
  | getMore
  | hold
  | holdMore
  | exchange
  | next
  | nextMore
  | print
  | printFirst
  | quit (status : Nat)
  | leave (status : Nat)
  | list (width : Option Nat)
  | readFile (f : Raw)
  | readLine (f : Raw)
  | write (f : Raw)
  | writeFirst (f : Raw)
  | replace (r : Replacing)
  | translate (pairs : List (Char × Char))
  | clear
  | fileName
  deriving DecidableEq, Repr

structure Command where
  first : Option Address := none
  second : Option Address := none
  negated : Bool := false
  action : Action
  deriving DecidableEq, Repr

/-- a script: its commands, the places of labels, and whether lines are printed only when it says so -/
structure Script where
  commands : Array Command := #[]
  labels : List (Raw × Nat) := []
  silent : Bool := false
  deriving Repr

/-- the files that a command writes -/
def Action.files : Action → List Raw
  | .write f | .writeFirst f => [f]
  | .replace r => r.file.toList
  | _ => []

end IncludeAudit.Tool.Sed
