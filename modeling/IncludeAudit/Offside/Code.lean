/-
Instructions that scripts are made into. Each one takes values from the top of a stack and puts its results there; the
places of jumps are numbers of instructions.

- `Instr`: instructions, `Code`: the instructions of one scope.
-/
import IncludeAudit.Offside.Value

namespace IncludeAudit.Offside

inductive Instr
  | const (v : Value)
  | pop
  /-- once more the value that so many others are above -/
  | copy (n : Nat)
  /-- exchanges the top with the value that so many others are above -/
  | swap (n : Nat)
  /-- variables by the number of their slot -/
  | fast (n : Nat)
  | setFast (n : Nat)
  | eraseFast (n : Nat)
  /-- variables in cells, by the number of the slot of the cell -/
  | deref (n : Nat)
  | setDeref (n : Nat)
  | eraseDeref (n : Nat)
  /-- a name of the block of a class, or else what is in the cell -/
  | classDeref (n : Nat) (name : Text)
  /-- the cell itself -/
  | cell (n : Nat)
  | global (name : Text)
  | setGlobal (name : Text)
  | eraseGlobal (name : Text)
  /-- names of a block that keeps its names in a dictionary -/
  | name (name : Text)
  | setName (name : Text)
  | eraseName (name : Text)
  | attribute (name : Text)
  | setAttribute (name : Text)
  | eraseAttribute (name : Text)
  | index
  | setIndex
  | eraseIndex
  | slice
  | unary (sign : Char)
  | binary (o : Operator)
  | update (o : Operator)
  | compare (c : Comparison)
  | tuple (n : Nat)
  | list (n : Nat)
  | set (n : Nat)
  | dict (n : Nat)
  | joined (n : Nat)
  /-- a value as text; with a layout on top of it -/
  | shown (conversion : Option Char) (hasLayout : Bool)
  /-- the top becomes an element of a collection that so many others are above -/
  | append (n : Nat)
  | add (n : Nat)
  | put (n : Nat)
  /-- elements of the top go into the list, the set or the dictionary below -/
  | extend
  | absorb
  | merge (inCall : Bool)
  | asTuple
  | jump (place : Nat)
  | jumpIf (b : Bool) (place : Nat)
  /-- the value stays when the jump is made -/
  | jumpIfKeep (b : Bool) (place : Nat)
  | iterate
  /-- the next element, or a jump when there is none -/
  | next (place : Nat)
  /-- a call with so many arguments, the last of which have names -/
  | call (n : Nat) (names : List Text)
  | callSpread (named : Bool)
  | give
  /-- fails with no value, with one, or with one and its cause -/
  | raise (n : Nat)
  /-- failures lead to a place, with the stack of now without so many values -/
  | guard (place : Nat) (under : Nat)
  | unguard
  /-- the failure on the top is the one that is being handled; the one before goes below it -/
  | caught
  | release
  /-- the failure on the top goes on; below so many values stands the one that was being handled before it -/
  | again (junk : Option Nat)
  /-- the failure below fits the class on the top -/
  | fits
  /-- takes up a value that is to be left in order: its result, above what leaves it -/
  | enter (waits : Bool)
  | leave (waits : Bool)
  /-- leaves a value because of a failure -/
  | leaveFault
  | yield
  /-- hands out what another one hands out -/
  | delegate
  | delegatee
  | awaited
  | asyncIterate
  | asyncNext
  /-- the end of the elements that are waited for -/
  | asyncEnd (place : Nat)
  /-- a function of a code, with the names of its usual values that go by name, and other parts below them -/
  | function (code : Nat) (usual : Nat) (named : List Text) (closure : Nat) (annotated : Bool)
  | load (module : Text) (dots : Nat) (whole : Bool)
  | loadFrom (name : Text)
  | loadAll
  | unpack (n : Nat)
  | unpackRest (before after : Nat)
  | annotations
  | isSequence
  | isMapping
  | length
  /-- the values of keys, with nothing when one is missing -/
  | valuesOf
  /-- what is left of a mapping without keys -/
  | without
  /-- the parts of an instance of a class -/
  | parts (n : Nat) (names : List Text)
  deriving Inhabited

inductive Running
  | plain
  | generator
  | coroutine
  | asyncGenerator
  deriving DecidableEq, Repr, Inhabited

/-- the instructions of one scope -/
structure Code where
  name : Text
  qualname : Text
  /-- the number of the source -/
  source : Nat := 0
  line : Nat := 1
  instrs : Array Instr := #[]
  /-- where the instructions come from -/
  spots : Array Spot := #[]
  /-- names of the slots: parameters, other variables, and cells from outside -/
  slots : Array Text := #[]
  /-- parameters that take arguments by place; of these, so many do not take them by name -/
  plain : Nat := 0
  placed : Nat := 0
  /-- parameters that take arguments by name only -/
  named : Nat := 0
  hasRest : Bool := false
  hasRestNamed : Bool := false
  /-- slots whose variables are in cells -/
  cells : List Nat := []
  /-- the first slot of the cells from outside -/
  outer : Nat := 0
  running : Running := .plain
  /-- names are kept in a dictionary -/
  open_ : Bool := false
  doc : Value := .none
  deriving Inhabited

end IncludeAudit.Offside
