/-
Programs that work through records. A program is a list of rules, each with a pattern that says for which records its
statements run. What can be assigned to is kept apart from other expressions.
-/
import IncludeAudit.Regex.Basic

namespace IncludeAudit.Tool.Awk

/-- where a variable is kept -/
inductive Name
  | global (n : Nat)
  /-- a parameter of the function around it -/
  | parameter (n : Nat)
  deriving DecidableEq, Repr

/-- operators on numbers -/
inductive Arithmetic
  | add
  | sub
  | mul
  | div
  | mod
  | pow
  deriving DecidableEq, Repr

inductive Comparison
  | less
  | lessOrSame
  | same
  | other
  | more
  | moreOrSame
  deriving DecidableEq, Repr

mutual

/-- what a value can be assigned to -/
inductive Target
  | variable_ (n : Name)
  | element (array : Name) (index : List Expr)
  | field (e : Expr)

inductive Expr
  | number (x : Float)
  | text (t : Raw)
  /-- an expression to be searched for; by itself, in the record -/
  | regex (r : Regex)
  | value (t : Target)
  /-- an expression in parentheses -/
  | group (e : Expr)
  | assign (t : Target) (o : Option Arithmetic) (e : Expr)
  /-- one more or one less; `first` says that the value is the one after the change -/
  | count (t : Target) (o : Arithmetic) (first : Bool)
  | choice (c a b : Expr)
  | both (a b : Expr)
  | either (a b : Expr)
  | not (e : Expr)
  | negative (e : Expr)
  | positive (e : Expr)
  | arithmetic (o : Arithmetic) (a b : Expr)
  | compare (o : Comparison) (a b : Expr)
  | concat (a b : Expr)
  | matches_ (negated : Bool) (a b : Expr)
  | member (index : List Expr) (array : Name)
  | call (function : Nat) (arguments : List Expr)
  | builtIn (name : Raw) (arguments : List Expr)
  | read (from_ : Origin) (into : Option Target)

/-- where a record is read from -/
inductive Origin
  | main
  | file (e : Expr)
  | command (e : Expr)

end

instance : Inhabited Expr := ⟨.number 0⟩

/-- where output goes -/
inductive Outlet
  | file
  | append
  | command
  deriving DecidableEq, Repr

inductive Statement
  | nothing
  | expr (e : Expr)
  | print (es : List Expr) (to_ : Option (Outlet × Expr))
  | printf (es : List Expr) (to_ : Option (Outlet × Expr))
  | sequence (a b : Statement)
  | choice (c : Expr) (a b : Statement)
  | while_ (c : Expr) (b : Statement)
  /-- at least one round -/
  | until_ (b : Statement) (c : Expr)
  | count (first : Statement) (c : Option Expr) (step b : Statement)
  | each (n : Name) (array : Name) (b : Statement)
  | delete (array : Name) (index : Option (List Expr))
  | next
  | nextFile
  | exit (e : Option Expr)
  | return_ (e : Option Expr)
  | break_
  | continue_

/-- for which records a rule runs -/
inductive Pattern
  | start
  | finish
  | always
  | holds (e : Expr)
  | range (a b : Expr)

/-- statements with the pattern of their records; without statements the record is printed -/
structure Rule where
  pattern : Pattern
  body : Statement

/-- a function; it has been defined when there is a body -/
structure Function where
  name : Raw
  parameters : Nat := 0
  body : Option Statement := none

structure Program where
  rules : List Rule := []
  functions : Array Function := #[]
  /-- the names of variables by their places -/
  names : Array Raw := #[]

/-- variables that every program has, in their places -/
def specialNames : Array Raw :=
  (Raw.words ("NF NR FNR FS OFS ORS RS FILENAME SUBSEP RSTART RLENGTH CONVFMT OFMT ENVIRON ARGC ARGV")).toArray

/-- the place of a special variable -/
def special (n : Raw) : Nat :=
  (specialNames.findIdx? (· = n)).getD 0

end IncludeAudit.Tool.Awk
