/-
Scripts whose blocks are shown by indentation: expressions, patterns and statements. Parts that can fail carry the spot
of the source where they stand, so that a failure can point at it.
-/
import IncludeAudit.Text.Utf8

namespace IncludeAudit.Offside

/-- a part of the source, with the columns inside it that matter most -/
structure Spot where
  line : Nat := 0
  first : Nat := 0
  /-- the column behind it; none when it goes on to further lines -/
  last : Option Nat := none
  anchor : Option (Nat × Nat) := none
  deriving DecidableEq, Repr, Inhabited

/-- operators of two values -/
inductive Operator
  | add
  | sub
  | mul
  | div
  | floorDiv
  | mod
  | pow
  | matMul
  | bitAnd
  | bitOr
  | bitXor
  | shiftLeft
  | shiftRight
  deriving DecidableEq, Repr

/-- the operators as they are written, with the middle part of the names of the methods that carry them out -/
def Operator.table : List (Text × Operator × Text) :=
  [("+", .add, "add"), ("-", .sub, "sub"), ("*", .mul, "mul"), ("/", .div, "truediv"), ("//", .floorDiv, "floordiv"),
   ("%", .mod, "mod"), ("**", .pow, "pow"), ("@", .matMul, "matmul"), ("&", .bitAnd, "and"), ("|", .bitOr, "or"),
   ("^", .bitXor, "xor"), ("<<", .shiftLeft, "lshift"), (">>", .shiftRight, "rshift")]

def Operator.signs : List (Text × Operator) :=
  table.map fun r => (r.1, r.2.1)

def Operator.sign (o : Operator) : Text :=
  ((signs.find? (·.2 = o)).map (·.1)).getD []

/-- the middle part of the name of the method that carries the operator out -/
def Operator.word (o : Operator) : Text :=
  ((table.find? (·.2.1 = o)).map (·.2.2)).getD []

/-- comparisons of two values -/
inductive Comparison
  | equal
  | different
  | less
  | lessOrEqual
  | greater
  | greaterOrEqual
  | within
  | outside
  | same
  | other
  deriving DecidableEq, Repr

/-- how an argument of a call is passed -/
inductive Passing
  | plain
  | named (n : Text)
  /-- as many as there are in a list -/
  | spread
  /-- as many as there are in a dictionary -/
  | spreadNamed
  deriving DecidableEq, Repr

/-- how a parameter takes arguments -/
inductive Taking
  /-- by its place only -/
  | placed
  | plain
  /-- by name only -/
  | named
  /-- all further ones -/
  | rest
  /-- all further ones with names -/
  | restNamed
  deriving DecidableEq, Repr, Inhabited

/-- what is collected element by element -/
inductive Collection
  | list
  | set
  | dictionary
  | stream
  deriving DecidableEq, Repr

inductive Expr
  /-- nothing is written -/
  | absent
  | none
  | truth (b : Bool)
  | int (n : Int)
  | float (x : Float)
  | imaginary (x : Float)
  | str (t : Text)
  | bytes (r : Raw)
  | dots
  | name (n : Text)
  /-- text with values in it -/
  | joined (parts : List Expr)
  /-- a value in a text, with the way it is turned into text and how that is laid out -/
  | shown (e : Expr) (conversion : Option Char) (layout : Expr)
  | list (es : List Expr)
  | tuple (es : List Expr)
  | set (es : List Expr)
  /-- keys and values; a key that is spread stands for a whole dictionary -/
  | dictionary (ps : List (Expr × Expr))
  | attribute (e : Expr) (n : Text)
  | index (e : Expr) (i : Expr)
  | slice (low high step : Expr)
  | call (f : Expr) (arguments : List (Passing × Expr))
  | unary (sign : Char) (e : Expr)
  | binary (o : Operator) (a b : Expr)
  | compare (a : Expr) (rest : List (Comparison × Expr))
  | both (a b : Expr)
  | either (a b : Expr)
  | choose (condition yes no : Expr)
  /-- parameters with their usual values and their annotations -/
  | lambda (parameters : List (Taking × Text × Expr × Expr)) (body : Expr)
  /-- an element for every round of the clauses: target, source and conditions; a clause may wait for its elements -/
  | each (kind : Collection) (element value : Expr) (clauses : List (Bool × Expr × Expr × List Expr))
  | spread (e : Expr)
  | bind (n : Text) (e : Expr)
  | yield (e : Expr)
  | yieldFrom (e : Expr)
  | await (e : Expr)
  | at (s : Spot) (e : Expr)
  deriving Inhabited

/-- parameters of a function with their usual values and their annotations -/
abbrev Parameters := List (Taking × Text × Expr × Expr)

/-- what a value may look like -/
inductive Pattern
  /-- equal to a value -/
  | value (e : Expr)
  /-- one of the constants that there is only one of -/
  | constant (e : Expr)
  /-- anything, under a name -/
  | capture (n : Text)
  | anything
  | sequence (ps : List Pattern)
  /-- all further elements of a sequence -/
  | rest (n : Option Text)
  | mapping (ps : List (Expr × Pattern)) (rest : Option Text)
  | instance_ (cls : Expr) (ps : List Pattern) (named : List (Text × Pattern))
  | oneOf (ps : List Pattern)
  | under (p : Pattern) (n : Text)
  deriving Inhabited

/-- statements -/
inductive Stmt
  | expr (e : Expr)
  | assign (targets : List Expr) (value : Expr)
  | update (target : Expr) (o : Operator) (value : Expr)
  | annotate (target annotation value : Expr)
  /-- modules with the names they are given -/
  | load (modules : List (Text × Option Text))
  /-- so many dots in front of the module -/
  | loadFrom (dots : Nat) (module : Text) (names : List (Text × Option Text))
  | branch (condition : Expr) (yes no : List Stmt)
  | loop (condition : Expr) (body otherwise : List Stmt)
  | forEach (waits : Bool) (target source : Expr) (body otherwise : List Stmt)
  | define (waits : Bool) (name : Text) (parameters : Parameters) (result : Expr) (body : List Stmt)
      (decorators : List Expr)
  | classOf (name : Text) (arguments : List (Passing × Expr)) (body : List Stmt) (decorators : List Expr)
  | give (e : Expr)
  | leave
  | next
  | pass
  | attempt (body : List Stmt) (handlers : List (Spot × Expr × Option Text × List Stmt)) (otherwise final : List Stmt)
  | fail (e cause : Expr)
  | using (waits : Bool) (items : List (Expr × Expr)) (body : List Stmt)
  | check (condition message : Expr)
  | delete (targets : List Expr)
  | global (names : List Text)
  | nonlocal (names : List Text)
  | select (subject : Expr) (cases : List (Pattern × Expr × List Stmt))
  | at (s : Spot) (st : Stmt)
  deriving Inhabited

/-- a source that cannot be read -/
structure Fault where
  kind : Text := "SyntaxError"
  message : Text
  spot : Spot := {}
  /-- what is shown in place of the line of the spot -/
  shown : Option Text := none
  /-- the line of the last word that has been looked at, when it lies behind the spot -/
  reached : Nat := 0
  deriving DecidableEq, Repr

namespace Expr

/-- the expression without the spot around it -/
def bare : Expr → Expr
  | .at _ e => bare e
  | e => e

def spot? : Expr → Option Spot
  | .at s _ => some s
  | _ => Option.none

/-- nothing is written -/
def isAbsent : Expr → Bool
  | .absent => true
  | _ => false

end Expr
end IncludeAudit.Offside
