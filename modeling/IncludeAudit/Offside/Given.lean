/-
The arguments that a function is called with, and the complaints about them.

- `Given`: arguments by place and by name, `Given.exactly`, `Given.between`: how many there have to be.
-/
import IncludeAudit.Offside.Arithmetic

namespace IncludeAudit.Offside

/-- arguments by place and by name -/
structure Given where
  args : List Value := []
  named : List (Text × Value) := []
  deriving Inhabited

namespace Given

/-- the number of arguments by place -/
def count (g : Given) : Nat :=
  g.args.length

/-- an argument by its place or its name -/
def get? (g : Given) (i : Nat) (name : Text) : Option Value :=
  match g.args[i]? with
  | some v => some v
  | none => (g.named.find? (·.1 = name)).map (·.2)

def named? (g : Given) (name : Text) : Option Value :=
  (g.named.find? (·.1 = name)).map (·.2)

def getD (g : Given) (i : Nat) (name : Text) (usual : Value) : Value :=
  (g.get? i name).getD usual

/-- no argument may have a name -/
def unnamed (g : Given) (function : Text) : Eval Unit := do
  if !g.named.isEmpty then mistyped (function ++ "() takes no keyword arguments")

/-- names that arguments may have -/
def allow (g : Given) (function : Text) (names : List Text) : Eval Unit := do
  match g.named.find? fun p => p.1 ∉ names with
  | some (n, _) => mistyped ("'" ++ n ++ "' is an invalid keyword argument for " ++ function ++ "()")
  | none => return ()

/-- a count with the word for arguments -/
def counted (n : Nat) : Text :=
  Text.ofNat n ++ (if n = 1 then " argument" else " arguments")

/-- no arguments at all; the function is named with its class -/
def nothing (g : Given) (function : Text) : Eval Unit := do
  g.unnamed function
  if g.count ≠ 0 then mistyped (function ++ "() takes no arguments (" ++ Text.ofNat g.count ++ " given)")

/-- the only argument; the function is named with its class -/
def one (g : Given) (function : Text) : Eval Value := do
  g.unnamed function
  match g.args with
  | [v] => return v
  | vs => mistyped (function ++ "() takes exactly one argument (" ++ Text.ofNat vs.length ++ " given)")

def between (g : Given) (function : Text) (least most : Nat) : Eval Unit := do
  g.unnamed function
  let n := g.count
  if least = most ∧ n ≠ least then mistyped (function ++ " expected " ++ counted least ++ ", got " ++ Text.ofNat n)
  if n < least then mistyped (function ++ " expected at least " ++ counted least ++ ", got " ++ Text.ofNat n)
  if most < n then mistyped (function ++ " expected at most " ++ counted most ++ ", got " ++ Text.ofNat n)

/-- so many arguments at most, of which the first ones may not be missing and all may have names -/
def upTo (g : Given) (function : Text) (required : Nat) (names : List Text) : Eval Unit := do
  g.allow function names
  if names.length < g.count + g.named.length ∧ names.length < g.count then
    mistyped (function ++ "() takes at most " ++ counted names.length ++ " (" ++ Text.ofNat (g.count + g.named.length) ++
      " given)")
  match (names.take required).zipIdx.find? fun p => (g.get? p.2 p.1).isNone with
  | some (n, i) =>
    mistyped (function ++ "() missing required argument '" ++ n ++ "' (pos " ++ Text.ofNat (i + 1) ++ [')'])
  | none => return ()

/-- the argument at a place -/
def at_ (g : Given) (i : Nat) : Value :=
  (g.args[i]?).getD .none

/-- a whole number among the arguments -/
def whole? (g : Given) (i : Nat) (name : Text) : Eval (Option Int) := do
  match g.get? i name with
  | none => return none
  | some v => return some (← wholeOf v)

/-- a yes or no among the arguments -/
def truth (g : Given) (i : Nat) (name : Text) (usual : Bool) : Eval Bool := do
  match g.get? i name with
  | none => return usual
  | some v => truthOf v

/-- a text among the arguments -/
def text? (g : Given) (function : Text) (i : Nat) (name : Text) : Eval (Option Text) := do
  match g.get? i name with
  | none => return none
  | some v =>
    match (← get).inner v with
    | .str t => return some t
    | .none => return none
    | x => mistyped (function ++ "() argument '" ++ name ++ "' must be str, not " ++ (← kindOf x))

end Given

def textArgument (message : Text) (v : Value) : Eval Text := do
  match (← get).inner v with
  | .str t => return t
  | _ => mistyped (message ++ (← kindOf v))

end IncludeAudit.Offside
