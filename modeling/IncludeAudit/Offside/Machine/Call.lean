/-
Calls: a function of a script begins a code of its own, and everything else is done at once.

- `Called`: what a call leads to, `callValue`: any value is called, `callClass`: a class is called.
-/
import IncludeAudit.Offside.Methods
import IncludeAudit.Offside.Import

/-!
## Binding

Arguments become the first variables of a function, or there is a complaint about them.

- `Function.bind`: the slots that a function begins with.
-/

namespace IncludeAudit.Offside

/-- names in quotes with commas and a word between them -/
def nameList (names : List Text) : Text :=
  let quoted := names.map fun n => '\'' :: n ++ ['\'']
  match quoted.reverse with
  | [] => []
  | [a] => a
  | [b, a] => a ++ " and " ++ b
  | last :: rest => Text.paste ", " rest.reverse ++ ", and " ++ last

def pluralEnd (n : Nat) : Text :=
  if n = 1 then [] else ['s']

def missingArguments {α : Type} (name kind : Text) (names : List Text) : Eval α :=
  mistyped (name ++ "() missing " ++ Text.ofNat names.length ++ " required " ++ kind ++ " argument" ++ pluralEnd names.length ++ ": " ++
    nameList names)

/-- there are more arguments than a function takes by place -/
def tooManyArguments {α : Type} (f : Function) (c : Code) (given : Nat) (namedGiven : Nat) : Eval α :=
  let usual := f.usual.length
  let taken : Text :=
    if usual = 0 then Text.ofNat c.plain
    else "from " ++ Text.ofNat (c.plain - usual) ++ " to " ++ Text.ofNat c.plain
  let many : Text := if usual ≠ 0 ∨ c.plain ≠ 1 then ['s'] else []
  let behind : Text :=
    if namedGiven = 0 then []
    else " positional argument" ++ pluralEnd given ++ " (and " ++ Text.ofNat namedGiven ++ " keyword-only argument" ++
      pluralEnd namedGiven ++ [')']
  let verb : Text := if given = 1 ∧ namedGiven = 0 then "was" else "were"
  mistyped (f.qualname ++ "() takes " ++ taken ++ " positional argument" ++ many ++ " but " ++ Text.ofNat given ++ behind ++
    ' ' :: verb ++ " given")

/-- arguments with names go into their slots; what no parameter takes is given back -/
def placeNamed (f : Function) (c : Code) : List (Text × Value) → Array Value → List (Text × Value) →
    Eval (Array Value × List (Text × Value))
  | [], slots, rest => return (slots, rest.reverse)
  | (n, v) :: more, slots, rest => do
    let count := c.plain + c.named
    let place? := ((List.range count).drop c.placed).find? fun i => c.slots.getD i [] = n
    match place? with
    | some i =>
      if (slots.getD i .absent).isThere then
        mistyped (f.qualname ++ "() got multiple values for argument '" ++ n ++ ['\''])
      placeNamed f c more (slots.setIfInBounds i v) rest
    | none =>
      if c.hasRestNamed then placeNamed f c more slots ((n, v) :: rest)
      else
        let names := ((n, v) :: more).map (·.1)
        let byPlace := (c.slots.toList.take c.placed).filter fun p => p ∈ names
        if !byPlace.isEmpty then
          mistyped (f.qualname ++ "() got some positional-only arguments passed as keyword arguments: '" ++
            Text.paste ", " byPlace ++ ['\''])
        mistyped (f.qualname ++ "() got an unexpected keyword argument '" ++ n ++ ['\''])

def Function.bindSlots (f : Function) (c : Code) (args : List Value) (named : List (Text × Value)) : Eval (Array Value) := do
  let count := c.plain + c.named
  let given := args.length
  let slots := (args.take c.plain).toArray
  let slots := slots ++ Array.replicate (c.slots.size - slots.size) Value.absent
  let (slots, rest) ← if named.isEmpty then pure (slots, []) else placeNamed f c named slots []
  if c.plain < given ∧ !c.hasRest then
    let namedGiven := ((List.range c.named).filter fun i => (slots.getD (c.plain + i) .absent).isThere).length
    tooManyArguments f c given namedGiven
  -- what is usual for arguments by place
  let first := c.plain - f.usual.length
  let slots ← if given < c.plain then (do
      let missing := ((List.range first).drop given).filter fun i => !(slots.getD i .absent).isThere
      if !missing.isEmpty then
        missingArguments f.qualname "positional" (missing.map fun i => c.slots.getD i [])
      return f.usual.zipIdx.foldl (fun (a : Array Value) p =>
        if (a.getD (first + p.2) .absent).isThere then a else a.setIfInBounds (first + p.2) p.1) slots)
    else pure slots
  -- what is usual for arguments by name
  let slots ← if c.named = 0 then pure slots else (do
      let filled := (List.range c.named).foldl (fun (a : Array Value) i =>
        let k := c.plain + i
        if (a.getD k .absent).isThere then a
        else
          match f.named.find? fun p => p.1 = c.slots.getD k [] with
          | some (_, v) => a.setIfInBounds k v
          | none => a) slots
      let missing := (List.range c.named).filter fun i => !(filled.getD (c.plain + i) .absent).isThere
      if !missing.isEmpty then
        missingArguments f.qualname "keyword-only" (missing.map fun i => c.slots.getD (c.plain + i) [])
      return filled)
  let slots := if c.hasRest then slots.setIfInBounds count (.tuple (args.drop c.plain)) else slots
  let slots ← if c.hasRestNamed then (do
      let d ← newNames rest
      return slots.setIfInBounds (count + if c.hasRest then 1 else 0) (.ref d))
    else pure slots
  -- variables that are kept in cells
  let slots ← c.cells.foldlM (fun (a : Array Value) i => do
    let cell ← make .cell (.cell (a.getD i .absent))
    return a.setIfInBounds i cell) slots
  return f.closure.zipIdx.foldl (fun (a : Array Value) p => a.setIfInBounds (c.outer + p.2) p.1) slots

end IncludeAudit.Offside

namespace IncludeAudit.Offside

inductive Called
  | done (v : Value)
  | begun (f : Frame)
  deriving Inhabited

/-- the class of what a code gives when it stops and goes on -/
def Running.base : Running → Base
  | .coroutine => .coroutine
  | .asyncGenerator => .asyncGenerator
  | _ => .generator

/-- a code begins, one level deeper -/
def begin_ (f : Frame) : Eval Frame := do
  let w ← get
  if w.limit ≤ w.depth then raise .recursionError "maximum recursion depth exceeded"
  modify fun w => { w with depth := w.depth + 1 }
  return { f with before := w.handling }

def callFunction (f : Function) (args : List Value) (named : List (Text × Value)) : Eval Called := do
  let w ← get
  let code := w.codes.getD f.code { name := [], qualname := [] }
  let slots ← f.bindSlots code args named
  let frame : Frame := { code, slots, globals := f.globals }
  if code.running = .plain then return .begun (← begin_ frame)
  else
    let g : Generator := { frame := some frame, name := f.name, qualname := f.qualname }
    return .done (.ref (← alloc { cls := code.running.base.ref, body := .generator g }))

/-- a value that cannot be called -/
def notCallable {α : Type} (v : Value) : Eval α := do
  mistyped ("'" ++ (← kindOf v) ++ "' object is not callable")

/-- a function of a script, on its own or behind its first argument -/
def scripted? (w : World) : Value → Option Function
  | .ref n =>
    match w.body n with
    | .function f => some f
    | _ => none
  | _ => none

/-- a class is called in its usual way: when a function of a script fills the value in, it begins -/
def callClass (cls : Nat) (args : List Value) (named : List (Text × Value)) : Eval Called := do
  let w ← get
  let isNativeMaker : Bool := match w.lookup? cls "__new__" with
    | some (.native _ _) | none => true
    | _ => false
  let init? := (w.lookup? cls "__init__").bind (scripted? w)
  match init? with
  | some f =>
    if isNativeMaker then
      let b := match w.lookup? cls "__new__" with
        | some (.native _ name) => makerOf name
        | _ => .object
      let v ← makeValue b cls { args, named }
      let w ← get
      if w.isBelow (w.classOf v) cls then
        match ← callFunction f (v :: args) named with
        | .begun frame => return .begun { frame with after := .instance_ v }
        | .done r => mistyped ("__init__() should return None, not '" ++ (← kindOf r) ++ ['\''])
      else return .done v
    else return .done (← instantiate cls { args, named })
  | none => return .done (← instantiate cls { args, named })

def callValue : (fuel : Nat) → Value → List Value → List (Text × Value) → Eval Called
  | 0, _, _, _ => raise .recursionError "maximum recursion depth exceeded while calling a Python object"
  | fuel + 1, f, args, named => do
    match f with
    | .native owner "__getattr__" => return .done (← lateName owner.toList (← strOf (args.headD .none)))
    | .native "builtins" "__import__" =>
      let g : Given := { args, named }
      let (first, last) ← importModule (← strOf (g.getD 0 "name" .none))
      return .done (if ← truthOf (g.getD 3 "fromlist" .none) then last else first)
    | .native owner name => return .done (← runNative owner name { args, named })
    | .bound self b name =>
      if name = "__call__" then
        match self with
        | .ref n =>
          match (← object n).body with
          | .class_ _ => callClass n args named
          | _ => return .done (← runMethod (initValue 3) self b name { args, named })
        | _ => return .done (← runMethod (initValue 3) self b name { args, named })
      else return .done (← runMethod (initValue 3) self b name { args, named })
    | .unbound b name =>
      match b, name, args with
      | .type, "__call__", .ref n :: rest => callClass n rest named
      | _, _, _ => return .done (← runUnbound (initValue 3) b name { args, named })
    | .method self f => callValue fuel f (self :: args) named
    | .ref n =>
      let w ← get
      let o := w.object n
      match o.body with
      | .function f => callFunction f args named
      | .class_ _ =>
        match (if o.cls = Base.type.ref then none else w.lookup? o.cls "__call__") with
        | some (.unbound _ _) | none => callClass n args named
        | some g => callValue fuel (← bind g f o.cls) args named
      | .staticMethod g => callValue fuel g args named
      | _ =>
        match w.lookup? o.cls "__call__" with
        | some (.unbound _ _) | none => notCallable f
        | some g => callValue fuel (← bind g f o.cls) args named
    | v => notCallable v

/-- how many values can stand between a call and what is called in the end -/
def maxSteps : Nat := 100

end IncludeAudit.Offside
