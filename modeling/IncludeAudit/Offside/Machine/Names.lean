/-
Names and variables while a code is carried out, and functions that know what they are called from.

- `nameOf`, `setNameOf`, `eraseNameOf`: names that are kept in dictionaries, `cellOf`: variables in cells.
- `localsOf`: the variables of a code as a dictionary, `nearby?`: functions that see the code they are called in.
-/
import IncludeAudit.Offside.Machine.Call

namespace IncludeAudit.Offside

def unknownName {α : Type} (n : Text) : Eval α :=
  raiseWith .nameError [.str ("name '" ++ n ++ "' is not defined")] [("name", .str n)]

/-- a variable has no value yet -/
def unassigned {α : Type} (n : Text) : Eval α :=
  raiseWith .unboundLocalError [.str ("cannot access local variable '" ++ n ++ "' where it is not associated with a value")]
    [("name", .str n)]

/-- a name that is known in a module or everywhere -/
def globalOf (globals : Nat) (n : Text) : Eval Value := do
  let w ← get
  match (w.table globals).get? n with
  | some v => return v
  | none =>
    match (w.table w.builtins).get? n with
    | some v => return v
    | none => unknownName n

/-- a name in the dictionary of a block; some dictionaries have ways of their own -/
def ownName? (names : Nat) (n : Text) : Eval (Option Value) := do
  let w ← get
  match w.object names with
  | { cls, body := .dict t, .. } =>
    if cls = Base.dict.ref then return t.get? n
    else catching [.keyError] (do return some (← getIndex (.ref names) (.str n))) fun _ => return none
  | _ => catching [.keyError] (do return some (← getIndex (.ref names) (.str n))) fun _ => return none

/-- the dictionary in which a code keeps its names -/
def Frame.home (f : Frame) : Nat :=
  if f.names ≠ 0 then f.names else f.globals

def nameOf (f : Frame) (n : Text) : Eval Value := do
  match ← ownName? f.home n with
  | some v => return v
  | none => globalOf f.globals n

def setNameOf (f : Frame) (n : Text) (v : Value) : Eval Unit := do
  if (← object f.home).cls = Base.dict.ref then putName f.home n v else setIndex (.ref f.home) (.str n) v

/-- takes a name of a dictionary away -/
def eraseNameOf (names : Nat) (n : Text) : Eval Unit := do
  match ← ownName? names n with
  | some _ =>
    if (← object names).cls = Base.dict.ref then eraseNameIn names n else eraseIndex (.ref names) (.str n)
  | none => unknownName n

def cellValue (v : Value) : Eval Value := do
  match v with
  | .ref n =>
    match (← object n).body with
    | .cell x => return x
    | _ => return .absent
  | _ => return .absent

def cellOf (f : Frame) (slot : Nat) : Eval Value := do
  match ← cellValue (f.slots.getD slot .absent) with
  | .absent =>
    let n := f.code.slots.getD slot []
    if slot < f.code.outer then unassigned n
    else
      raiseWith .nameError
        [.str ("cannot access free variable '" ++ n ++ "' where it is not associated with a value in enclosing scope")]
        [("name", .str n)]
  | v => return v

def setCell (f : Frame) (slot : Nat) (v : Value) : Eval Unit := do
  match f.slots.getD slot .absent with
  | .ref n => setBody n (.cell v)
  | _ => return ()

/-- the variables of a code as a dictionary -/
def localsOf (f : Frame) : Eval Nat := do
  if f.names ≠ 0 then return f.names
  else if f.code.open_ then return f.globals
  else
    let pairs ← (f.code.slots.toList.zip f.slots.toList).zipIdx.filterMapM fun ((n, v), i) => do
      let v ← if i ∈ f.code.cells ∨ f.code.outer ≤ i then cellValue v else pure v
      return if v.isThere then some (n, v) else none
    newNames pairs

/-! ## Functions that see where they are called -/

/-- a code that is being carried out, and those that wait for it, as a value -/
def frameValue : Frame → List Frame → Eval Value
  | f, outside => do
    let back ← match outside with
      | [] => pure Value.none
      | g :: rest => frameValue g rest
    let w ← get
    let line := (f.code.spots.getD f.pc {}).line
    let file := ((w.origins[f.code.source]?).map (·.file)).getD []
    let code ← plainObject .code
      [("co_name", .str f.code.name), ("co_qualname", .str f.code.qualname), ("co_filename", .str file),
       ("co_firstlineno", .int f.code.line)]
    plainObject .frame
      [("f_lineno", .int line), ("f_code", code), ("f_globals", .ref f.globals), ("f_locals", .ref (← localsOf f)),
       ("f_builtins", .ref w.builtins), ("f_back", back)]
termination_by _ outside => outside.length

/-- the source that a value is: a text, or bytes that are one -/
def sourceOf (function : Text) (v : Value) : Eval Text := do
  match (← get).inner v with
  | .str t => return t
  | .bytes r => return Raw.toText r
  | _ => mistyped (function ++ "() arg 1 must be a string, bytes or code object")

/-- a source is carried out, or its value is worked out -/
def carryText (f : Frame) (wanted : Wanted) (g : Given) : Eval Value := do
  let function : Text := if wanted = .value then "eval" else "exec"
  g.unnamed function
  if g.count = 0 then mistyped (function ++ " expected at least 1 argument, got 0")
  let given (i : Nat) : Option Value := (g.args[i]?).filter fun v => !v.isNone
  let refuse (simple longer : Text) (v : Value) : Eval Nat := do
    let kind ← kindOf v
    mistyped (if wanted = .value then simple else longer ++ kind)
  let noGlobals := refuse "globals must be a dict" "exec() globals must be a dict, not "
  let globals ← match given 1 with
    | some (.ref n) =>
      match (← object n).body with
      | .dict _ => pure n
      | _ => noGlobals (.ref n)
    | some v => noGlobals v
    | none => pure f.globals
  let names ← match given 2, given 1 with
    | some (.ref n), _ => pure n
    | some v, _ => refuse "locals must be a mapping" "locals must be a mapping or None, not " v
    | none, some _ => pure globals
    | none, none => localsOf f
  if ((← dictionaryAt globals).get? "__builtins__").isNone then
    putName globals "__builtins__" (.ref (← get).builtins)
  let code ← match g.at_ 0 with
    | .ref n =>
      match (← object n).body with
      | .code k => pure k
      | _ =>
        let t ← sourceOf function (g.at_ 0)
        compileText (← addOrigin { file := "<string>" }) t wanted
    | v =>
      let t ← sourceOf function v
      compileText (← addOrigin { file := "<string>" }) t wanted
  let v ← carry code globals names []
  return if wanted = .value then v else .none

/-- a source is made into a code -/
def compileGiven (g : Given) : Eval Value := do
  g.upTo "compile" 3 ["source", "filename", "mode", "flags", "dont_inherit", "optimize", "_feature_version"]
  match g.getD 0 "source" .none with
  | .ref n =>
    match (← object n).body with
    | .code _ => return .ref n
    | _ => pure ()
  | _ => pure ()
  let t ← sourceOf "compile" (g.getD 0 "source" .none)
  let file ← strOf (g.getD 1 "filename" .none)
  let mode ← strOf (g.getD 2 "mode" .none)
  if mode ∉ (["exec", "eval", "single"] : List Text) then misvalued "compile() mode must be 'exec', 'eval' or 'single'"
  let origin ← addOrigin { file }
  codeValue (← compileText origin t (if mode = ("eval" : Text) then .value else .statements))

/-- a function that sees the code it is called in; nothing when the function is another one -/
def nearby? (owner name : String) (f : Frame) (g : Given) : Eval (Option Value) := do
  match owner, name with
  | "builtins", "globals" =>
    g.nothing "globals"
    return some (.ref f.globals)
  | "builtins", "locals" =>
    g.nothing "locals"
    return some (.ref (← localsOf f))
  | "builtins", "vars" => if g.count = 0 then return some (.ref (← localsOf f)) else return none
  | "builtins", "dir" =>
    if g.count = 0 then
      let names ← itemsOf (.ref (← localsOf f))
      return some (← newList (← sorted names .none false))
    else return none
  | "builtins", "eval" => return some (← carryText f .value g)
  | "builtins", "exec" => return some (← carryText f .statements g)
  | "builtins", "compile" => return some (← compileGiven g)
  | "sys", "_getframe" =>
    let depth ← match g.args.head? with
      | some v => pure (← wholeOf v).toNat
      | none => pure 0
    match ((← read).waiting.flatten).drop depth with
    | g :: rest => return some (← frameValue g rest)
    | [] => misvalued "call stack is not deep enough"
  | _, _ => return none

end IncludeAudit.Offside
