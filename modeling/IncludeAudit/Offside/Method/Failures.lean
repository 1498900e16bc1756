/-
Failures as values: how they are made, and their methods.

- `newFault`: a fresh failure of a class, `initFault`: its parts, `failureMethod`: methods by name.
-/
import IncludeAudit.Offside.Method.Flow

namespace IncludeAudit.Offside

/-- the parts that a failure of a class has, from its arguments -/
def faultParts (w : World) (cls : Nat) (g : Given) : List (Text × Value) :=
  let below (b : Base) : Bool := w.isBelow cls b.ref
  let part (i : Nat) : Value := g.args.getD i .none
  let named (n : Text) : Value := (g.named? n).getD .none
  if below .stopIteration then [("value", part 0)]
  else if below .systemExit then
    [("code", match g.args with
      | [] => .none
      | [v] => v
      | vs => .tuple vs)]
  else if below .osError then
    let isShort := g.args.length < 2 || 5 < g.args.length
    if isShort then [("errno", .none), ("strerror", .none), ("filename", .none), ("filename2", .none)]
    else [("errno", part 0), ("strerror", part 1), ("filename", part 2), ("filename2", part 4)]
  else if below .importError then
    [("msg", match g.args with
      | [v] => v
      | _ => .none), ("name", named "name"), ("path", named "path"), ("name_from", named "name_from")]
  else if below .attributeError then [("name", named "name"), ("obj", named "obj")]
  else if below .nameError then [("name", named "name")]
  else if below .unicodeEncodeError || below .unicodeDecodeError then
    [("encoding", part 0), ("object", part 1), ("start", part 2), ("end", part 3), ("reason", part 4)]
  else if below .syntaxError then
    let where_ : List Value := match part 1 with
      | .tuple vs => vs
      | _ => []
    let at_ (i : Nat) : Value := where_.getD i .none
    [("msg", part 0), ("filename", at_ 0), ("lineno", at_ 1), ("offset", at_ 2), ("text", at_ 3), ("end_lineno", at_ 4),
     ("end_offset", at_ 5), ("print_file_and_line", .none)]
  else if below .patternError then
    [("msg", part 0), ("pattern", part 1), ("pos", part 2), ("lineno", .none), ("colno", .none)]
  else []

/-- names that arguments of a failure of a class may have -/
def faultNames (w : World) (cls : Nat) : List Text :=
  if w.isBelow cls Base.importError.ref then ["name", "path", "name_from"]
  else if w.isBelow cls Base.attributeError.ref then ["name", "obj"]
  else if w.isBelow cls Base.nameError.ref then ["name"]
  else []

/-- a fresh failure of a class -/
def newFault (cls : Nat) (g : Given) : Eval Nat := do
  let w ← get
  -- the number of a failure of the system says which one it is
  let cls :=
    if cls = Base.osError.ref ∧ 2 ≤ g.args.length then
      match g.args.head? with
      | some (.int n) => if 0 ≤ n then (Base.ofErrno n.toNat).ref else cls
      | _ => cls
    else cls
  let isOs := w.isBelow cls Base.osError.ref
  let args := if isOs ∧ 3 ≤ g.args.length ∧ g.args.length ≤ 5 then g.args.take 2 else g.args
  let parts := faultParts w cls g
  alloc { cls, body := .failure { args, parts } }

/-- a failure takes its parts from arguments -/
def initFault (n : Nat) (g : Given) : Eval Unit := do
  let w ← get
  let cls := (w.object n).cls
  let name := (w.classAt cls).name
  let names := faultNames w cls
  match g.named.find? fun p => p.1 ∉ names with
  | some (k, _) =>
    if names.isEmpty then mistyped (name ++ "() takes no keyword arguments")
    mistyped ("'" ++ k ++ "' is an invalid keyword argument for " ++ name ++ "()")
  | none => pure ()
  if (w.isBelow cls Base.unicodeDecodeError.ref ∨ w.isBelow cls Base.unicodeEncodeError.ref) ∧ g.count ≠ 5 then
    mistyped ("function takes exactly 5 arguments (" ++ Text.ofNat g.count ++ " given)")
  let isOs := w.isBelow cls Base.osError.ref
  if !isOs then
    let parts := faultParts w cls g
    modifyFailure n fun f => { f with args := g.args, parts := parts ++ f.parts.filter fun p => parts.all (·.1 ≠ p.1) }
  else if g.args.length ≠ 0 then
    let parts := faultParts w cls g
    let args := if 3 ≤ g.args.length ∧ g.args.length ≤ 5 then g.args.take 2 else g.args
    modifyFailure n fun f => { f with args, parts }

def failureMethod (n : Nat) (name : String) (g : Given) : Eval Value := do
  let self := Value.ref n
  match name with
  | "__init__" =>
    initFault n g
    return .none
  | "__str__" => return .str (← failureText n 2 strOf)
  | "__repr__" => return .str (← reprBody maxDepth [] n)
  | "with_traceback" =>
    match g.at_ 0 with
    | .none => modifyFailure n fun f => { f with trace := [] }
    | .ref m =>
      match (← object m).body with
      | .trace es => modifyFailure n fun f => { f with trace := es }
      | _ => mistyped "__traceback__ must be a traceback or None"
    | _ => mistyped "__traceback__ must be a traceback or None"
    return self
  | "add_note" =>
    let v ← g.one "BaseException.add_note"
    match (← get).inner v with
    | .str _ => pure ()
    | _ => mistyped ("note must be a str, not '" ++ (← kindOf v) ++ ['\''])
    match ← member? self "__notes__" with
    | some (.ref m) => modifyList m fun vs => vs.push v
    | _ => putName (← attributesOf n) "__notes__" (← newList [v])
    return .none
  | "__setstate__" => return .none
  | "__reduce__" =>
    let o ← object n
    return .tuple [.ref o.cls, .tuple (← failureAt n).args]
  | name => noAttribute self name.toList

end IncludeAudit.Offside
