/-
Scripts as instructions. Every scope becomes a code of its own; names are settled here once and for all as slots, cells,
or names that are looked up when the instruction is carried out.

- `Maker`: making codes, `Maker.script`: the codes of a script with its own in the last place.
-/
import IncludeAudit.Offside.Code
import IncludeAudit.Offside.Scope

namespace IncludeAudit.Offside

/-- what a code is made for -/
inductive Purpose
  | script
  | function
  | classBody
  deriving DecidableEq, Repr, Inhabited

/-- what has to be undone when a block is left early -/
inductive Block
  /-- where its next round begins and where it ends; the elements stand on the stack in a loop over them -/
  | loop (next finish : Nat) (holds : Bool)
  /-- failures lead elsewhere -/
  | guarded
  /-- the same, with statements that are carried out in any case -/
  | final (body : List Stmt)
  /-- a failure and the one before it stand on the stack -/
  | finalFault
  /-- a failure is being handled, under a name -/
  | handler (name : Option Text)
  /-- a value is to be left in order -/
  | using (waits : Bool)
  /-- a value that is kept for later stands on the stack -/
  | kept
  deriving Inhabited

/-- a code in the making -/
structure Draft where
  purpose : Purpose
  name : Text
  qualname : Text
  line : Nat := 1
  running : Running := .plain
  /-- names of slots, the first ones those of parameters -/
  slots : List Text := []
  /-- names whose slots hold cells -/
  cells : List Text := []
  /-- names that are bound here -/
  own : List Text := []
  /-- names taken from scopes around it -/
  taken : List Text := []
  globals : List Text := []
  /-- names that functions inside may take from here -/
  seen : List Text := []
  /-- the class whose block this is part of -/
  cls : Option Text := none
  /-- instructions with their spots, the latest first -/
  made : List (Instr × Spot) := []
  size : Nat := 0
  blocks : List Block := []
  spot : Spot := {}
  /-- places of the labels -/
  labels : List (Nat × Nat) := []
  nextLabel : Nat := 0
  waits : Bool := false
  /-- names that have been asked for, and names that have been given a value -/
  asked : List Text := []
  given : List Text := []
  deriving Inhabited

/-- codes that are done, and the one in the making -/
structure Making where
  codes : Array Code
  unit : Draft
  /-- annotations are not carried out -/
  lazyAnnotations : Bool := false
  source : Nat := 0
  /-- lines with something doubtful in them, the latest first -/
  doubts : List (Nat × Text) := []

/-- making codes, or finding a fault -/
abbrev Maker := StateT Making (Except Fault)

namespace Maker

def unit : Maker Draft := do
  return (← get).unit

/-- changes the code in the making -/
def modifyUnit (f : Draft → Draft) : Maker Unit :=
  modify fun m => { m with unit := f m.unit }

def emit (i : Instr) : Maker Unit :=
  modifyUnit fun u => { u with made := (i, u.spot) :: u.made, size := u.size + 1 }

/-- a label that has no place yet -/
def label : Maker Nat := do
  let u ← unit
  modifyUnit fun u => { u with nextLabel := u.nextLabel + 1 }
  return u.nextLabel

/-- the label stands for the next instruction -/
def place (l : Nat) : Maker Unit :=
  modifyUnit fun u => { u with labels := (l, u.size) :: u.labels }

/-- works at a spot, and goes back to the one before -/
def within {α : Type} (s : Spot) (m : Maker α) : Maker α := do
  let before := (← unit).spot
  modifyUnit fun u => { u with spot := s }
  let a ← m
  modifyUnit fun u => { u with spot := before }
  return a

/-- works inside a block -/
def inBlock {α : Type} (b : Block) (m : Maker α) : Maker α := do
  modifyUnit fun u => { u with blocks := b :: u.blocks }
  let a ← m
  modifyUnit fun u => { u with blocks := u.blocks.tail }
  return a

/-- a fault at the spot of now -/
def refuse {α : Type} (message : Text) : Maker α := do
  throw { message, spot := (← unit).spot }

/-- something is doubtful at the spot of now -/
def doubt (message : Text) : Maker Unit := do
  let line := (← unit).spot.line
  modify fun s => { s with doubts := (line, message) :: s.doubts }

/-- an instruction whose jumps go to labels, with the places of the labels -/
def settle (placeOf : Nat → Nat) : Instr → Instr
  | .jump l => .jump (placeOf l)
  | .jumpIf b l => .jumpIf b (placeOf l)
  | .jumpIfKeep b l => .jumpIfKeep b (placeOf l)
  | .next l => .next (placeOf l)
  | .guard l n => .guard (placeOf l) n
  | .asyncEnd l => .asyncEnd (placeOf l)
  | i => i

/-- the number of the slot of a name -/
def slotOf (u : Draft) (n : Text) : Nat :=
  (u.slots ++ u.taken).idxOf n

/-- the code that has been made -/
def finish (u : Draft) (source : Nat) (c : Code) : Code :=
  let labels : Array Nat := u.labels.foldl (fun a p => a.set! p.1 p.2) (Array.replicate u.nextLabel 0)
  let made := u.made.reverse
  { c with
    name := u.name, qualname := u.qualname, line := u.line, running := u.running, source
    instrs := (made.map fun p => settle (fun l => labels.getD l 0) p.1).toArray
    spots := (made.map (·.2)).toArray
    slots := (u.slots ++ u.taken).toArray, outer := u.slots.length
    cells := (u.slots.zipIdx.filter fun p => p.1 ∈ u.cells).map (·.2)
    open_ := u.purpose != .function }

/-- makes a code inside the one of now, and gives its number with the names it takes from here -/
def making (u : Draft) (c : Code) (m : Maker Code) : Maker (Nat × List Text) := do
  let outside ← unit
  modify fun s => { s with unit := u }
  let c' ← m
  let done ← get
  let code := finish done.unit done.source { c' with plain := c.plain, placed := c.placed, named := c.named, hasRest := c.hasRest, hasRestNamed := c.hasRestNamed }
  set { done with unit := outside, codes := done.codes.push code }
  return (done.codes.size, u.taken)

/-! ## Names -/

inductive Kept
  | fast (n : Nat)
  | cell (n : Nat)
  /-- in the block of a class, or else in a cell -/
  | classOrCell (n : Nat)
  | global
  | block
  deriving Repr

def kept (u : Draft) (n : Text) : Kept :=
  if n ∈ u.globals then .global
  else
    match u.purpose with
    | .function =>
      if n ∈ u.own then (if n ∈ u.cells then .cell (slotOf u n) else .fast (slotOf u n))
      else if n ∈ u.taken then .cell (slotOf u n)
      else .global
    | .classBody =>
      if n ∈ u.own then .block
      else if n ∈ u.taken then .classOrCell (slotOf u n)
      else .block
    | .script => .block

/-- the name inside the class of now -/
def known (n : Text) : Maker Text := do
  return Names.mangled (← unit).cls n

def loadName (n : Text) : Maker Unit := do
  modifyUnit fun u => if n ∈ u.asked then u else { u with asked := n :: u.asked }
  match kept (← unit) n with
  | .fast k => emit (.fast k)
  | .cell k => emit (.deref k)
  | .classOrCell k => emit (.classDeref k n)
  | .global => emit (.global (← known n))
  | .block => emit (.name (← known n))

/-- gives a name the value on the top -/
def storeName (n : Text) : Maker Unit := do
  if n = ("__debug__" : Text) then refuse "cannot assign to __debug__"
  modifyUnit fun u => if n ∈ u.given then u else { u with given := n :: u.given }
  match kept (← unit) n with
  | .fast k => emit (.setFast k)
  | .cell k | .classOrCell k => emit (.setDeref k)
  | .global => emit (.setGlobal (← known n))
  | .block => emit (.setName (← known n))

/-- takes the value of a name away -/
def eraseName (n : Text) : Maker Unit := do
  match kept (← unit) n with
  | .fast k => emit (.eraseFast k)
  | .cell k | .classOrCell k => emit (.eraseDeref k)
  | .global => emit (.eraseGlobal (← known n))
  | .block => emit (.eraseName (← known n))

/-- the cell of a name, for a function inside -/
def loadCell (n : Text) : Maker Unit := do
  emit (.cell (slotOf (← unit) n))

/-- the name of a code inside the one of now, with the codes around it -/
def qualified (n : Text) : Maker Text := do
  let u ← unit
  match u.purpose with
  | .script => return n
  | .classBody => return u.qualname ++ '.' :: n
  | .function => return if n ∈ u.globals then n else u.qualname ++ (".<locals>." : Text) ++ n

/-! ## Expressions -/

/-- the order in which parameters have their slots -/
def ordered (ps : Parameters) : Parameters :=
  let of (t : Taking) : Parameters := ps.filter (·.1 = t)
  of .placed ++ of .plain ++ (of .named).filter (·.2.1 ≠ []) ++ (of .rest).filter (·.2.1 ≠ []) ++ of .restNamed

def countsOf (ps : Parameters) : Code :=
  let count (t : Taking) : Nat := (ps.filter fun p => p.1 = t && p.2.1 ≠ []).length
  { name := [], qualname := [], plain := count .placed + count .plain, placed := count .placed, named := count .named
    hasRest := 0 < count .rest, hasRestNamed := 0 < count .restNamed }

/-- the beginning of a code for a function with names -/
def unitFor (u : Draft) (name qualname : Text) (parameters : List Text) (ns : Names) (running : Running) : Draft :=
  let own := (parameters ++ ns.own).eraseDups
  let cells := own.filter fun n => n ∈ ns.inner
  let taken := ns.free.filter fun n => n ∈ u.seen
  { purpose := .function, name, qualname, line := u.spot.line, running, slots := own, cells, own, taken
    globals := ns.globals, seen := ((own ++ u.seen).filter fun n => n ∉ ns.globals).eraseDups, cls := u.cls, spot := u.spot }

/-- a plain source of an annotation -/
def annotationText : (fuel : Nat) → Expr → Text
  | 0, _ => []
  | fuel + 1, e =>
    let one := annotationText fuel
    match e with
    | .at _ e => one e
    | .name n => n
    | .none => "None"
    | .str t => '\'' :: t ++ ['\'']
    | .int n => Text.ofInt n
    | .attribute e n => one e ++ '.' :: n
    | .index e i => one e ++ '[' :: one i ++ [']']
    | .tuple es => Text.paste ", " (es.map one)
    | .list es => '[' :: Text.paste ", " (es.map one) ++ [']']
    | .binary o a b => one a ++ ' ' :: o.sign ++ ' ' :: one b
    | .dots => "..."
    | _ => "..."

/-- the value of an annotation on the top -/
def annotationOf (expr : Expr → Maker Unit) (e : Expr) : Maker Unit := do
  if (← get).lazyAnnotations then emit (.const (.str (annotationText Names.maxNesting e))) else expr e

/-- the class of a constant -/
def literal? (e : Expr) : Option Text :=
  match e.bare with
  | .int _ => some "int"
  | .float _ => some "float"
  | .imaginary _ => some "complex"
  | .str _ | .joined _ => some "str"
  | .bytes _ => some "bytes"
  | .tuple _ => some "tuple"
  | .list _ => some "list"
  | .dictionary _ => some "dict"
  | .set _ => some "set"
  | .none => some "NoneType"
  | .truth _ => some "bool"
  | .dots => some "ellipsis"
  | .each .list _ _ _ => some "list"
  | .each .set _ _ _ => some "set"
  | .each .dictionary _ _ _ => some "dict"
  | .each .stream _ _ _ => some "generator"
  | .lambda _ _ => some "function"
  | _ => none

def doubtSame (c : Comparison) (a b : Expr) : Maker Unit := do
  let constant? (e : Expr) : Option Text := (literal? e).filter fun t => t ∈ (["int", "float", "complex", "str", "bytes", "tuple"] : List Text)
  let kind? := (constant? a).or (constant? b)
  match c, kind? with
  | .same, some _ => doubt "\"is\" with a literal. Did you mean \"==\"?"
  | .other, some _ => doubt "\"is not\" with a literal. Did you mean \"!=\"?"
  | _, _ => return ()

def doubtCall (f : Expr) : Maker Unit := do
  match (literal? f).filter (· ≠ ("function" : Text)) with
  | some k => doubt ("'" ++ k ++ "' object is not callable; perhaps you missed a comma?")
  | none => return ()

/-- an element of a constant that has none is doubtful; so is one of a row by something else than an integer or a slice -/
def doubtIndex (e i : Expr) : Maker Unit := do
  let key? := literal? i
  match literal? e with
  | some k =>
    if k ∈ (["int", "float", "complex", "set", "NoneType", "bool", "ellipsis", "generator", "function"] : List Text) then
      doubt ("'" ++ k ++ "' object is not subscriptable; perhaps you missed a comma?")
    else if k ∈ (["str", "bytes", "tuple", "list"] : List Text) then
      match key? with
      | some t =>
        if t ≠ ("int" : Text) ∧ t ≠ ("bool" : Text) then
          doubt (k ++ " indices must be integers or slices, not " ++ t ++ "; perhaps you missed a comma?")
      | none => return ()
  | none => return ()

def spotOf (e : Expr) : Maker Spot := do
  return e.spot?.getD (← unit).spot

/-- waits for the value on the top -/
def waiting : Maker Unit := do
  emit .awaited
  emit (.const .none)
  emit .delegate

/-- an element that stands for many -/
def isSpread (e : Expr) : Bool :=
  match e.bare with
  | .spread _ => true
  | _ => false

/-- a call of `super` without arguments: the class and the first parameter are meant -/
def superCall (f : Expr) (n : Text) : Maker Unit := do
  let u ← unit
  let load : Maker Unit := loadName n
  match f with
  | .at s _ => within s load
  | _ => load
  match u.slots.head? with
  | some first =>
    if ("__class__" : Text) ∈ u.taken then
      loadCell "__class__"
      if first ∈ u.cells then emit (.cell (slotOf u first)) else emit (.fast (slotOf u first))
      emit (.call 2 [])
    else emit (.call 0 [])
  | none => emit (.call 0 [])

/-- what decorates a definition is called with it, the last one first -/
def decorate (ds : List Expr) : Maker Unit :=
  ds.reverse.forM fun d => do
    within (← spotOf d) (emit (.call 1 []))

/-- labels of failures lead to one label, without the values that are still on the stack -/
def settleFails (fails : List (Nat × Nat)) (next : Nat) : Maker Unit :=
  fails.forM fun (l, n) => do
    place l
    (List.range n).forM fun _ => emit .pop
    emit (.jump next)

mutual

/-- an expression whose value comes to the top -/
def expr : (fuel : Nat) → Expr → Maker Unit
  | 0, _ => refuse "too many nested parentheses"
  | fuel + 1, e => do
    let one := expr fuel
    match e with
    | .at s e => within s (one e)
    | .absent | .none => emit (.const .none)
    | .truth b => emit (.const (.truth b))
    | .int n => emit (.const (.int n))
    | .float x => emit (.const (.float x))
    | .imaginary x => emit (.const (.complex 0 x))
    | .str t => emit (.const (.str t))
    | .bytes r => emit (.const (.bytes r))
    | .dots => emit (.const .ellipsis)
    | .name n => loadName n
    | .joined ps =>
      ps.forM one
      emit (.joined ps.length)
    | .shown e c l =>
      one e
      if l.isAbsent then emit (.shown c false)
      else
        one l
        emit (.shown c true)
    | .list es => elements fuel es (.list 0) (fun n => .list n) false
    | .set es => elements fuel es (.set 0) (fun n => .set n) true
    | .tuple es =>
      if es.any isSpread then
        elements fuel es (.list 0) (fun n => .list n) false
        emit .asTuple
      else
        es.forM one
        emit (.tuple es.length)
    | .dictionary ps =>
      if ps.any fun p => isSpread p.1 then
        emit (.dict 0)
        ps.forM fun (k, v) => do
          match k.bare with
          | .spread d =>
            one d
            emit (.merge false)
          | _ =>
            one k
            one v
            emit (.put 0)
      else
        ps.forM fun (k, v) => do
          one k
          one v
        emit (.dict ps.length)
    | .attribute e n =>
      one e
      emit (.attribute (← known n))
    | .index e i =>
      doubtIndex e i
      one e
      one i
      emit .index
    | .slice a b c =>
      one a
      one b
      one c
      emit .slice
    | .call f as =>
      doubtCall f
      match f.bare, as with
      | .name n, [] =>
        if n = ("super" : Text) ∧ (← unit).purpose = .function then superCall f n
        else
          one f
          emit (.call 0 [])
      | _, _ =>
        one f
        arguments fuel as
    | .unary sign e =>
      one e
      emit (.unary sign)
    | .binary o a b =>
      one a
      one b
      emit (.binary o)
    | .compare a rest =>
      match rest with
      | [(c, b)] =>
        doubtSame c a b
        one a
        one b
        emit (.compare c)
      | _ =>
        one a
        let clean ← label
        let finish ← label
        chain fuel rest clean
        emit (.jump finish)
        place clean
        emit (.swap 1)
        emit .pop
        place finish
    | .both a b =>
      let finish ← label
      one a
      emit (.jumpIfKeep false finish)
      one b
      place finish
    | .either a b =>
      let finish ← label
      one a
      emit (.jumpIfKeep true finish)
      one b
      place finish
    | .choose c a b =>
      let no ← label
      let finish ← label
      jumpUnless fuel c no
      one a
      emit (.jump finish)
      place no
      one b
      place finish
    | .lambda ps b =>
      let inner := Names.ofExpr Names.maxNesting false b
      functionOf fuel "<lambda>" ps .absent inner (.inr b)
    | .each kind a b cs => collect fuel kind a b cs
    | .spread e => one e
    | .bind n e =>
      one e
      emit (.copy 0)
      storeName n
    | .yield e =>
      let u ← unit
      if u.purpose ≠ .function then refuse "'yield' outside function"
      one e
      emit .yield
      if u.running = .asyncGenerator then return ()
    | .yieldFrom e =>
      let u ← unit
      if u.purpose ≠ .function then refuse "'yield' outside function"
      if u.waits then refuse "'yield from' inside async function"
      one e
      emit .delegatee
      emit (.const .none)
      emit .delegate
    | .await e =>
      let u ← unit
      if u.purpose ≠ .function then refuse "'await' outside function"
      if !u.waits ∧ u.name ≠ ("<genexpr>" : Text) then refuse "'await' outside async function"
      one e
      waiting

def elements : (fuel : Nat) → List Expr → (empty : Instr) → (whole : Nat → Instr) → (isSet : Bool) → Maker Unit
  | 0, _, _, _, _ => refuse "too many nested parentheses"
  | fuel + 1, es, empty, whole, isSet => do
    if es.any isSpread then
      emit empty
      es.forM fun e => do
        expr fuel e
        if isSpread e then emit (if isSet then .absorb else .extend) else emit (if isSet then .add 0 else .append 0)
    else
      es.forM (expr fuel)
      emit (whole es.length)

/-- the comparisons behind the first one of a row, whose value is on the top -/
def chain : (fuel : Nat) → List (Comparison × Expr) → (clean : Nat) → Maker Unit
  | 0, _, _ => refuse "too many nested parentheses"
  | fuel + 1, rest, clean => do
    match rest with
    | [] => return ()
    | [(c, b)] =>
      expr fuel b
      emit (.compare c)
    | (c, b) :: rest =>
      expr fuel b
      emit (.swap 1)
      emit (.copy 1)
      emit (.compare c)
      emit (.jumpIfKeep false clean)
      chain fuel rest clean

/-- the call of the function below the arguments -/
def arguments : (fuel : Nat) → List (Passing × Expr) → Maker Unit
  | 0, _ => refuse "too many nested parentheses"
  | fuel + 1, as => do
    let simple := as.all fun a =>
      match a.1 with
      | .plain | .named _ => true
      | _ => false
    if simple then
      as.forM fun a => expr fuel a.2
      emit (.call as.length (as.filterMap fun a =>
        match a.1 with
        | .named n => some n
        | _ => none))
    else
      emit (.list 0)
      as.forM fun a => do
        match a.1 with
        | .plain =>
          expr fuel a.2
          emit (.append 0)
        | .spread =>
          expr fuel a.2
          emit .extend
        | _ => return ()
      emit .asTuple
      let named := as.filter fun a =>
        match a.1 with
        | .named _ | .spreadNamed => true
        | _ => false
      if named.isEmpty then emit (.callSpread false)
      else
        emit (.dict 0)
        named.forM fun a => do
          match a.1 with
          | .named n =>
            emit (.const (.str n))
            expr fuel a.2
            emit (.dict 1)
            emit (.merge true)
          | _ =>
            expr fuel a.2
            emit (.merge true)
        emit (.callSpread true)

/-- goes to a label unless a condition holds -/
def jumpUnless : (fuel : Nat) → Expr → (l : Nat) → Maker Unit
  | 0, _, _ => refuse "too many nested parentheses"
  | fuel + 1, e, l => do
    match e with
    | .at s e =>
      match e with
      | .both _ _ | .either _ _ | .unary '!' _ => within s (jumpUnless fuel e l)
      | _ => within s do
          expr fuel e
          emit (.jumpIf false l)
    | .both a b =>
      jumpUnless fuel a l
      jumpUnless fuel b l
    | .either a b =>
      let yes ← label
      jumpWhen fuel a yes
      jumpUnless fuel b l
      place yes
    | .unary '!' e => jumpWhen fuel e l
    | e =>
      expr fuel e
      emit (.jumpIf false l)

/-- goes to a label when a condition holds -/
def jumpWhen : (fuel : Nat) → Expr → (l : Nat) → Maker Unit
  | 0, _, _ => refuse "too many nested parentheses"
  | fuel + 1, e, l => do
    match e with
    | .at s e =>
      match e with
      | .both _ _ | .either _ _ | .unary '!' _ => within s (jumpWhen fuel e l)
      | _ => within s do
          expr fuel e
          emit (.jumpIf true l)
    | .both a b =>
      let no ← label
      jumpUnless fuel a no
      jumpWhen fuel b l
      place no
    | .either a b =>
      jumpWhen fuel a l
      jumpWhen fuel b l
    | .unary '!' e => jumpUnless fuel e l
    | e =>
      expr fuel e
      emit (.jumpIf true l)

/-- a function: its usual values and its annotations, and then the function itself on the top -/
def functionOf : (fuel : Nat) → (name : Text) → Parameters → (result : Expr) → Names → List Stmt × Bool ⊕ Expr → Maker Unit
  | 0, _, _, _, _, _ => refuse "too many nested parentheses"
  | fuel + 1, name, ps, result, inner, body => do
    let one := expr fuel
    let outside ← unit
    let plain := ps.filter fun p => p.1 = .placed || p.1 = .plain
    let usual := (plain.filter fun p => !p.2.2.1.isAbsent).map (·.2.2.1)
    usual.forM one
    let named := ps.filter fun p => p.1 = .named && !p.2.2.1.isAbsent
    named.forM fun p => one p.2.2.1
    let annotated := ps.filter fun p => !p.2.2.2.isAbsent
    annotated.forM fun p => do
      emit (.const (.str (← known p.2.1)))
      annotationOf one p.2.2.2
    let count := annotated.length + if result.isAbsent then 0 else 1
    if !result.isAbsent then
      emit (.const (.str "return"))
      annotationOf one result
    if 0 < count then emit (.dict count)
    let slots := (ordered ps).map fun p => p.2.1
    match slots.find? fun n => 1 < (slots.filter (· = n)).length with
    | some n => refuse ("duplicate argument '" ++ n ++ "' in function definition")
    | none => pure ()
    let waits : Bool :=
      match body with
      | .inl (_, w) => w
      | .inr _ => false
    let running : Running :=
      if waits then (if inner.yields then .asyncGenerator else .coroutine)
      else if inner.yields then .generator else .plain
    let u := unitFor outside name (← qualified name) slots inner running
    let u := { u with waits }
    let (code, taken) ← making u (countsOf ps) (match body with
      | .inl (ss, _) => do
        let doc ← block fuel ss true
        emit (.const .none)
        emit .give
        return { name, qualname := [], doc }
      | .inr e => do
        one e
        emit .give
        return { name, qualname := [] })
    taken.forM loadCell
    emit (.function code usual.length (← named.mapM fun p => known p.2.1) taken.length (0 < count))

def collect : (fuel : Nat) → Collection → (element value : Expr) → List (Bool × Expr × Expr × List Expr) → Maker Unit
  | 0, _, _, _, _ => refuse "too many nested parentheses"
  | fuel + 1, kind, a, b, cs => do
    let outside ← unit
    let scope := Names.ofClauses Names.maxNesting a b cs
    let scope := { scope with nonlocals := scope.nonlocals ++ scope.lifted }
    let streams : Bool := kind = .stream
    let name : Text :=
      match kind with
      | .list => "<listcomp>"
      | .set => "<setcomp>"
      | .dictionary => "<dictcomp>"
      | .stream => "<genexpr>"
    let whole ← qualified name
    let waits := scope.awaits || cs.any (·.1)
    let running : Running :=
      if streams then (if cs.any (·.1) ∨ scope.awaits then .asyncGenerator else .generator)
      else if waits then .coroutine else .plain
    if waits ∧ !streams ∧ !outside.waits then refuse "asynchronous comprehension outside of an asynchronous function"
    let source : Text := ".0"
    let u := unitFor outside name whole [source] scope running
    let u := { u with
      waits
      globals := if outside.purpose = .function then u.globals
        else u.globals ++ scope.lifted
      }
    let counts := countsOf [(.plain, source, .absent, .absent)]
    let (code, taken) ← making u counts do
      match kind with
      | .list => emit (.list 0)
      | .set => emit (.set 0)
      | .dictionary => emit (.dict 0)
      | .stream => pure ()
      emit (.fast 0)
      clauses fuel kind a b cs 1
      if streams then emit (.const .none)
      emit .give
      return { name, qualname := [] }
    taken.forM loadCell
    emit (.function code 0 [] taken.length false)
    match cs with
    | (isWaiting, _, s, _) :: _ =>
      expr fuel s
      emit (if isWaiting then .asyncIterate else .iterate)
    | [] => pure ()
    emit (.call 1 [])
    if waits ∧ !streams then waiting

/-- the rounds of a collection: the elements of the first clause are on the top, so many values above the collection -/
def clauses : (fuel : Nat) → Collection → (element value : Expr) → List (Bool × Expr × Expr × List Expr) → (above : Nat) →
    Maker Unit
  | 0, _, _, _, _, _ => refuse "too many nested parentheses"
  | fuel + 1, kind, a, b, cs, above => do
    match cs with
    | [] =>
      match kind with
      | .list =>
        expr fuel a
        within (← spotOf a) (emit (.append above))
      | .set =>
        expr fuel a
        within (← spotOf a) (emit (.add above))
      | .dictionary =>
        expr fuel a
        expr fuel b
        within (← spotOf a) (emit (.put above))
      | .stream =>
        expr fuel a
        within (← spotOf a) do
          emit .yield
          emit .pop
    | (isWaiting, target, _, conditions) :: rest =>
      let next ← label
      let finish ← label
      if isWaiting then
        let ends ← label
        place next
        emit (.guard ends 0)
        emit .asyncNext
        emit (.const .none)
        emit .delegate
        emit .unguard
        store fuel target
        conditions.forM fun c => jumpUnless fuel c next
        inner fuel kind a b rest above
        emit (.jump next)
        place ends
        emit (.asyncEnd finish)
        place finish
      else
        place next
        emit (.next finish)
        store fuel target
        conditions.forM fun c => jumpUnless fuel c next
        inner fuel kind a b rest above
        emit (.jump next)
        place finish

/-- the clauses inside a clause -/
def inner : (fuel : Nat) → Collection → (element value : Expr) → List (Bool × Expr × Expr × List Expr) → (above : Nat) →
    Maker Unit
  | 0, _, _, _, _, _ => refuse "too many nested parentheses"
  | fuel + 1, kind, a, b, cs, above => do
    match cs with
    | [] => clauses fuel kind a b [] above
    | (isWaiting, _, s, _) :: _ =>
      expr fuel s
      emit (if isWaiting then .asyncIterate else .iterate)
      clauses fuel kind a b cs (above + 1)

/-- gives the value on the top to a target -/
def store : (fuel : Nat) → Expr → Maker Unit
  | 0, _ => refuse "too many nested parentheses"
  | fuel + 1, e => do
    match e with
    | .at s e => within s (store fuel e)
    | .name n => storeName n
    | .attribute o n =>
      expr fuel o
      emit (.setAttribute (← known n))
    | .index o i =>
      expr fuel o
      expr fuel i
      emit .setIndex
    | .tuple es | .list es =>
      let stars := (es.filter isSpread).length
      if 1 < stars then refuse "multiple starred expressions in assignment"
      if stars = 1 then
        let before := (es.takeWhile fun e => !isSpread e).length
        emit (.unpackRest before (es.length - before - 1))
      else emit (.unpack es.length)
      es.forM fun e =>
        match e.bare with
        | .spread t => store fuel t
        | _ => store fuel e
    | .spread _ => refuse "starred assignment target must be in a list or tuple"
    | _ => refuse "cannot assign to expression"

/-- leaves blocks up to where they end; with a value on the top that is kept -/
def leaveBlocks : (fuel : Nat) → (upTo : Block → Bool) → (keeps : Bool) → List Block → Maker Unit
  | 0, _, _, _ => refuse "too many statically nested blocks"
  | _, _, _, [] => return ()
  | fuel + 1, upTo, keeps, b :: bs => do
    if upTo b then return ()
    let under (m : Maker Unit) : Maker Unit := do
      if keeps then emit (.swap 1)
      m
    match b with
    | .loop _ _ holds => if holds then under (emit .pop)
    | .guarded => emit .unguard
    | .kept => under (emit .pop)
    | .final body =>
      emit .unguard
      let before := (← unit).blocks
      modifyUnit fun u => { u with blocks := if keeps then .kept :: bs else bs }
      let _ ← block fuel body false
      modifyUnit fun u => { u with blocks := before }
    | .finalFault =>
      emit .unguard
      under (emit .pop)
      under (emit .release)
    | .handler name =>
      emit .unguard
      match name with
      | some n =>
        emit .unguard
        under (emit .release)
        emit (.const .none)
        storeName n
        eraseName n
      | none => under (emit .release)
    | .using waits =>
      emit .unguard
      if keeps then emit (.swap 1)
      emit (.leave waits)
      if waits then
        waiting
        emit .pop
    leaveBlocks fuel upTo keeps bs

/-- statements one after another; a text at the beginning may describe them -/
def block : (fuel : Nat) → List Stmt → (described : Bool) → Maker Value
  | 0, _, _ => refuse "too many statically nested blocks"
  | fuel + 1, ss, described => do
    let doc : Value :=
      match ss with
      | .at _ (.expr e) :: _ | .expr e :: _ =>
        match e.bare with
        | .str t => .str t
        | _ => .none
      | _ => .none
    match doc, described with
    | .str _, true => ss.tail.forM (stmt fuel)
    | _, _ => ss.forM (stmt fuel)
    return if described then doc else .none

/-- a statement -/
def stmt : (fuel : Nat) → Stmt → Maker Unit
  | 0, _ => refuse "too many statically nested blocks"
  | fuel + 1, s => do
    let one := expr fuel
    let many (ss : List Stmt) : Maker Unit := do
      let _ ← block fuel ss false
    match s with
    | .at s st => within s (stmt fuel st)
    | .expr e =>
      one e
      emit .pop
    | .assign ts e =>
      one e
      ts.zipIdx.forM fun (t, i) => do
        if i + 1 < ts.length then emit (.copy 0)
        store fuel t
    | .update t o e =>
      let whole := (← unit).spot
      within (← spotOf t) do
        match t.bare with
        | .name n =>
          loadName n
          one e
          within whole (emit (.update o))
          storeName n
        | .attribute a n =>
          one a
          emit (.copy 0)
          emit (.attribute (← known n))
          one e
          within whole (emit (.update o))
          emit (.swap 1)
          emit (.setAttribute (← known n))
        | .index a i =>
          one a
          one i
          emit (.copy 1)
          emit (.copy 1)
          emit .index
          one e
          within whole (emit (.update o))
          emit (.swap 2)
          emit (.swap 1)
          emit .setIndex
        | _ => refuse "illegal expression for augmented assignment"
    | .annotate t a e =>
      if !e.isAbsent then
        one e
        store fuel t
      let u ← unit
      match t.bare with
      | .name n =>
        if u.purpose ≠ .function then
          annotationOf one a
          emit .annotations
          emit (.const (.str (← known n)))
          emit .setIndex
      | .attribute o _ =>
        if e.isAbsent then
          one o
          emit .pop
      | .index o i =>
        if e.isAbsent then
          one o
          emit .pop
          one i
          emit .pop
      | _ => pure ()
    | .load ms =>
      ms.forM fun (m, given) => do
        match given with
        | some g =>
          emit (.load m 0 true)
          storeName g
        | none =>
          emit (.load m 0 false)
          storeName (m.takeWhile (· ≠ '.'))
    | .loadFrom dots m names =>
      if m = ("__future__" : Text) ∧ dots = 0 then
        if names.any fun p => p.1 = ("annotations" : Text) then modify fun s => { s with lazyAnnotations := true }
      emit (.load m dots true)
      if names.any fun p => p.1 = ['*'] then
        let u ← unit
        if u.purpose ≠ .script then
          -- the sign is the last one of the statement
          let first := (u.spot.last.map (· - 1)).getD u.spot.first
          throw { message := "import * only allowed at module level", spot := { u.spot with first } }
        emit .loadAll
      else
        names.forM fun (n, given) => do
          emit (.loadFrom n)
          storeName (given.getD n)
      emit .pop
    | .branch c yes no =>
      let otherwise ← label
      jumpUnless fuel c otherwise
      many yes
      if no.isEmpty then place otherwise
      else
        let finish ← label
        emit (.jump finish)
        place otherwise
        many no
        place finish
    | .loop c body otherwise =>
      let next ← label
      let stop ← label
      let finish ← label
      place next
      match c.bare with
      | .truth true => pure ()
      | _ => jumpUnless fuel c stop
      inBlock (.loop next finish false) (many body)
      emit (.jump next)
      place stop
      many otherwise
      place finish
    | .forEach waits t e body otherwise =>
      let next ← label
      let stop ← label
      let finish ← label
      one e
      if waits then
        if !(← unit).waits then refuse "'async for' outside async function"
        emit .asyncIterate
        place next
        let ends ← label
        emit (.guard ends 0)
        emit .asyncNext
        emit (.const .none)
        emit .delegate
        emit .unguard
        store fuel t
        inBlock (.loop next finish true) (many body)
        emit (.jump next)
        place ends
        emit (.asyncEnd stop)
      else
        emit .iterate
        place next
        emit (.next stop)
        store fuel t
        inBlock (.loop next finish true) (many body)
        emit (.jump next)
      place stop
      many otherwise
      place finish
    | .define waits name ps result body ds =>
      decorators fuel ds
      functionOf fuel name ps result (Names.ofFunction Names.maxNesting ps body) (.inl (body, waits))
      decorate ds
      storeName name
    | .classOf name as body ds =>
      decorators fuel ds
      classOf fuel name as body
      decorate ds
      storeName name
    | .give e =>
      let u ← unit
      if u.purpose ≠ .function then refuse "'return' outside function"
      if u.running = .asyncGenerator ∧ !e.isAbsent then refuse "'return' with value in async generator"
      one e
      leaveBlocks fuel (fun _ => false) true u.blocks
      emit .give
    | .leave =>
      let u ← unit
      let isLoop (b : Block) : Bool :=
        match b with
        | .loop _ _ _ => true
        | _ => false
      match u.blocks.find? isLoop with
      | some (.loop _ finish holds) =>
        leaveBlocks fuel isLoop false u.blocks
        if holds then emit .pop
        emit (.jump finish)
      | _ => refuse "'break' outside loop"
    | .next =>
      let u ← unit
      let isLoop (b : Block) : Bool :=
        match b with
        | .loop _ _ _ => true
        | _ => false
      match u.blocks.find? isLoop with
      | some (.loop next _ _) =>
        leaveBlocks fuel isLoop false u.blocks
        emit (.jump next)
      | _ => refuse "'continue' not properly in loop"
    | .pass => return ()
    | .attempt body hs otherwise final =>
      if final.isEmpty then attempt fuel body hs otherwise
      else
        let handler ← label
        let cleanup ← label
        let finish ← label
        emit (.guard handler 0)
        inBlock (.final final) do
          if hs.isEmpty then many body else attempt fuel body hs otherwise
        emit .unguard
        many final
        emit (.jump finish)
        place handler
        emit .caught
        emit (.guard cleanup 1)
        inBlock .finalFault (many final)
        emit .unguard
        emit (.again (some 0))
        place cleanup
        emit (.again (some 0))
        place finish
    | .fail e cause =>
      if e.isAbsent then emit (.raise 0)
      else
        one e
        if cause.isAbsent then emit (.raise 1)
        else
          one cause
          emit (.raise 2)
    | .using waits items body => inOrder fuel waits items body
    | .check c m =>
      let holds ← label
      match c.bare with
      | .tuple (_ :: _) => doubt "assertion is always true, perhaps remove parentheses?"
      | _ => pure ()
      jumpWhen fuel c holds
      emit (.const (.base .assertionError))
      if !m.isAbsent then
        one m
        emit (.call 1 [])
      within (← spotOf c) (emit (.raise 1))
      place holds
    | .delete ts => ts.forM (delete fuel)
    | .global ns =>
      let u ← unit
      ns.forM fun n => do
        if n ∈ u.slots then refuse ("name '" ++ n ++ "' is parameter and global")
        if n ∈ u.given then refuse ("name '" ++ n ++ "' is assigned to before global declaration")
        if n ∈ u.asked then refuse ("name '" ++ n ++ "' is used prior to global declaration")
    | .nonlocal ns =>
      let u ← unit
      if u.purpose = .script then refuse "nonlocal declaration not allowed at module level"
      ns.forM fun n => do
        if n ∈ u.slots then refuse ("name '" ++ n ++ "' is parameter and nonlocal")
        if n ∈ u.globals then refuse ("name '" ++ n ++ "' is nonlocal and global")
        if n ∉ u.taken then refuse ("no binding for nonlocal '" ++ n ++ "' found")
        if n ∈ u.given then refuse ("name '" ++ n ++ "' is assigned to before nonlocal declaration")
        if n ∈ u.asked then refuse ("name '" ++ n ++ "' is used prior to nonlocal declaration")
    | .select e cs =>
      one e
      let finish ← label
      cs.forM fun (p, guard, body) => do
        let next ← label
        emit (.copy 0)
        let fails ← pattern fuel p []
        let (fails, _) ← (do
          if guard.isAbsent then return (fails, ())
          else
            let l ← label
            jumpUnless fuel guard l
            return ((l, 0) :: fails, ()))
        emit .pop
        many body
        emit (.jump finish)
        settleFails fails next
        place next
      emit .pop
      place finish

def decorators : (fuel : Nat) → List Expr → Maker Unit
  | 0, _ => refuse "too many nested parentheses"
  | fuel + 1, ds => ds.forM (expr fuel)

/-- a class comes to the top -/
def classOf : (fuel : Nat) → (name : Text) → List (Passing × Expr) → List Stmt → Maker Unit
  | 0, _, _, _ => refuse "too many nested parentheses"
  | fuel + 1, name, as, body => do
    let outside ← unit
    let ns := Names.ofBody Names.maxNesting body
    let own := ns.own
    let needsCell : Bool := ("__class__" : Text) ∈ ns.inner
    let taken := ((ns.used ++ ns.inner ++ ns.nonlocals).filter fun n =>
      n ∈ outside.seen && n ∉ ns.globals && n ≠ ("__class__" : Text)).eraseDups
    let slots : List Text := if needsCell then ["__class__"] else []
    let u : Draft :=
      { purpose := .classBody, name, qualname := ← qualified name, line := outside.spot.line, slots, cells := slots
        own := own.filter (· ≠ ("__class__" : Text)), taken, globals := ns.globals
        seen := (slots ++ outside.seen).eraseDups, cls := some name, spot := outside.spot }
    emit (.const (.native "builtins" "__build_class__"))
    let (code, taken) ← making u { name := [], qualname := [] } do
      emit (.name "__name__")
      emit (.setName "__module__")
      emit (.const (.str u.qualname))
      emit (.setName "__qualname__")
      let doc : Value :=
        match body with
        | .at _ (.expr e) :: _ =>
          match e.bare with
          | .str t => .str t
          | _ => .none
        | _ => .none
      if !doc.isNone then
        emit (.const doc)
        emit (.setName "__doc__")
      let _ ← block fuel body true
      if needsCell then
        emit (.cell 0)
        emit (.setName "__classcell__")
      emit (.const .none)
      emit .give
      return { name, qualname := [] }
    taken.forM loadCell
    emit (.function code 0 [] taken.length false)
    emit (.const (.str name))
    let simple := as.all fun a =>
      match a.1 with
      | .plain | .named _ => true
      | _ => false
    if simple then
      as.forM fun a => expr fuel a.2
      emit (.call (as.length + 2) (as.filterMap fun a =>
        match a.1 with
        | .named n => some n
        | _ => none))
    else
      -- the code and the name go in front of the other arguments
      emit (.list 2)
      as.forM fun a => do
        match a.1 with
        | .plain =>
          expr fuel a.2
          emit (.append 0)
        | .spread =>
          expr fuel a.2
          emit .extend
        | _ => return ()
      emit .asTuple
      emit (.dict 0)
      as.forM fun a => do
        match a.1 with
        | .named n =>
          emit (.const (.str n))
          expr fuel a.2
          emit (.dict 1)
          emit (.merge true)
        | .spreadNamed =>
          expr fuel a.2
          emit (.merge true)
        | _ => return ()
      emit (.callSpread true)

/-- statements with handlers for their failures -/
def attempt : (fuel : Nat) → List Stmt → List (Spot × Expr × Option Text × List Stmt) → List Stmt → Maker Unit
  | 0, _, _, _ => refuse "too many statically nested blocks"
  | fuel + 1, body, hs, otherwise => do
    let handler ← label
    let cleanup ← label
    let finish ← label
    emit (.guard handler 0)
    inBlock .guarded do
      let _ ← block fuel body false
    emit .unguard
    let _ ← block fuel otherwise false
    emit (.jump finish)
    place handler
    emit .caught
    emit (.guard cleanup 1)
    hs.zipIdx.forM fun ((spot, e, name, body), i) => within spot do
      if e.isAbsent ∧ i + 1 < hs.length then refuse "default 'except:' must be last"
      let next ← label
      if !e.isAbsent then
        emit (.copy 0)
        within (← spotOf e) do
          expr fuel e
        emit .fits
        emit (.jumpIf false next)
      match name with
      | none =>
        emit .pop
        inBlock (.handler none) do
          let _ ← block fuel body false
        emit .unguard
        emit .release
        emit (.jump finish)
      | some n =>
        storeName n
        let named ← label
        emit (.guard named 0)
        inBlock (.handler (some n)) do
          let _ ← block fuel body false
        emit .unguard
        emit .unguard
        emit .release
        emit (.const .none)
        storeName n
        eraseName n
        emit (.jump finish)
        place named
        emit (.const .none)
        storeName n
        eraseName n
        emit (.again none)
      place next
    emit .unguard
    emit (.again (some 0))
    place cleanup
    emit (.again (some 0))
    place finish

/-- values that are left in order when statements end -/
def inOrder : (fuel : Nat) → (waits : Bool) → List (Expr × Expr) → List Stmt → Maker Unit
  | 0, _, _, _ => refuse "too many statically nested blocks"
  | fuel + 1, waits, items, body => do
    match items with
    | [] =>
      let _ ← block fuel body false
    | (e, target) :: rest =>
      if waits ∧ !(← unit).waits then refuse "'async with' outside async function"
      let handler ← label
      let cleanup ← label
      let finish ← label
      let suppressed ← label
      expr fuel e
      emit (.enter waits)
      if waits then waiting
      emit (.guard handler 1)
      if target.isAbsent then
        emit .pop
        inBlock (.using waits) (inOrder fuel waits rest body)
      else
        store fuel target
        inBlock (.using waits) (inOrder fuel waits rest body)
      emit .unguard
      emit (.leave waits)
      if waits then
        waiting
        emit .pop
      emit (.jump finish)
      place handler
      emit .caught
      emit (.guard cleanup 1)
      emit .leaveFault
      if waits then waiting
      emit .unguard
      emit (.jumpIf true suppressed)
      emit (.again (some 0))
      place suppressed
      emit .pop
      emit .release
      emit .pop
      emit (.jump finish)
      place cleanup
      emit (.again (some 0))
      place finish

/-- takes a target away -/
def delete : (fuel : Nat) → Expr → Maker Unit
  | 0, _ => refuse "too many nested parentheses"
  | fuel + 1, e => do
    match e with
    | .at s e => within s (delete fuel e)
    | .name n => eraseName n
    | .attribute o n =>
      expr fuel o
      emit (.eraseAttribute (← known n))
    | .index o i =>
      expr fuel o
      expr fuel i
      emit .eraseIndex
    | .tuple es | .list es => es.forM (delete fuel)
    | _ => refuse "cannot delete expression"

/-- goes on when the value on the top fits a pattern, and takes it away; the labels of failures are given with the
number of values that are still on the stack there -/
def pattern : (fuel : Nat) → Pattern → (fails : List (Nat × Nat)) → Maker (List (Nat × Nat))
  | 0, _, _ => refuse "too many nested parentheses"
  | fuel + 1, p, fails => do
    match p with
    | .anything =>
      emit .pop
      return fails
    | .capture n =>
      storeName n
      return fails
    | .value e =>
      expr fuel e
      emit (.compare .equal)
      let l ← label
      emit (.jumpIf false l)
      return (l, 0) :: fails
    | .constant e =>
      expr fuel e
      emit (.compare .same)
      let l ← label
      emit (.jumpIf false l)
      return (l, 0) :: fails
    | .under p n =>
      emit (.copy 0)
      storeName n
      pattern fuel p fails
    | .rest _ => return fails
    | .oneOf ps =>
      let matched ← label
      let failing ← alternatives fuel ps matched
      place matched
      emit .pop
      return (failing.map fun f => (f, 1)) ++ fails
    | .sequence ps =>
      let star? := ps.findIdx? fun p =>
        match p with
        | .rest _ => true
        | _ => false
      let l ← label
      emit .isSequence
      emit (.jumpIf false l)
      emit .length
      match star? with
      | none =>
        emit (.const (.int ps.length))
        emit (.compare .equal)
        emit (.jumpIf false l)
        emit (.unpack ps.length)
      | some i =>
        emit (.const (.int (ps.length - 1 : Nat)))
        emit (.compare .greaterOrEqual)
        emit (.jumpIf false l)
        emit (.unpackRest i (ps.length - i - 1))
      let (inner, _) ← ps.foldlM (fun (acc : List (Nat × Nat) × Nat) p => do
        let (fails, left) := acc
        let left := left - 1
        let own ← (match p with
          | .rest (some n) => do
            storeName n
            return []
          | .rest none => do
            emit .pop
            return []
          | p => pattern fuel p [])
        return (own.map (fun f => (f.1, f.2 + left)) ++ fails, left)) (([] : List (Nat × Nat)), ps.length)
      return inner ++ (l, 1) :: fails
    | .mapping ps rest =>
      let l ← label
      emit .isMapping
      emit (.jumpIf false l)
      if ps.isEmpty ∧ rest.isNone then
        emit .pop
        return (l, 1) :: fails
      emit .length
      emit (.const (.int ps.length))
      emit (.compare .greaterOrEqual)
      emit (.jumpIf false l)
      ps.forM fun p => expr fuel p.1
      emit (.tuple ps.length)
      emit .valuesOf
      -- the subject, the keys and the values, or nothing
      let l3 ← label
      emit (.copy 0)
      emit (.const .none)
      emit (.compare .same)
      emit (.jumpIf true l3)
      emit (.unpack ps.length)
      let (inner, _) ← ps.foldlM (fun (acc : List (Nat × Nat) × Nat) p => do
        let (fails, left) := acc
        let left := left - 1
        let own ← pattern fuel p.2 []
        return (own.map (fun f => (f.1, f.2 + left + 2)) ++ fails, left)) (([] : List (Nat × Nat)), ps.length)
      match rest with
      | some n =>
        emit .without
        storeName n
      | none =>
        emit .pop
        emit .pop
      return inner ++ (l3, 3) :: (l, 1) :: fails
    | .instance_ cls ps named =>
      expr fuel cls
      emit (.parts ps.length (← named.mapM fun p => known p.1))
      let l ← label
      emit (.copy 0)
      emit (.const .none)
      emit (.compare .same)
      emit (.jumpIf true l)
      let all := ps ++ named.map (·.2)
      emit (.unpack all.length)
      let (inner, _) ← all.foldlM (fun (acc : List (Nat × Nat) × Nat) p => do
        let (fails, left) := acc
        let left := left - 1
        let own ← pattern fuel p []
        return (own.map (fun f => (f.1, f.2 + left)) ++ fails, left)) (([] : List (Nat × Nat)), all.length)
      return inner ++ (l, 1) :: fails

/-- goes to a label when the value on the top, which stays, fits one of several patterns -/
def alternatives : (fuel : Nat) → List Pattern → (matched : Nat) → Maker (List Nat)
  | 0, _, _ => refuse "too many nested parentheses"
  | fuel + 1, ps, matched => do
    match ps with
    | [] =>
      let l ← label
      emit (.jump l)
      return [l]
    | p :: rest =>
      emit (.copy 0)
      let fails ← pattern fuel p []
      emit (.jump matched)
      let next ← label
      settleFails fails next
      place next
      alternatives fuel rest matched

end

/-! ## Whole sources -/

/-- how deep the parts of a source may be nested -/
def maxNesting : Nat := 20000

/-- the names of a block that keeps them in a dictionary -/
def scriptDraft (name : Text) : Draft :=
  { purpose := .script, name, qualname := name, spot := { line := 1 } }

/-- codes behind those that are there, the last one for the whole source -/
def run (codes : Array Code) (source : Nat) (lazyAnnotations : Bool) (name : Text) (m : Maker Code) :
    Except Fault (Array Code × List (Nat × Text)) := do
  let start : Making := { codes, unit := scriptDraft name, source, lazyAnnotations }
  let (c, s) ← StateT.run m start
  return (s.codes.push (finish s.unit source c), s.doubts.reverse)

def script (codes : Array Code) (source : Nat) (ss : List Stmt) : Except Fault (Array Code × List (Nat × Text)) :=
  run codes source false "<module>" do
    let doc : Value :=
      match ss with
      | .at _ (.expr e) :: _ =>
        match e.bare with
        | .str t => .str t
        | _ => .none
      | _ => .none
    if !doc.isNone then
      emit (.const doc)
      emit (.setName "__doc__")
    let _ ← block maxNesting ss true
    emit (.const .none)
    emit .give
    return { name := [], qualname := [] }

/-- the codes of an expression whose value is wanted -/
def single (codes : Array Code) (source : Nat) (e : Expr) : Except Fault (Array Code × List (Nat × Text)) :=
  run codes source false "<module>" do
    expr maxNesting e
    emit .give
    return { name := [], qualname := [] }

end Maker
end IncludeAudit.Offside
