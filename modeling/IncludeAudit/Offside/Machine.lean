/-
Codes are carried out: one instruction after another, with the codes that wait for others in a row. A failure leads to
the innermost place that wants it, through all codes on the way, and leaves its traces there.

- `unwind`: where a failure leads, `carryOn`: a code until it ends or hands out a value.
- `callerAt`: what values can have done by others, as deep as it may be nested.
-/
import IncludeAudit.Offside.Machine.Work

namespace IncludeAudit.Offside

/-- how carrying out a code has ended -/
inductive Outcome
  | gave (v : Value)
  /-- a value has been handed out; the code can go on later -/
  | paused (v : Value) (f : Frame)
  deriving Inhabited

namespace World

/-- the failure that is being handled is another one -/
def handle (w : World) (v : Value) : World :=
  { w with handling := v }

/-- a code has ended: one level less, and what was being handled when it began -/
def leave (w : World) (f : Frame) : World :=
  { w with depth := w.depth - 1, handling := f.before }

/-- a failure has come through a code -/
def trace (w : World) (n : Nat) (f : Frame) : World :=
  let e : Entry :=
    { source := f.code.source, spot := f.code.spots.getD f.pc {}, name := f.code.name, globals := f.globals
      slots := f.code.slots }
  w.modify n fun o =>
    match o with
    | { cls, attributes, body := .failure x } => { cls, attributes, body := .failure { x with trace := e :: x.trace } }
    | o => o

end World

/-- where a failure leads: to a code with the codes that wait for it, or out of all of them -/
def unwind (n : Nat) : (traced : Bool) → Frame → List Frame → World → Option (Frame × List Frame) × World
  | traced, f, outside, w =>
    let w := if traced then w.trace n f else w
    match f with
    | { code, pc := _, stack := _, slots, globals, names, guards := (place, stack) :: guards, before, after } =>
      (some ({ code, pc := place, stack := .ref n :: stack, slots, globals, names, guards, before, after }, outside), w)
    | f =>
      match outside with
      | [] => (none, w.leave f)
      | g :: rest => unwind n true g rest (w.leave f)
termination_by _ _ outside => outside.length

/-- a result of a code in front of the stack of the code that waits for it; a failure when there should be none -/
def resultFor (f : Frame) (v : Value) (w : World) : Value ⊕ Text :=
  match f.after with
  | .instance_ made =>
    match v with
    | .none => .inl made
    | v => .inr ("__init__() should return None, not '" ++ w.kindOf v ++ ['\''])
  | _ => .inl v

/-- a complaint about the kind of a value, made without anybody's help -/
def complaint (message : Text) (w : World) : Nat × World :=
  let (n, w) := w.add { cls := Base.typeError.ref, body := .failure { args := [.str message] } }
  match w.handling with
  | .ref m => (n, setContext w n (.ref m))
  | _ => (n, w)

/-- what one instruction has led to -/
inductive Turn
  | on (f : Frame) (outside : List Frame) (w : World)
  | ended (o : Outcome) (w : World)
  /-- a failure, which leaves a trace where it has come up unless it has been there before -/
  | failed (n : Nat) (traced : Bool) (f : Frame) (outside : List Frame) (w : World)
  | stopped (s : Stop) (w : World)

/-- the failure that some work ends with -/
def Turn.ofWork {α : Type} (work : Eval α) (c : Caller) (f : Frame) (outside : List Frame) (w : World) : Turn :=
  match work c w with
  | .error (.raised n) w => .failed n true f outside w
  | .error s w => .stopped s w
  | .ok _ w => .stopped .exhausted w

/-- an instruction about values is carried out -/
def workTurn (c : Caller) (i : Instr) (f : Frame) (outside : List Frame) (w : World) : Turn :=
  match perform i f { c with waiting := (f :: outside) :: c.waiting } w with
  | .ok step w =>
    match f with
    | { code, pc, stack := _, slots, globals, names, guards, before, after } =>
      match step with
      | .next stack => .on { code, pc := pc + 1, stack, slots, globals, names, guards, before, after } outside w
      | .jump place stack => .on { code, pc := place, stack, slots, globals, names, guards, before, after } outside w
      | .begin callee stack =>
        .on callee ({ code, pc, stack, slots, globals, names, guards, before, after } :: outside) w
      | .yield v stack =>
        -- what is being handled here is kept on the stack, unless it is what was being handled outside
        let own : Value := if identical w.handling before then .absent else w.handling
        .ended (.paused v { code, pc, stack := own :: stack, slots, globals, names, guards, before, after })
          { w with depth := w.depth - 1, handling := before }
  | .error (.raised n) w => .failed n true f outside w
  | .error s w => .stopped s w

/-- a code ends with a value -/
def giveTurn (v : Value) (f : Frame) (outside : List Frame) (w : World) : Turn :=
  match resultFor f v w with
  | .inl v =>
    match outside with
    | [] => .ended (.gave v) (w.leave f)
    | { code, pc, stack, slots, globals, names, guards, before, after } :: rest =>
      .on { code, pc := pc + 1, stack := v :: stack, slots, globals, names, guards, before, after } rest (w.leave f)
  | .inr message =>
    let (n, w) := complaint message (w.leave f)
    match outside with
    | [] => .stopped (.raised n) w
    | g :: rest => .failed n true g rest w

/-- a failure goes on through the code, with what was being handled before it -/
def againTurn (e : Value) (f : Frame) (outside : List Frame) (w : World) : Turn :=
  match e with
  | .ref n => .failed n false f outside w
  | _ => .stopped .exhausted w

/-- one instruction of a code -/
def turn (c : Caller) (f : Frame) (outside : List Frame) (w : World) : Turn :=
  match f with
  | { code, pc, stack, slots, globals, names, guards, before, after } =>
    match code.instrs.getD pc .give, stack with
    | .const v, s => .on { code, pc := pc + 1, stack := v :: s, slots, globals, names, guards, before, after } outside w
    | .pop, _ :: s => .on { code, pc := pc + 1, stack := s, slots, globals, names, guards, before, after } outside w
    | .copy n, s =>
      .on { code, pc := pc + 1, stack := s.getD n .none :: s, slots, globals, names, guards, before, after } outside w
    | .swap n, v :: s =>
      let other := s.getD (n - 1) .none
      .on { code, pc := pc + 1, stack := other :: s.set (n - 1) v, slots, globals, names, guards, before, after } outside w
    | .fast n, s =>
      match slots.getD n .absent with
      | .absent =>
        let name := code.slots.getD n []
        Turn.ofWork (unassigned name : Eval Nat) c { code, pc, stack := s, slots, globals, names, guards, before, after }
          outside w
      | v => .on { code, pc := pc + 1, stack := v :: s, slots, globals, names, guards, before, after } outside w
    | .setFast n, v :: s =>
      .on { code, pc := pc + 1, stack := s, slots := slots.setIfInBounds n v, globals, names, guards, before, after } outside w
    | .eraseFast n, s =>
      match slots.getD n .absent with
      | .absent =>
        let name := code.slots.getD n []
        Turn.ofWork (unassigned name : Eval Nat) c { code, pc, stack := s, slots, globals, names, guards, before, after }
          outside w
      | _ =>
        .on { code, pc := pc + 1, stack := s, slots := slots.setIfInBounds n .absent, globals, names, guards, before, after }
          outside w
    | .jump place, s => .on { code, pc := place, stack := s, slots, globals, names, guards, before, after } outside w
    | .jumpIf b place, .truth t :: s =>
      .on { code, pc := if t = b then place else pc + 1, stack := s, slots, globals, names, guards, before, after } outside w
    | .guard place under, s =>
      .on { code, pc := pc + 1, stack := s, slots, globals, names, guards := (place, s.drop under) :: guards, before, after }
        outside w
    | .unguard, s =>
      .on { code, pc := pc + 1, stack := s, slots, globals, names, guards := guards.tail, before, after } outside w
    | .caught, e :: s =>
      let previous : Value := if identical w.handling before then .absent else w.handling
      .on { code, pc := pc + 1, stack := e :: previous :: s, slots, globals, names, guards, before, after } outside
        (w.handle e)
    | .release, previous :: s =>
      let handling := if previous.isThere then previous else before
      .on { code, pc := pc + 1, stack := s, slots, globals, names, guards, before, after } outside (w.handle handling)
    | .again (some junk), e :: s =>
      let previous := s.getD junk .absent
      let handling := if previous.isThere then previous else before
      againTurn e { code, pc, stack := s, slots, globals, names, guards, before, after } outside (w.handle handling)
    | .again none, e :: s =>
      againTurn e { code, pc, stack := s, slots, globals, names, guards, before, after } outside w
    | .raise 0, s =>
      let f : Frame := { code, pc, stack := s, slots, globals, names, guards, before, after }
      match w.handling with
      | .ref n => .failed n false f outside w
      | _ => Turn.ofWork (raise .runtimeError "No active exception to reraise" : Eval Nat) c f outside w
    | .give, s => giveTurn (s.headD .none) { code, pc, stack := s, slots, globals, names, guards, before, after } outside w
    | i, s => workTurn c i { code, pc, stack := s, slots, globals, names, guards, before, after } outside w

/-- a code is carried out until it ends or hands out a value -/
def carryOn (c : Caller) : (fuel : Nat) → Frame → List Frame → World → EStateM.Result Stop World Outcome
  | 0, _, _, w => .error .exhausted w
  | fuel + 1, f, outside, w =>
    match turn c f outside w with
    | .on f outside w => carryOn c fuel f outside w
    | .ended o w => .ok o w
    | .failed n traced f outside w =>
      match unwind n traced f outside w with
      | (some (f, outside), w) => carryOn c fuel f outside w
      | (none, w) => .error (.raised n) w
    | .stopped s w => .error s w

/-- a code is carried out from its beginning -/
def carryFrame (c : Caller) (f : Frame) : Plain Value := fun w =>
  match carryOn c endless f [] w with
  | .ok (.gave v) w => .ok v w
  | .ok (.paused v _) w => .ok v w
  | .error s w => .error s w

/-! ## Generators -/

def setGenerator (w : World) (n : Nat) (frame : Option Frame) (running : Bool) : World :=
  w.modify n fun o =>
    match o with
    | { cls, attributes, body := .generator g } =>
      { cls, attributes, body := .generator { g with frame, running, started := true } }
    | o => o

/-- a failure about the end of elements that comes out of a generator stands for something else -/
def stopInside (kind : Text) (n : Nat) : Eval Nat := do
  let w ← get
  let cls := (w.object n).cls
  let isStop := w.isBelow cls Base.stopIteration.ref
  let isAsyncStop : Bool := kind = ("async generator" : Text) && w.isBelow cls Base.stopAsyncIteration.ref
  if isStop ∨ isAsyncStop then
    let what : Text := if isStop then "StopIteration" else "StopAsyncIteration"
    let e ← newFailure Base.runtimeError.ref [.str (kind ++ " raised " ++ what)] []
    modifyFailure e fun f => { f with cause := .ref n, context := .ref n, suppressed := true }
    return e
  else return n

/-- goes on with the code of a generator -/
def goOn (f : Frame) (sent : Value) (thrown : Bool) : Eval Outcome := do
  let outer := (← get).handling
  let begun : Bool := match f.code.instrs[f.pc]? with
    | some .yield | some .delegate => true
    | _ => false
  let own : Value := if begun then f.stack.headD .absent else .absent
  let stack := if begun then f.stack.tail else f.stack
  modify fun w => { w with depth := w.depth + 1, handling := if own.isThere then own else outer }
  let f : Frame := { f with before := outer, stack }
  let run (f : Frame) : Eval Outcome := fun c w => carryOn c endless f [] w
  let fail (n : Nat) (f : Frame) : Eval Outcome := fun c w =>
    match unwind n true f [] w with
    | (some (f, outside), w) => carryOn c endless f outside w
    | (none, w) => .error (.raised n) w
  if !thrown then
    match f.code.instrs[f.pc]? with
    | some .yield => run { f with pc := f.pc + 1, stack := sent :: stack }
    | some .delegate => run { f with stack := sent :: stack }
    | _ => run f
  else
    match sent with
    | .ref n =>
      match f.code.instrs[f.pc]?, stack with
      | some .delegate, it :: below =>
        -- the failure goes to what hands out elements here
        let answer ← tryCatch (do
            let r ← advanceThrown it n
            return Sum.inl r) fun s => do
          match s with
          | .raised m => return Sum.inr m
          | s => throw s
        match answer with
        | .inl (true, v) =>
          let handling := (← get).handling
          let own : Value := if identical handling outer then .absent else handling
          modify fun w => { w with depth := w.depth - 1, handling := outer }
          return .paused v { f with stack := own :: stack }
        | .inl (false, v) => run { f with pc := f.pc + 1, stack := v :: below }
        | .inr m => fail m { f with stack := below }
      | _, _ =>
        -- the failure comes in the middle of what is being handled here
        let m ← tryCatch (raiseRef n : Eval Nat) fun s => do
          match s with
          | .raised m => return m
          | s => throw s
        fail m f
    | _ => run f

/-- goes on with a generator: true with a value that is handed out, false with the value at its end -/
def resumeGenerator (n : Nat) (sent : Value) (thrown : Bool) : Eval (Bool × Value) := do
  let w ← get
  match w.body n with
  | .generator g =>
    let kind : Text :=
      if (w.object n).cls = Base.coroutine.ref then "coroutine"
      else if (w.object n).cls = Base.asyncGenerator.ref then "async generator" else "generator"
    if g.running then misvalued (kind ++ " already executing")
    match g.frame with
    | none =>
      match thrown, sent with
      | true, .ref e => raiseRef e
      | _, _ =>
        if kind = ("coroutine" : Text) then raise .runtimeError "cannot reuse already awaited coroutine"
        return (false, .none)
    | some f =>
      if w.limit ≤ w.depth then raise .recursionError "maximum recursion depth exceeded"
      modify fun w => setGenerator w n none true
      let outer := w.handling
      let outcome ← tryCatch (goOn f sent thrown) fun s => do
        modify fun w => (setGenerator w n none false).handle outer
        match s with
        | .raised m => throw (.raised (← stopInside kind m))
        | s => throw s
      match outcome with
      | .paused v f =>
        modify fun w => (setGenerator w n (some f) false).handle outer
        return (true, v)
      | .gave v =>
        modify fun w => (setGenerator w n none false).handle outer
        return (false, v)
  | _ => return (false, .none)

/-! ## Others -/

def callNested (f : Value) (args : List Value) (named : List (Text × Value)) : Eval Value := do
  match ← callValue maxSteps f args named with
  | .done v => return v
  | .begun frame => fun c => carryFrame c frame

def carryCode (code globals names : Nat) (closure : List Value) : Eval Value := do
  let w ← get
  let c := w.codes.getD code { name := [], qualname := [] }
  let slots := Array.replicate c.slots.size Value.absent
  let slots ← c.cells.foldlM (fun (a : Array Value) i => do
    let cell ← make .cell (.cell .absent)
    return a.setIfInBounds i cell) slots
  let slots := closure.zipIdx.foldl (fun (a : Array Value) p => a.setIfInBounds (c.outer + p.2) p.1) slots
  let frame ← begin_ { code := c, slots, globals, names }
  fun caller => carryFrame caller frame

/-- what values can have done by others, so many levels deep -/
def callerAt : (levels : Nat) → Caller
  | 0 =>
    let refuse {α : Type} : Plain α := fun w =>
      let (n, w) := w.add
        { cls := Base.recursionError.ref, body := .failure { args := [.str "maximum recursion depth exceeded"] } }
      .error (.raised n) w
    { call := fun _ _ _ _ => refuse, carry := fun _ _ _ _ _ => refuse, resume := fun _ _ _ _ => refuse }
  | levels + 1 =>
    let c := callerAt levels
    { call := fun waiting f args named => callNested f args named { c with waiting }
      carry := fun waiting code globals names closure => carryCode code globals names closure { c with waiting }
      resume := fun waiting n sent thrown => resumeGenerator n sent thrown { c with waiting } }

/-- how deep work on values may be nested -/
def maxLevels : Nat := 300

end IncludeAudit.Offside
