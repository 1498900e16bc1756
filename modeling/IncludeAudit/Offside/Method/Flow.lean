/-
Values that give others one after another and can be spoken to in between.

- `advance`: goes on with such a value, `flowMethod`, `iterMethod`: methods by name, `asFailure`: a failure that a value stands for.
-/
import IncludeAudit.Offside.Method.Filing

namespace IncludeAudit.Offside

/-- stops since there are no more elements; with the value that is left at the end -/
def raiseStop {α : Type} (v : Value) : Eval α :=
  raiseWith .stopIteration (if v.isNone then [] else [v]) [("value", v)]

/-- the failure that a value stands for: itself, or a fresh one of a class -/
def asFailure (v : Value) : Eval Nat := do
  let w ← get
  let refuse : Eval Nat := mistyped "exceptions must derive from BaseException"
  match v with
  | .ref n =>
    match w.body n with
    | .failure _ => return n
    | .class_ _ =>
      if w.isBelow n Base.baseException.ref then
        match ← call v [] with
        | .ref m =>
          match (← object m).body with
          | .failure _ => return m
          | _ => mistyped ("calling " ++ (← reprOf v) ++ " should have returned an instance of BaseException, not " ++
              (← reprOf (.ref ((← get).classOf (.ref m)))))
        | _ => refuse
      else refuse
    | _ => refuse
  | _ => refuse

/-- goes on with a generator -/
def resume (n : Nat) (sent : Value) (thrown : Bool) : Eval (Bool × Value) :=
  fun c => c.resume c.waiting n sent thrown

/-- the value that has been left at the end, of a failure -/
def stopValue (n : Nat) : Eval Value := do
  let f ← failureAt n
  match f.parts.find? (·.1 = ("value" : Text)) with
  | some (_, v) => return v
  | none => return f.args.head?.getD .none

/-- a step of a generator whose elements are waited for -/
def stepAsync (it generator : Nat) (sent : Value) (thrown : Bool) : Eval (Bool × Value) := do
  let isClosing ← (do
    match thrown, sent with
    | true, .ref m => return (← get).isBelow (← object m).cls Base.generatorExit.ref
    | _, _ => return false)
  let run : Eval (Bool × Value) := do
    match ← resume generator sent thrown with
    | (true, .bound v .asyncGenerator "yield") =>
      setIter it .done
      if isClosing then raise .runtimeError "async generator ignored GeneratorExit"
      return (false, v)
    | (true, v) =>
      setIter it (.step generator .none false)
      return (true, v)
    | (false, _) =>
      setIter it .done
      if isClosing then return (false, .none) else raiseWith .stopAsyncIteration [] []
  if isClosing then catching [.generatorExit, .stopAsyncIteration] run fun _ => return (false, .none)
  else run

/-- goes on with a value: true with the next element, or false with what is left at the end -/
def advance (it sent : Value) : Eval (Bool × Value) := do
  match it with
  | .ref n =>
    match (← object n).body with
    | .generator _ => resume n sent false
    | .iter (.step m first thrown) => stepAsync n m (if sent.isNone then first else sent) thrown
    | _ =>
      catching [.stopIteration] (do
        if sent.isNone then
          match ← next? it with
          | some v => return (true, v)
          | none =>
            -- a method of a script may have left a value at the end
            return (false, .none)
        else return (true, ← call (← member it "send") [sent])) fun e => do
          return (false, ← stopValue e)
  | _ => mistyped ("'" ++ (← kindOf it) ++ "' object is not an iterator")

/-- goes on with a value of a script, whose end may come with a value -/
def advanceScripted (it sent : Value) : Eval (Bool × Value) := do
  if !sent.isNone then advance it sent
  else
    match ← method? it "__next__" with
    | some f =>
      catching [.stopIteration] (do return (true, ← call f [])) fun e => do return (false, ← stopValue e)
    | none => advance it sent

/-- goes on with a value by a failure -/
def advanceThrown (it : Value) (e : Nat) : Eval (Bool × Value) := do
  let w ← get
  match it with
  | .ref n =>
    match w.body n with
    | .generator _ => resume n (.ref e) true
    | .iter (.step m _ _) => stepAsync n m (.ref e) true
    | _ =>
      match ← member? it "throw" with
      | some f => catching [.stopIteration] (do return (true, ← call f [.ref e])) fun e => do return (false, ← stopValue e)
      | none => raiseRef e
  | _ => raiseRef e

def closeGenerator (n : Nat) : Eval Unit := do
  match (← object n).body with
  | .generator g =>
    match g.frame with
    | none => return ()
    | some _ =>
      if !g.started then setBody n (.generator { g with frame := none })
      else
        let e ← newFailure Base.generatorExit.ref [] []
        let handling := (← get).handling
        let ended ← tryCatch (do
          let (more, _) ← resume n (.ref e) true
          return !more) fun s => do
            match s with
            | .raised m =>
              let w ← get
              let cls := (w.object m).cls
              if w.isBelow cls Base.generatorExit.ref ∨ w.isBelow cls Base.stopIteration.ref then
                modify fun w => { w with handling }
                return true
              else throw s
            | s => throw s
        if !ended then raise .runtimeError "generator ignored GeneratorExit"
  | _ => return ()

def thrownFailure (g : Given) : Eval Nat := do
  match g.args with
  | [] => mistyped "throw expected at least 1 argument, got 0"
  | [v] =>
    let w ← get
    if w.isClass v then
      match v with
      | .ref n => if w.isBelow n Base.baseException.ref then return ← asFailure v
      | _ => pure ()
    match v with
    | .ref n =>
      match w.body n with
      | .failure _ => return n
      | _ => pure ()
    | _ => pure ()
    mistyped ("exceptions must be classes or instances deriving from BaseException, not " ++ (← kindOf v))
  | v :: x :: _ =>
    match x with
    | .none => asFailure v
    | .ref n =>
      match (← object n).body with
      | .failure _ => return n
      | _ => asFailure (← call v [x])
    | x => asFailure (← call v [x])

def flowMethod (n : Nat) (gen : Generator) (b : Base) (name : String) (g : Given) : Eval Value := do
  let finish (r : Bool × Value) : Eval Value := do
    if r.1 then return r.2 else raiseStop r.2
  let stepOf (v : Value) (thrown : Bool) : Eval Value := newIter .sequenceIterator (.step n v thrown)
  match name with
  | "__iter__" | "__aiter__" => return .ref n
  | "__await__" =>
    -- what is left to do goes over to a generator
    let m ← alloc { cls := Base.generator.ref, body := .generator gen }
    setBody n (.generator { gen with frame := none, started := true })
    return .ref m
  | "__next__" => finish (← resume n .none false)
  | "send" =>
    let v ← g.one (Catalog.nameOf b ++ ".send")
    if !gen.started ∧ gen.frame.isSome ∧ !v.isNone then
      mistyped ("can't send non-None value to a just-started " ++ Catalog.nameOf b)
    finish (← resume n v false)
  | "throw" => finish (← resume n (.ref (← thrownFailure g)) true)
  | "close" =>
    closeGenerator n
    return .none
  | "__anext__" => stepOf .none false
  | "asend" => stepOf (g.at_ 0) false
  | "athrow" => stepOf (.ref (← thrownFailure g)) true
  | "aclose" => stepOf (.ref (← newFailure Base.generatorExit.ref [] [])) true
  | name => noAttribute (.ref n) name.toList

/-- methods of what gives elements -/
def iterMethod (n : Nat) (i : Iter) (name : String) (g : Given) : Eval Value := do
  match name with
  | "__iter__" | "__await__" => return .ref n
  | "__next__" | "send" =>
    match i with
    | .step m first thrown =>
      let sent := g.at_ 0
      let (more, v) ← stepAsync n m (if sent.isNone then first else sent) thrown
      if more then return v else raiseStop v
    | _ =>
      match ← next? (.ref n) with
      | some v => return v
      | none => raiseStop .none
  | "__length_hint__" =>
    match i with
    | .values vs => return .int vs.length
    | .list r place =>
      match (← object r).body with
      | .list vs => return .int (vs.size - place)
      | _ => return .int 0
    | .listBack _ place => return .int place
    | .range _ _ left => return .int left
    | .crowd _ _ vs => return .int vs.length
    | .table _ place size _ => return .int (size - place)
    | _ => return .int 0
  | name => noAttribute (.ref n) name.toList

end IncludeAudit.Offside
