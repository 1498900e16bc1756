/-
What instructions do to the values on the stack of a code.

- `Step`: what an instruction leads to, `perform`: an instruction is carried out.
-/
import IncludeAudit.Offside.Machine.Names

namespace IncludeAudit.Offside

inductive Step
  /-- the next instruction, with a stack -/
  | next (stack : List Value)
  | jump (place : Nat) (stack : List Value)
  /-- another code begins, whose result comes on top of the stack -/
  | begin (callee : Frame) (stack : List Value)
  /-- a value is handed out -/
  | yield (v : Value) (stack : List Value)
  deriving Inhabited

def ofClass? (v : Value) (name : Text) : Eval (Option Value) := do
  let w ← get
  let cls := w.classOf v
  match w.lookup? cls name with
  | some a => return some (← bind a v cls)
  | none => return none

/-- what is called is named with its module -/
def calleeText (v : Value) : Eval Text := do
  match ← member? v "__qualname__" with
  | some (.str n) =>
    match ← member? v "__module__" with
    | some (.str m) => return if m = ("builtins" : Text) then n ++ "()" else m ++ '.' :: n ++ "()"
    | _ => return n ++ "()"
  | _ => strOf v

/-! ## Collections -/

/-- so many values from the top, the lowest first, and what is left -/
def takeValues (n : Nat) (stack : List Value) : List Value × List Value :=
  ((stack.take n).reverse, stack.drop n)

/-- keys and values that follow one another -/
def pairUp : List Value → List (Value × Value)
  | k :: v :: rest => (k, v) :: pairUp rest
  | _ => []

/-- elements of a value in so many variables -/
def unpackValues (v : Value) (before after : Nat) (exact : Bool) : Eval (List Value) := do
  let least := before + after
  let quick? : Option (List Value) ← (do
    match v with
    | .tuple vs => return some vs
    | .ref n =>
      match ← object n with
      | { cls, body := .list vs, .. } => return if cls = Base.list.ref then some vs.toList else none
      | _ => return none
    | _ => return none)
  let short (got : Nat) : Eval (List Value) :=
    misvalued ("not enough values to unpack (expected " ++ (if exact then [] else ("at least " : Text)) ++ Text.ofNat least ++ ", got " ++
      Text.ofNat got ++ [')'])
  let long : Eval (List Value) := misvalued ("too many values to unpack (expected " ++ Text.ofNat least ++ [')'])
  let vs ← match quick? with
    | some vs => pure vs
    | none =>
      let it ← catching [.typeError] (iterOf v) fun e => do
        -- a complaint of a script about its elements stays as it is
        match ← method? v "__iter__" with
        | some _ => throw (.raised e)
        | none => mistyped ("cannot unpack non-iterable " ++ (← kindOf v) ++ " object")
      if exact then drain it (least + 1) [] else drain it endless []
  if vs.length < least then short vs.length
  else if exact ∧ least < vs.length then long
  else return vs

/-- a complaint about what is spread as arguments -/
def notSpread {α : Type} (callee v : Value) (sign what : Text) : Eval α := do
  mistyped ((← calleeText callee) ++ " argument after " ++ sign ++ " must be " ++ what ++ ", not " ++ (← kindOf v))

/-- entries of a mapping go into a dictionary -/
def mergeValue (inCall : Bool) (v : Value) (d : Nat) (callee : Value) : Eval Unit := do
  let refuse : Eval (List (Value × Value)) := do
    if inCall then notSpread callee v "**" "a mapping"
    else mistyped ("'" ++ (← kindOf v) ++ "' object is not a mapping")
  let ps ← match v with
    | .ref n =>
      match (← object n).body with
      | .dict t => if (← object n).cls = Base.dict.ref then pure t.toList else entriesOf v
      | _ =>
        match ← member? v "keys" with
        | some _ => entriesOf v
        | none => refuse
    | _ => refuse
  ps.forM fun (k, x) => do
    if inCall then
      match ← lookUp? d k with
      | some _ => mistyped ((← calleeText callee) ++ " got multiple values for keyword argument '" ++ (← strOf k) ++ ['\''])
      | none => pure ()
    putEntry d k x

/-! ## Patterns -/

/-- the value is a row of elements, for a pattern -/
def isSequenceValue (v : Value) : Eval Bool := do
  let w ← get
  match w.inner v with
  | .tuple _ | .range _ _ _ => return true
  | .ref n =>
    match w.body n with
    | .list _ => return true
    | _ => return (w.lookup? (w.classOf v) "__sequence__").isSome
  | _ => return false

/-- the value has keys, for a pattern -/
def isMappingValue (v : Value) : Eval Bool := do
  let w ← get
  match v with
  | .ref n =>
    match w.body n with
    | .dict _ | .proxy _ => return true
    | _ => return (w.lookup? (w.classOf v) "__mapping__").isSome
  | _ => return false

/-- the values of keys; nothing when one is missing -/
def valuesOfKeys (v : Value) : List Value → Eval (Option (List Value))
  | [] => return some []
  | k :: ks => do
    let found? ← match ← method? v "get" with
      | some f =>
        let missing ← make .object .plain
        let x ← call f [k, missing]
        pure (if identical x missing then none else some x)
      | none =>
        match v with
        | .ref n =>
          match (← object n).body with
          | .dict _ => lookUp? n k
          | _ => catching [.keyError] (do return some (← getIndex v k)) fun _ => return none
        | _ => pure none
    match found? with
    | none => return none
    | some x =>
      match ← valuesOfKeys v ks with
      | none => return none
      | some xs => return some (x :: xs)

/-- classes whose values are their own only part -/
def wholeClasses : List Base :=
  [.bool, .bytearray, .bytes, .dict, .float, .frozenset, .int, .list, .set, .str, .tuple]

/-- the parts of an instance of a class, some by place and others by name; nothing when it is no such instance -/
def partsOf (cls v : Value) (count : Nat) (names : List Text) : Eval (Option (List Value)) := do
  let w ← get
  match cls with
  | .ref n =>
    if !w.isClass cls then mistyped "called match pattern must be a class"
    if !(← isInstance v cls) then return none
    let c := w.classAt n
    let member (name : Text) : Eval (Option Value) :=
      catching [.attributeError] (member? v name) fun _ => return none
    let placed? ← (do
      if count = 0 then return some []
      else if (c.native ∨ (w.lookup? n "__match_args__").isNone) ∧ wholeClasses.any fun b => w.isBelow n b.ref then
        if 1 < count then
          mistyped (c.name ++ "() accepts 1 positional sub-pattern (" ++ Text.ofNat count ++ " given)")
        return some [v]
      else
        let args ← match ← attributeOfClass? n "__match_args__" with
          | none => pure []
          | some (.tuple vs) => pure vs
          | some x => mistyped (c.name ++ ".__match_args__ must be a tuple (got " ++ (← kindOf x) ++ [')'])
        if args.length < count then
          mistyped (c.name ++ "() accepts " ++ Text.ofNat args.length ++ " positional sub-pattern" ++
            (if args.length = 1 then [] else ['s']) ++ " (" ++ Text.ofNat count ++ " given)")
        let vs ← (args.take count).mapM fun a => do
          match a with
          | .str t => member t
          | x => mistyped ("__match_args__ elements must be strings (got " ++ (← kindOf x) ++ [')'])
        return vs.mapM fun x => x)
    match placed? with
    | none => return none
    | some placed =>
      let named ← names.mapM member
      match named.mapM fun x => x with
      | none => return none
      | some xs => return some (placed ++ xs)
  | _ => mistyped "called match pattern must be a class"

/-! ## Leaving things in order -/

/-- takes up a value that is to be left in order: what leaves it, and its result -/
def enterValue (v : Value) (waits : Bool) : Eval (Value × Value) := do
  let (first, last, what) : Text × Text × Text :=
    if waits then ("__aenter__", "__aexit__", "asynchronous context manager") else ("__enter__", "__exit__", "context manager")
  match ← ofClass? v first with
  | none => mistyped ("'" ++ (← kindOf v) ++ "' object does not support the " ++ what ++ " protocol")
  | some enter =>
    match ← ofClass? v last with
    | none =>
      mistyped ("'" ++ (← kindOf v) ++ "' object does not support the " ++ what ++ " protocol (missed " ++ last ++ " method)")
    | some leave =>
      let r ← call enter []
      return (leave, r)

/-- what is waited for, step by step -/
def awaitable (v : Value) : Eval Value := do
  let w ← get
  match v with
  | .ref n =>
    match w.body n with
    | .generator _ =>
      if (w.object n).cls = Base.coroutine.ref then return v
      else mistyped ("object " ++ (← kindOf v) ++ " can't be used in 'await' expression")
    | .iter (.step _ _ _) => return v
    | _ =>
      match ← method? v "__await__" with
      | some f =>
        let it ← call f []
        match it with
        | .ref m =>
          match (← object m).body with
          | .generator _ | .iter _ => return it
          | _ =>
            match ← method? it "__next__" with
            | some _ => return it
            | none => mistyped ("__await__() returned non-iterator of type '" ++ (← kindOf it) ++ ['\''])
        | _ => mistyped ("__await__() returned non-iterator of type '" ++ (← kindOf it) ++ ['\''])
      | none => mistyped ("object " ++ (← kindOf v) ++ " can't be used in 'await' expression")
  | _ => mistyped ("object " ++ (← kindOf v) ++ " can't be used in 'await' expression")

/-- what hands out elements on behalf of another one -/
def delegateOf (f : Frame) (v : Value) : Eval Value := do
  match v with
  | .ref n =>
    match (← object n).body with
    | .generator _ =>
      if (← object n).cls = Base.coroutine.ref ∧ f.code.running = .generator then
        mistyped "cannot 'yield from' a coroutine object in a non-coroutine generator"
      else iterOf v
    | _ => iterOf v
  | _ => iterOf v

/-! ## Instructions -/

/-- a function of a script from a code and the values below it -/
def makeFunction (f : Frame) (n usual : Nat) (named : List Text) (closure : Nat) (annotated : Bool) (stack : List Value) :
    Eval (Value × List Value) := do
  let w ← get
  let code := w.codes.getD n { name := [], qualname := [] }
  let (cells, stack) := takeValues closure stack
  let (annotations, stack) := if annotated then takeValues 1 stack else ([], stack)
  let (byName, stack) := takeValues named.length stack
  let (byPlace, stack) := takeValues usual stack
  let module := ((w.table f.globals).get? "__name__").getD .none
  let annotations : Nat := match annotations with
    | [.ref d] => d
    | _ => 0
  let v ← make .function (.function {
    code := n, globals := f.globals, usual := byPlace, named := named.zip byName, closure := cells, name := code.name
    qualname := code.qualname, doc := code.doc, module, annotations })
  return (v, stack)

/-- a value is called: it begins, or it is done at once -/
def callStep (f : Frame) (g : Value) (args : List Value) (named : List (Text × Value))
    (stack : List Value) : Eval Step := do
  let near? ← match g with
    | .native owner name => nearby? owner name f { args, named }
    | _ => pure none
  match near? with
  | some v => return .next (v :: stack)
  | none =>
    match ← callValue maxSteps g args named with
    | .done v => return .next (v :: stack)
    | .begun callee => return .begin callee stack

/-- arguments with names, of a dictionary -/
def namedOf (d : Nat) : Eval (List (Text × Value)) := do
  (← dictionaryAt d).toList.mapM fun (k, v) => do
    match (← get).inner k with
    | .str t => return (t, v)
    | _ => mistyped "keywords must be strings"

def performName (i : Instr) (f : Frame) (stack : List Value) : Eval Step := do
  match i, stack with
  | .deref n, s => return .next ((← cellOf f n) :: s)
  | .setDeref n, v :: s =>
    setCell f n v
    return .next s
  | .eraseDeref n, s =>
    let _ ← cellOf f n
    setCell f n .absent
    return .next s
  | .classDeref n name, s =>
    match ← ownName? f.home name with
    | some v => return .next (v :: s)
    | none => return .next ((← cellOf f n) :: s)
  | .cell n, s => return .next (f.slots.getD n .absent :: s)
  | .global n, s => return .next ((← globalOf f.globals n) :: s)
  | .setGlobal n, v :: s =>
    putName f.globals n v
    return .next s
  | .eraseGlobal n, s =>
    eraseNameOf f.globals n
    return .next s
  | .name n, s => return .next ((← nameOf f n) :: s)
  | .setName n, v :: s =>
    setNameOf f n v
    return .next s
  | .eraseName n, s =>
    eraseNameOf f.home n
    return .next s
  | .annotations, s =>
    match ← ownName? f.home "__annotations__" with
    | some v => return .next (v :: s)
    | none =>
      let d := Value.ref (← newNames [])
      setNameOf f "__annotations__" d
      return .next (d :: s)
  | _, s => return .next s

def performCollection (i : Instr) (f : Frame) (stack : List Value) : Eval Step := do
  match i, stack with
  | .tuple n, s =>
    let (vs, s) := takeValues n s
    return .next (.tuple vs :: s)
  | .list n, s =>
    let (vs, s) := takeValues n s
    return .next ((← newList vs) :: s)
  | .set n, s =>
    let (vs, s) := takeValues n s
    return .next ((← newSet .set vs) :: s)
  | .dict n, s =>
    let (vs, s) := takeValues (2 * n) s
    return .next ((← newDict (pairUp vs)) :: s)
  | .joined n, s =>
    let (vs, s) := takeValues n s
    let parts := vs.map fun v => match v with
      | .str t => t
      | _ => []
    return .next (.str parts.flatten :: s)
  | .shown c false, v :: s =>
    let v ← converted c v
    match v with
    | .str t => return .next (.str t :: s)
    | v => return .next (.str (← formatValue v []) :: s)
  | .shown c true, layout :: v :: s =>
    let layout ← strOf layout
    return .next (.str (← formatValue (← converted c v) layout) :: s)
  | .append n, v :: s =>
    match s.getD n .none with
    | .ref k => modifyList k fun vs => vs.push v
    | _ => pure ()
    return .next s
  | .add n, v :: s =>
    match s.getD n .none with
    | .ref k => crowdAdd k v
    | _ => pure ()
    return .next s
  | .put n, v :: k :: s =>
    match s.getD n .none with
    | .ref d => putEntry d k v
    | _ => pure ()
    return .next s
  | .extend, v :: s =>
    match s with
    | .ref l :: below =>
      let refuse (e : Nat) : Eval (List Value) := do
        match ← method? v "__iter__" with
        | some _ => throw (.raised e)
        | none =>
          let inCall : Bool := match f.code.instrs[f.pc + 2]?, f.code.instrs[f.pc + 1]? with
            | some (.callSpread _), some .asTuple | some (.dict 0), some .asTuple => true
            | _, _ => false
          let isFirst : Bool ← (do
            match (← object l).body with
            | .list xs => return xs.isEmpty
            | _ => return false)
          if inCall && isFirst then notSpread (below.headD .none) v "*" "an iterable"
          else mistyped ("Value after * must be an iterable, not " ++ (← kindOf v))
      let vs ← catching [.typeError] (itemsOf v) refuse
      modifyList l fun xs => xs ++ vs.toArray
      return .next s
    | s => return .next s
  | .absorb, v :: s =>
    match s with
    | .ref k :: _ => (← itemsOf v).forM (crowdAdd k)
    | _ => pure ()
    return .next s
  | .merge inCall, v :: s =>
    match s with
    | .ref d :: below => mergeValue inCall v d (below.getD 1 .none)
    | _ => pure ()
    return .next s
  | .asTuple, v :: s => return .next (.tuple (← itemsOf v) :: s)
  | .unpack n, v :: s => return .next ((← unpackValues v n 0 true) ++ s)
  | .unpackRest before after, v :: s =>
    let vs ← unpackValues v before after false
    let count := vs.length - before - after
    let middle ← newList ((vs.drop before).take count)
    return .next (vs.take before ++ middle :: vs.drop (before + count) ++ s)
  | .isSequence, v :: s => return .next (.truth (← isSequenceValue v) :: v :: s)
  | .isMapping, v :: s => return .next (.truth (← isMappingValue v) :: v :: s)
  | .length, v :: s => return .next (.int (← lengthOf v) :: v :: s)
  | .valuesOf, ks :: v :: s =>
    let keys : List Value := match ks with
      | .tuple ks => ks
      | _ => []
    let r : Value := match ← valuesOfKeys v keys with
      | some vs => .tuple vs
      | none => .none
    return .next (r :: ks :: v :: s)
  | .without, ks :: v :: s =>
    let keys : List Value := match ks with
      | .tuple ks => ks
      | _ => []
    let d ← alloc { cls := Base.dict.ref, body := .dict {} }
    mergeValue false v d .none
    keys.forM fun k => do
      let _ ← eraseEntry d k
    return .next (.ref d :: s)
  | .parts n names, cls :: v :: s =>
    let r : Value := match ← partsOf cls v n names with
      | some vs => .tuple vs
      | none => .none
    return .next (r :: s)
  | _, s => return .next s

/-- instructions about what is waited for and handed out -/
def performFlow (i : Instr) (f : Frame) (stack : List Value) : Eval Step := do
  match i, stack with
  | .iterate, v :: s => return .next ((← iterOf v) :: s)
  | .next place, it :: s =>
    match ← next? it with
    | some v => return .next (v :: it :: s)
    | none => return .jump place s
  | .yield, v :: s =>
    return .yield (if f.code.running = .asyncGenerator then .bound v .asyncGenerator "yield" else v) s
  | .delegatee, v :: s => return .next ((← delegateOf f v) :: s)
  | .delegate, sent :: it :: s =>
    let (more, v) ← advanceScripted it sent
    if more then return .yield v (it :: s) else return .next (v :: s)
  | .awaited, v :: s => return .next ((← awaitable v) :: s)
  | .asyncIterate, v :: s =>
    match ← ofClass? v "__aiter__" with
    | none => mistyped ("'async for' requires an object with __aiter__ method, got " ++ (← kindOf v))
    | some g =>
      let it ← call g []
      match ← ofClass? it "__anext__" with
      | none =>
        mistyped ("'async for' received an object from __aiter__ that does not implement __anext__: " ++ (← kindOf it))
      | some _ => return .next (it :: s)
  | .asyncNext, it :: s =>
    match ← ofClass? it "__anext__" with
    | none => mistyped ("'async for' requires an iterator with __anext__ method, got " ++ (← kindOf it))
    | some g => return .next ((← awaitable (← call g [])) :: it :: s)
  | .asyncEnd place, e :: it :: s =>
    match e with
    | .ref n =>
      let w ← get
      if w.isBelow (w.object n).cls Base.stopAsyncIteration.ref then return .jump place s
      else throw (.raised n)
    | _ => return .next (e :: it :: s)
  | _, s => return .next s

/-- instructions about failures and about what is left in order -/
def performFailure (i : Instr) (stack : List Value) : Eval Step := do
  match i, stack with
  | .raise 1, v :: _ => raiseRef (← asFailure v)
  | .raise 2, cause :: v :: _ =>
    let n ← asFailure v
    let cause ← match cause with
      | .none => pure Value.none
      | c =>
        let w ← get
        let isFit : Bool := match c with
          | .ref k =>
            match w.body k with
            | .failure _ => true
            | .class_ _ => w.isBelow k Base.baseException.ref
            | _ => false
          | _ => false
        if isFit then pure (Value.ref (← asFailure c)) else mistyped "exception causes must derive from BaseException"
    modifyFailure n fun f => { f with cause, suppressed := true }
    raiseRef n
  | .fits, cls :: e :: s =>
    let w ← get
    let isFault (v : Value) : Bool := match v with
      | .ref n => w.isClass v && w.isBelow n Base.baseException.ref
      | _ => false
    let classes : List Value := match w.inner cls with
      | .tuple vs => vs
      | v => [v]
    if !classes.all isFault then
      mistyped "catching classes that do not inherit from BaseException is not allowed"
    let own := w.classOf e
    let fits := classes.any fun c => match c with
      | .ref n => w.isBelow own n
      | _ => false
    return .next (.truth fits :: s)
  | .enter waits, v :: s =>
    let (leave, r) ← enterValue v waits
    return .next (r :: leave :: s)
  | .leave waits, g :: s =>
    let r ← call g [.none, .none, .none]
    return .next (if waits then r :: s else s)
  | .leaveFault, e :: previous :: g :: s =>
    let cls := (← get).classOf e
    let trace ← match e with
      | .ref n => traceValue (← failureAt n).trace
      | _ => pure Value.none
    let r ← call g [.ref cls, e, trace]
    return .next (r :: e :: previous :: g :: s)
  | _, s => return .next s

def perform (i : Instr) (f : Frame) : Eval Step := do
  match i, f.stack with
  | .binary o, b :: a :: s => return .next ((← binaryValue o a b) :: s)
  | .compare c, b :: a :: s => return .next ((← compareValues c a b) :: s)
  | .attribute n, v :: s => return .next ((← member v n) :: s)
  | .call n names, stack =>
    let (args, s) := takeValues n stack
    match s with
    | g :: s =>
      let count := n - names.length
      callStep f g (args.take count) (names.zip (args.drop count)) s
    | [] => return .next []
  | .callSpread true, .ref d :: .tuple args :: g :: s => callStep f g args (← namedOf d) s
  | .callSpread false, .tuple args :: g :: s => callStep f g args [] s
  | .index, i :: v :: s => return .next ((← getIndex v i) :: s)
  | .setIndex, i :: v :: new :: s =>
    setIndex v i new
    return .next s
  | .eraseIndex, i :: v :: s =>
    eraseIndex v i
    return .next s
  | .slice, c :: b :: a :: s => return .next (.slice a b c :: s)
  | .setAttribute n, v :: new :: s =>
    setMember v n new
    return .next s
  | .eraseAttribute n, v :: s =>
    eraseMember v n
    return .next s
  | .unary sign, v :: s => return .next ((← unaryValue sign v) :: s)
  | .update o, b :: a :: s => return .next ((← updateValue o a b) :: s)
  | .jumpIf b place, v :: s => if (← truthOf v) = b then return .jump place s else return .next s
  | .jumpIfKeep b place, v :: s => if (← truthOf v) = b then return .jump place (v :: s) else return .next s
  | .function code usual named closure annotated, s =>
    let (v, s) ← makeFunction f code usual named closure annotated s
    return .next (v :: s)
  | .load module dots whole, s =>
    let (first, last) ← importModule (← nameFrom f.globals dots module)
    return .next ((if whole then last else first) :: s)
  | .loadFrom n, m :: s => return .next ((← importName m n) :: m :: s)
  | .loadAll, m :: s =>
    (← publicNames m).forM fun p => setNameOf f p.1 p.2
    return .next (m :: s)
  | .iterate, s | .next _, s | .yield, s | .delegate, s | .delegatee, s | .awaited, s | .asyncIterate, s | .asyncNext, s
  | .asyncEnd _, s => performFlow i f s
  | .raise _, s | .fits, s | .enter _, s | .leave _, s | .leaveFault, s => performFailure i s
  | .deref _, s | .setDeref _, s | .eraseDeref _, s | .classDeref _ _, s | .cell _, s | .global _, s | .setGlobal _, s
  | .eraseGlobal _, s | .name _, s | .setName _, s | .eraseName _, s | .annotations, s => performName i f s
  | i, s => performCollection i f s

end IncludeAudit.Offside
