/-
Classes: the order in which their parts are asked, how they are made, and which values and classes belong to them.

- `makeClass`: a class of a name, bases and names, `isInstance`, `isSubclass`: what belongs to a class.
-/
import IncludeAudit.Offside.Method.Failures

namespace IncludeAudit.Offside

/-! ## Order -/

/-- the first class of a row that stands behind the first place in no row -/
def nextInOrder (rows : List (List Nat)) : Option Nat :=
  rows.findSome? fun r =>
    match r with
    | c :: _ => if rows.any fun s => c ∈ s.drop 1 then none else some c
    | [] => none

/-- rows of classes made into one that keeps the order of each; nothing when there is none -/
def mergeOrders : (fuel : Nat) → List (List Nat) → Option (List Nat)
  | 0, _ => none
  | fuel + 1, rows =>
    let rows := rows.filter fun r => !r.isEmpty
    if rows.isEmpty then some []
    else
      match nextInOrder rows with
      | none => none
      | some c => (mergeOrders fuel (rows.map fun r => if r.head? = some c then r.drop 1 else r)).map (c :: ·)

def orderOf (w : World) (self : Nat) (bases : List Nat) : Option (List Nat) :=
  let rows := bases.map fun b => (w.classAt b).order
  let size := rows.foldl (fun n r => n + r.length) 0 + bases.length + 1
  (mergeOrders size (rows ++ [bases])).map (self :: ·)

/-! ## Belonging -/

/-- the classes that a value lists: a class, or classes in rows -/
def classesOf (message : Text) : (fuel : Nat) → Value → Eval (List Value)
  | 0, _ => return []
  | fuel + 1, v => do
    match v with
    | .tuple vs => return (← vs.mapM (classesOf message fuel)).flatten
    | v =>
      let w ← get
      if w.isClass v ∨ hasMethod w v "__instancecheck__" then return [v]
      else if v.isNone then return [.base .noneType]
      else
        match ← member? v "__bases__" with
        | some _ => return [v]
        | none => return [.none]

/-- a class takes its parts from another one, or is registered with it -/
def belowClass : (fuel : Nat) → (cls other : Nat) → Eval Bool
  | 0, _, _ => return false
  | fuel + 1, cls, other => do
    let w ← get
    if w.isBelow cls other then return true
    else
      match w.own? other "__registered__" with
      | some (.ref l) =>
        match w.body l with
        | .list vs =>
          let rec any : List Value → Eval Bool
            | [] => return false
            | .ref c :: rest => do if ← belowClass fuel cls c then return true else any rest
            | _ :: rest => any rest
          any vs.toList
        | _ => return false
      | _ => return false

/-- a value belongs to a class -/
def isInstanceOf (v cls : Value) : Eval Bool := do
  match cls with
  | .ref n =>
    let w ← get
    let own := w.classOf v
    if own = n then return true
    else
      match (if (w.object n).cls = Base.type.ref then none else w.lookup? (w.object n).cls "__instancecheck__") with
      | some (.unbound _ _) | none =>
        if ← belowClass 8 own n then return true
        else
          -- a value may say that it belongs to another class
          match v with
          | .ref _ =>
            match w.lookup? own "__class__" with
            | some _ =>
              match ← member? v "__class__" with
              | some (.ref c) => belowClass 8 c n
              | _ => return false
            | none => return false
          | _ => return false
      | some f => truthOf (← call f [cls, v])
  | _ => return false

def anyHolds (p : Value → Eval Bool) : List Value → Eval Bool
  | [] => return false
  | v :: vs => do if ← p v then return true else anyHolds p vs

def isInstance (v classes : Value) : Eval Bool := do
  let message : Text := "isinstance() arg 2 must be a type, a tuple of types, or a union"
  let cs ← classesOf message 100 classes
  anyHolds (fun c => do
    if c.isNone then mistyped message
    isInstanceOf v c) cs

def isSubclass (v classes : Value) : Eval Bool := do
  let w ← get
  match v with
  | .ref n =>
    if !w.isClass v then mistyped "issubclass() arg 1 must be a class"
    let message : Text := "issubclass() arg 2 must be a class, a tuple of classes, or a union"
    let cs ← classesOf message 100 classes
    anyHolds (fun c => do
      match c with
      | .ref m =>
        let w ← get
        match (if (w.object m).cls = Base.type.ref then none else w.lookup? (w.object m).cls "__subclasscheck__") with
        | some (.unbound _ _) | none => belowClass 8 n m
        | some f => truthOf (← call f [c, v])
      | _ => mistyped message) cs
  | _ => mistyped "issubclass() arg 1 must be a class"

/-! ## Making classes -/

/-- the class of a class with bases: the most special one of those of the bases -/
def winner (meta_ : Nat) (bases : List Nat) : Eval Nat := do
  let w ← get
  let rec go (best : Nat) : List Nat → Eval Nat
    | [] => return best
    | b :: rest => do
      let m := (w.object b).cls
      if w.isBelow best m then go best rest
      else if w.isBelow m best then go m rest
      else
        mistyped ("metaclass conflict: the metaclass of a derived class must be a (non-strict) subclass of the " ++
          "metaclasses of all its bases")
  go meta_ bases

/-- the classes that are always there and can be extended -/
def isExtensible (b : Base) : Bool :=
  b ∉ ([.bool, .noneType, .ellipsis, .notImplementedType, .range, .slice, .function, .native, .method, .unbound,
    .generator, .coroutine, .asyncGenerator, .cell, .code, .dictKeys, .dictValues, .dictItems, .mappingProxy,
    .memoryview, .traceback, .frame, .pattern, .match_] : List Base)

/-- the values of a class are kept in the way of the first base that has a way of its own -/
def layoutFor (bases : List Nat) : Eval Base := do
  let w ← get
  let ways := (bases.map fun b => (w.classAt b).layout).filter (· ≠ Base.object)
  match ways with
  | [] => return .object
  | b :: rest =>
    -- the most special one, when all the others are below it
    let rank (x : Base) : List Nat := (w.classAt x.ref).order
    let best := rest.foldl (fun best x => if best.ref ∈ rank x then x else best) b
    if ways.any fun x => x ≠ best ∧ x.ref ∉ rank best then mistyped "multiple bases have instance lay-out conflict"
    return best

def classNames (names : Table) : Eval (List (Text × Value)) := do
  let named : List (Text × Value) := names.toList.filterMap fun p =>
    match p.1 with
    | .str t => some (t, p.2)
    | _ => none
  let w ← get
  let isFunction (v : Value) : Bool :=
    match v with
    | .ref n =>
      match w.body n with
      | .function _ => true
      | _ => false
    | _ => false
  named.mapM fun (n, v) => do
    if isFunction v then
      match String.ofList n with
      | "__new__" => return (n, ← make .staticmethod (.staticMethod v))
      | "__init_subclass__" | "__class_getitem__" => return (n, ← make .classmethod (.classMethod v))
      | _ => return (n, v)
    else return (n, v)

/-- the names that instances of a class are confined to -/
def slotsOf (v? : Option Value) : Eval (Option (List Text)) := do
  match v? with
  | none => return none
  | some v =>
    match v with
    | .str t => return some [t]
    | v =>
      let vs ← itemsOf v
      let names := vs.filterMap fun x =>
        match x with
        | .str t => some t
        | _ => none
      if ("__dict__" : Text) ∈ names then return none else return some names

/-- a class of a name, bases and names; `named` goes to the bases -/
def makeClass (meta_ : Nat) (name : Text) (bases : List Nat) (names : Table) (named : List (Text × Value)) : Eval Value := do
  let bases := if bases.isEmpty then [Base.object.ref] else bases
  let w ← get
  match bases.find? fun b => (w.classAt b).native && !isExtensible (((Base.table.find? fun r => r.1.ref = b).map (·.1)).getD .object) with
  | some b => mistyped ("type '" ++ (w.classAt b).name ++ "' is not an acceptable base type")
  | none => pure ()
  match bases.find? fun b => 1 < bases.count b with
  | some b => mistyped ("duplicate base class " ++ (w.classAt b).name)
  | none => pure ()
  let layout ← layoutFor bases
  let own ← classNames names
  let get? (n : Text) : Option Value := (own.find? (·.1 = n)).map (·.2)
  let qualname := match get? "__qualname__" with
    | some (.str t) => t
    | _ => name
  let slots ← slotsOf (get? "__slots__")
  let kept := own.filter fun p => p.1 ≠ ("__qualname__" : Text) && p.1 ≠ ("__classcell__" : Text)
  let kept : List (Text × Value) :=
    if (get? "__eq__").isSome ∧ (get? "__hash__").isNone then kept ++ [(("__hash__" : Text), Value.none)] else kept
  let kept : List (Text × Value) :=
    if (get? "__module__").isNone then (("__module__" : Text), Value.str "__main__") :: kept else kept
  let kept : List (Text × Value) := if (get? "__doc__").isNone then kept ++ [(("__doc__" : Text), Value.none)] else kept
  let attributes ← newNames kept
  let n ← alloc
    { cls := meta_, attributes
      body := .class_ { name, qualname, bases, layout, slots } }
  match orderOf (← get) n bases with
  | some order =>
    setBody n (.class_ { name, qualname, bases, order, layout, slots })
  | none =>
    mistyped ("Cannot create a consistent method resolution\norder (MRO) for bases " ++
      listed (bases.map fun b => (w.classAt b).name))
  refreshClass n
  bases.forM fun b => modifyObject b fun o =>
    match o with
    | { cls, attributes, body := .class_ c } => { cls, attributes, body := .class_ { c with below := c.below ++ [n] } }
    | o => o
  match get? "__classcell__" with
  | some (.ref c) => setBody c (.cell (.ref n))
  | _ => pure ()
  kept.forM fun (k, v) => do
    match ← method? v "__set_name__" with
    | some f =>
      let _ ← call f [.ref n, .str k]
    | none => pure ()
  match (← get).lookupBehind? n n "__init_subclass__" with
  | some f =>
    match f with
    | .ref k =>
      match (← object k).body with
      | .classMethod (.native _ _) =>
        if !named.isEmpty then mistyped (name ++ ".__init_subclass__() takes no keyword arguments")
      | _ =>
        let f ← bind f .absent n
        let _ ← callNamed f [] named
    | _ => pure ()
  | none => pure ()
  return .ref n

def newClass (meta_ : Nat) (g : Given) : Eval Value := do
  if g.count ≠ 3 then mistyped "type() takes 1 or 3 arguments"
  let w ← get
  match w.inner (g.at_ 0), w.inner (g.at_ 1), g.at_ 2 with
  | .str name, .tuple bases, .ref d =>
    let refs ← bases.mapM fun b => do
      match b with
      | .ref n =>
        if w.isClass b then return n
        else mistyped ("metaclass conflict: the metaclass of a derived class must be a (non-strict) subclass of the " ++
          "metaclasses of all its bases")
      | _ =>
        mistyped ("metaclass conflict: the metaclass of a derived class must be a (non-strict) subclass of the " ++
          "metaclasses of all its bases")
    match w.body d with
    | .dict t => makeClass (← winner meta_ refs) name refs t g.named
    | _ => mistyped ("type.__new__() argument 3 must be dict, not " ++ (← kindOf (.ref d)))
  | .str _, .tuple _, v => mistyped ("type.__new__() argument 3 must be dict, not " ++ (← kindOf v))
  | .str _, v, _ => mistyped ("type.__new__() argument 2 must be tuple, not " ++ (← kindOf v))
  | v, _, _ => mistyped ("type.__new__() argument 1 must be str, not " ++ (← kindOf v))

/-- a class statement: the code of its body, its name, its bases and what else is said about it -/
def buildClass (g : Given) : Eval Value := do
  match g.args with
  | function :: .str name :: given =>
    -- bases that stand for others
    let parts ← given.mapM fun b => do
      if (← get).isClass b then return [b]
      else
        match ← member? b "__mro_entries__" with
        | some f => itemsOf (← call f [.tuple given])
        | none => return [b]
    let bases := parts.flatten
    let named := g.named.filter (·.1 ≠ ("metaclass" : Text))
    let w ← get
    let refs := bases.filterMap fun b => match b with
      | .ref n => some n
      | _ => none
    let usual : Value := match bases.head? with
      | some b => .ref (w.classOf b)
      | none => .base .type
    let meta_ ← match g.named? "metaclass" with
      | some (.ref m) =>
        if w.isClass (.ref m) then pure (.ref (← winner m (refs.filter fun n => w.isClass (.ref n)))) else pure (.ref m)
      | some m => pure m
      | none =>
        match usual with
        | .ref m =>
          if bases.all w.isClass then pure (.ref (← winner m refs)) else pure usual
        | m => pure m
    let names ← match ← member? meta_ "__prepare__" with
      | some (.method _ (.native _ _)) | none => newDict []
      | some f => callNamed f [.str name, .tuple bases] named
    match function, names with
    | .ref k, .ref d =>
      match (← object k).body with
      | .function f =>
        let _ ← carry f.code f.globals d f.closure
        if given.length ≠ bases.length ∨ !(given.zip bases).all fun p => identical p.1 p.2 then
          match (← object d).body with
          | .dict _ => putEntry d (.str "__orig_bases__") (.tuple given)
          | _ => pure ()
        callNamed meta_ [.str name, .tuple bases, names] named
      | _ => mistyped "__build_class__: func must be a function"
    | _, _ => mistyped "__build_class__: func must be a function"
  | _ => mistyped "__build_class__: not enough arguments"

end IncludeAudit.Offside
