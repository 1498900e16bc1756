/-
What a running script works on: objects on a heap, the codes that have been made, and the surroundings of the script.

- `Object`, `Body`: objects, `Frame`: a code that is being carried out.
- `World`: everything that can change, `Eval`: work on it that can be stopped.
-/
import IncludeAudit.Offside.Code
import IncludeAudit.Offside.Table
import IncludeAudit.Regex.Ordered.Reader
import IncludeAudit.Tool.Basic

namespace IncludeAudit.Offside

/-- what happens with the result of a code -/
inductive After
  /-- it goes on top of the stack of the caller -/
  | value
  /-- the caller gets the value that has been set up instead -/
  | instance_ (v : Value)
  /-- nobody in a script is waiting for it -/
  | top
  deriving Inhabited

/-- a code that is being carried out -/
structure Frame where
  code : Code
  pc : Nat := 0
  stack : List Value := []
  slots : Array Value := #[]
  /-- the dictionary of the names of its module -/
  globals : Nat := 0
  /-- the dictionary of its own names, when it has one -/
  names : Nat := 0
  /-- where failures lead, with the stack for then -/
  guards : List (Nat × List Value) := []
  /-- what was being handled when it began -/
  before : Value := .none
  after : After := .value
  deriving Inhabited

/-- what is found in a dictionary one after another -/
inductive View
  | keys
  | values
  | items
  deriving DecidableEq, Repr, Inhabited

/-- values that come one after another -/
inductive Iter
  | done
  | values (vs : List Value)
  | list (ref place : Nat)
  | listBack (ref place : Nat)
  | range (next step : Int) (left : Nat)
  | table (ref place size : Nat) (view : View)
  | tableBack (ref place size : Nat) (view : View)
  | crowd (ref size : Nat) (vs : List Value)
  /-- a function is called until it gives a certain value -/
  | calls (f finish : Value)
  /-- the elements of a value by their numbers -/
  | numbered (v : Value) (place : Nat)
  | numberedBack (v : Value) (place : Nat)
  | map (f : Value) (sources : List Value)
  | filter (f source : Value)
  | zip (strict : Bool) (sources : List Value)
  | count (source : Value) (n : Int)
  /-- a step of a generator whose elements are waited for: it goes on with a value, or with a failure -/
  | step (generator : Nat) (sent : Value) (thrown : Bool)
  deriving Inhabited

/-- where the contents of a file go or come from -/
inductive Stream
  | input
  | output
  | errors
  | disk (p : Place)
  | device (d : Device)
  | memory
  deriving DecidableEq, Repr, Inhabited

/-- an open file; its contents are bytes or characters -/
structure File where
  stream : Stream := .memory
  binary : Bool := false
  name : Value := .none
  mode : Text := []
  reads : Bool := true
  writes : Bool := true
  appends : Bool := false
  closed : Bool := false
  data : Array Char := #[]
  place : Nat := 0
  /-- the contents have been brought in -/
  loaded : Bool := false
  /-- the contents are newer than those of the tree -/
  changed : Bool := false
  encoding : Text := "utf-8"
  errors : Text := "strict"
  newline : Option Text := none
  number : Nat := 3
  deriving Inhabited

structure Class where
  name : Text
  qualname : Text
  bases : List Nat := []
  /-- the class and those that it takes its parts from, in the order in which they are asked -/
  order : List Nat := []
  /-- the class that is always there whose values its instances are -/
  layout : Base := .object
  native : Bool := false
  /-- names that its instances are confined to -/
  slots : Option (List Text) := none
  /-- attributes are looked up, set or erased in its own way -/
  custom : Bool := false
  customSet : Bool := false
  below : List Nat := []
  deriving Inhabited

structure Function where
  code : Nat
  globals : Nat
  usual : List Value := []
  named : List (Text × Value) := []
  closure : List Value := []
  name : Text
  qualname : Text
  doc : Value := .none
  module : Value := .none
  annotations : Nat := 0
  deriving Inhabited

/-- an entry of the way that a failure has taken -/
structure Entry where
  source : Nat
  spot : Spot
  name : Text
  /-- the dictionary of the names of its module, and the names of its variables -/
  globals : Nat := 0
  slots : Array Text := #[]
  deriving Inhabited

structure Failure where
  args : List Value := []
  cause : Value := .none
  context : Value := .none
  suppressed : Bool := false
  /-- the way to the place of the failure, the outermost part first -/
  trace : List Entry := []
  /-- parts with names of their own -/
  parts : List (Text × Value) := []
  deriving Inhabited

/-- a generator, or something else that stops and goes on -/
structure Generator where
  frame : Option Frame := none
  running : Bool := false
  started : Bool := false
  name : Text
  qualname : Text
  deriving Inhabited

/-- a match of a regular expression -/
structure Match where
  pattern : Nat
  subject : Value
  spans : List (Nat × Nat × Nat)
  low : Nat
  high : Nat
  deriving Inhabited

/-- what an object is made of, besides its attributes -/
inductive Body
  | plain
  | list (vs : Array Value)
  | dict (t : Table)
  | set (c : Crowd)
  /-- the value that an instance of a class of a script is -/
  | payload (v : Value)
  | bytes (r : Raw)
  | class_ (c : Class)
  | function (f : Function)
  | cell (v : Value)
  | generator (g : Generator)
  | iter (i : Iter)
  | module (name : Text)
  | property (get set erase doc : Value)
  | staticMethod (v : Value)
  | classMethod (v : Value)
  | failure (f : Failure)
  | file (f : File)
  | super (cls : Nat) (self : Value) (start : Nat)
  | view (v : View) (ref : Nat)
  | pattern (source : Value) (c : Ordered.Compiled)
  | match_ (m : Match)
  | digest (name : Text) (data : Raw)
  | code (n : Nat)
  | trace (es : List Entry)
  | proxy (v : Value)
  deriving Inhabited

/-- an object: its class, the dictionary of its attributes when it has one, and what it is made of -/
structure Object where
  cls : Nat
  attributes : Nat := 0
  body : Body := .plain
  deriving Inhabited

/-- a source that codes come from -/
structure Origin where
  file : Text
  lines : Array Text := #[]
  /-- lines of a source that is not at hand, with their numbers -/
  known : List (Nat × Text) := []
  /-- failures do not show where they come through it, apart from some lines that go by other numbers -/
  hidden : Bool := false
  shown : List (Nat × Nat) := []
  deriving Inhabited

def Origin.line? (o : Origin) (n : Nat) : Option Text :=
  match o.known.find? (·.1 = n) with
  | some (_, t) => some t
  | none => if n = 0 then none else o.lines[n - 1]?

/-- the number that a line of a source goes by, when it is shown -/
def Origin.number? (o : Origin) (n : Nat) : Option Nat :=
  if o.hidden then (o.shown.find? (·.1 = n)).map (·.2) else some n

/-- the surroundings of a script -/
structure Host where
  tree : Tree := {}
  here : Place := []
  umask : Nat := 0o022
  environment : List (Raw × Raw) := []
  input : Raw := []
  usedInput : Bool := false
  /-- outcomes of commands that have not been asked for again -/
  told : List Tool.Told := []
  /-- what has been printed, the latest first -/
  said : List (Bool × Raw) := []
  /-- what waits to be printed, the latest first, with its size -/
  held : List Raw := []
  heldSize : Nat := 0
  /-- what waits behind that -/
  buffer : List Raw := []
  bufferSize : Nat := 0
  direct : Bool := false
  /-- files with contents that are newer than those of the tree -/
  changed : List Nat := []
  nextNumber : Nat := 3
  /-- milliseconds that have been waited -/
  slept : Nat := 0
  outputPlace : Option Place := none
  deriving Inhabited

/-- everything that can change -/
structure World where
  heap : Array Object
  codes : Array Code := #[]
  origins : Array Origin := #[]
  /-- the failure that is being handled -/
  handling : Value := .none
  depth : Nat := 0
  limit : Nat := 1000
  /-- the dictionary of the modules that have been loaded -/
  modules : Nat := 0
  builtins : Nat := 0
  /-- calls at the end, the latest first -/
  atEnd : List (Value × List Value × List (Text × Value)) := []
  host : Host := {}
  deriving Inhabited

/-- why work on the world stops -/
inductive Stop
  | raised (n : Nat)
  | exits (status : Nat)
  | killed (signal : Nat)
  | asks (k : Tool.Ask)
  | exhausted
  deriving Inhabited

/-- work on the world that needs nobody else -/
abbrev Plain := EStateM Stop World

/-- what work on the world can have others do, who get to know which codes wait for them -/
structure Caller where
  /-- the codes that wait, the latest first; those of one run stand together -/
  waiting : List (List Frame) := []
  /-- calls a value -/
  call : List (List Frame) → Value → List Value → List (Text × Value) → Plain Value
  /-- carries out a code with the dictionaries of its names -/
  carry : List (List Frame) → (code : Nat) → (globals names : Nat) → (closure : List Value) → Plain Value
  /-- goes on with a generator: with a value, or with a failure in its place; nothing when it has come to its end -/
  resume : List (List Frame) → (generator : Nat) → (sent : Value) → (thrown : Bool) → Plain (Bool × Value)

/-- work on the world -/
abbrev Eval := ReaderT Caller Plain

namespace World

def object (w : World) (n : Nat) : Object :=
  w.heap.getD n { cls := 0 }

/-- changes an object on the heap -/
def modify (w : World) (n : Nat) (f : Object → Object) : World :=
  match w with
  | { heap, codes, origins, handling, depth, limit, modules, builtins, atEnd, host } =>
    { heap := heap.modify n f, codes, origins, handling, depth, limit, modules, builtins, atEnd, host }

def add (w : World) (o : Object) : Nat × World :=
  match w with
  | { heap, codes, origins, handling, depth, limit, modules, builtins, atEnd, host } =>
    (heap.size, { heap := heap.push o, codes, origins, handling, depth, limit, modules, builtins, atEnd, host })

/-- what an object is made of -/
def body (w : World) (n : Nat) : Body :=
  (w.object n).body

def classAt (w : World) (n : Nat) : Class :=
  match w.body n with
  | .class_ c => c
  | _ => { name := "?", qualname := "?" }

def table (w : World) (n : Nat) : Table :=
  match w.body n with
  | .dict t => t
  | _ => {}

def classOf (w : World) : Value → Nat
  | .absent | .none => Base.noneType.ref
  | .ellipsis => Base.ellipsis.ref
  | .notImplemented => Base.notImplementedType.ref
  | .truth _ => Base.bool.ref
  | .int _ => Base.int.ref
  | .float _ => Base.float.ref
  | .complex _ _ => Base.complex.ref
  | .str _ => Base.str.ref
  | .bytes _ => Base.bytes.ref
  | .tuple _ => Base.tuple.ref
  | .range _ _ _ => Base.range.ref
  | .slice _ _ _ => Base.slice.ref
  | .ref n => (w.object n).cls
  | .native _ _ | .bound _ _ _ => Base.native.ref
  | .unbound _ _ => Base.unbound.ref
  | .method _ _ => Base.method.ref

/-- a name in the dictionary of an object -/
def own? (w : World) (n : Nat) (name : Text) : Option Value :=
  let d := (w.object n).attributes
  if d = 0 then none else (w.table d).get? name

/-- a name of a class, or of those that it takes its parts from -/
def lookup? (w : World) (cls : Nat) (name : Text) : Option Value :=
  (w.classAt cls).order.findSome? fun c => w.own? c name

/-- the same, behind a class in the order of another one -/
def lookupBehind? (w : World) (cls start : Nat) (name : Text) : Option Value :=
  (((w.classAt start).order.dropWhile (· ≠ cls)).drop 1).findSome? fun c => w.own? c name

/-- a class takes its parts from another one -/
def isBelow (w : World) (cls other : Nat) : Bool :=
  cls = other || other ∈ (w.classAt cls).order

/-- the name of the class of a value, with the module in front of it for some classes -/
def kindOf (w : World) (v : Value) : Text :=
  let n := w.classOf v
  let c := w.classAt n
  if c.native then
    match Base.modules.find? fun p => p.1.ref = n && n < Base.mappingProxy.ref with
    | some (_, m) => m.toList ++ '.' :: c.name
    | none => c.name
  else
    match w.own? n "__kind__" with
    | some (.str t) => t
    | _ => c.name

/-- the class that is always there whose values those of a class are -/
def layoutOf (w : World) (v : Value) : Base :=
  (w.classAt (w.classOf v)).layout

def isClass (w : World) : Value → Bool
  | .ref n =>
    match w.body n with
    | .class_ _ => true
    | _ => false
  | _ => false

/-- the value itself, of an instance of a class of a script as well -/
def inner (w : World) : Value → Value
  | .ref n =>
    match w.body n with
    | .payload v => v
    | _ => .ref n
  | v => v

end World

def object (n : Nat) : Eval Object := do
  return (← get).object n

/-- changes the object at a place -/
def modifyObject (n : Nat) (f : Object → Object) : Eval Unit :=
  modify fun w => w.modify n f

/-- another body for the object at a place -/
def setBody (n : Nat) (b : Body) : Eval Unit :=
  modifyObject n fun o => { o with body := b }

def alloc (o : Object) : Eval Nat :=
  modifyGet fun w => w.add o

/-- an object of a class that is always there -/
def make (b : Base) (body : Body) : Eval Value := do
  return .ref (← alloc { cls := b.ref, body })

def newList (vs : List Value) : Eval Value :=
  make .list (.list vs.toArray)

/-- a dictionary with names as keys -/
def newNames (ps : List (Text × Value)) : Eval Nat :=
  alloc { cls := Base.dict.ref, body := .dict (Table.ofList ps) }

def newIter (b : Base) (i : Iter) : Eval Value :=
  make b (.iter i)

def newFailure (cls : Nat) (args : List Value) (parts : List (Text × Value)) : Eval Nat :=
  alloc { cls, body := .failure { args, parts } }

/-- the failure that a failure has come in the middle of -/
def contextOf (w : World) (n : Nat) : Value :=
  match w.body n with
  | .failure f => f.context
  | _ => .none

def setContext (w : World) (n : Nat) (context : Value) : World :=
  w.modify n fun o =>
    match o with
    | { cls, attributes, body := .failure f } => { cls, attributes, body := .failure { f with context } }
    | o => o

/-- the way from failure to failure does not come to a certain one any more -/
def cutContext (n : Nat) : (fuel : Nat) → (start : Nat) → World → World
  | 0, _, w => w
  | fuel + 1, start, w =>
    match contextOf w start with
    | .ref next => if next = n then setContext w start .none else cutContext n fuel next w
    | _ => w

/-- stops with a failure, in the middle of another one that is being handled -/
def raiseRef {α : Type} (n : Nat) : Eval α := do
  modify fun w =>
    match w.handling with
    | .ref m => if m = n then w else setContext (cutContext n 10000 m w) n (.ref m)
    | _ => w
  throw (.raised n)

/-- stops with a failure of a class that is always there -/
def raiseWith {α : Type} (b : Base) (args : List Value) (parts : List (Text × Value)) : Eval α := do
  raiseRef (← newFailure b.ref args parts)

/-- stops with a failure and what it says -/
def raise {α : Type} (b : Base) (message : Text) : Eval α :=
  raiseWith b [.str message] []

/-- stops since a value is of the wrong kind -/
def mistyped {α : Type} (message : Text) : Eval α :=
  raise .typeError message

/-- stops since a value is wrong -/
def misvalued {α : Type} (message : Text) : Eval α :=
  raise .valueError message

def call (f : Value) (args : List Value) : Eval Value :=
  fun c => c.call c.waiting f args []

def callNamed (f : Value) (args : List Value) (named : List (Text × Value)) : Eval Value :=
  fun c => c.call c.waiting f args named

def carry (code globals names : Nat) (closure : List Value) : Eval Value :=
  fun c => c.carry c.waiting code globals names closure

/-- the name of the class of a value -/
def kindOf (v : Value) : Eval Text := do
  return (← get).kindOf v

/-- goes on after a failure of certain classes -/
def catching {α : Type} (bs : List Base) (m : Eval α) (handler : Nat → Eval α) : Eval α := do
  let handling := (← get).handling
  tryCatch m fun s => do
    match s with
    | .raised n =>
      let w ← get
      if bs.any fun b => w.isBelow (w.object n).cls b.ref then
        modify fun w => { w with handling }
        handler n
      else throw s
    | s => throw s

end IncludeAudit.Offside
