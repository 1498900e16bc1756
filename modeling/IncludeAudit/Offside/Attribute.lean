/-
Attributes of values: where they are found, how they are bound to the value that they are asked of, and how they are
set and erased.

- `member`, `setMember`, `eraseMember`: attributes by name, `method?`: what a script has defined for a class.
-/
import IncludeAudit.Offside.Catalog
import IncludeAudit.Offside.Strings

namespace IncludeAudit.Offside

def dictionaryAt (n : Nat) : Eval Table := do
  return (← get).table n

def putName (n : Nat) (name : Text) (v : Value) : Eval Unit :=
  modifyObject n fun o =>
    match o with
    | { cls, attributes, body := .dict t } => { cls, attributes, body := .dict (t.put name v) }
    | o => o

/-- takes a name out of a dictionary -/
def eraseNameIn (n : Nat) (name : Text) : Eval Unit :=
  modifyObject n fun o =>
    match o with
    | { cls, attributes, body := .dict t } => { cls, attributes, body := .dict (t.erase name) }
    | o => o

/-- the dictionary of the attributes of an object, which is made if there is none -/
def attributesOf (n : Nat) : Eval Nat := do
  let d := (← object n).attributes
  if d ≠ 0 then return d
  else
    let d ← newNames []
    modifyObject n fun o => { o with attributes := d }
    return d

def failureAt (n : Nat) : Eval Failure := do
  match (← object n).body with
  | .failure f => return f
  | _ => return {}

def modifyFailure (n : Nat) (f : Failure → Failure) : Eval Unit :=
  modifyObject n fun o =>
    match o with
    | { cls, attributes, body := .failure x } => { cls, attributes, body := .failure (f x) }
    | o => o

def plainObject (b : Base) (names : List (Text × Value)) : Eval Value := do
  let attributes ← newNames names
  return .ref (← alloc { cls := b.ref, attributes })

def codeValue (n : Nat) : Eval Value := do
  let w ← get
  let c := w.codes.getD n { name := [], qualname := [] }
  let count := c.plain + c.named + (if c.hasRest then 1 else 0) + (if c.hasRestNamed then 1 else 0)
  let locals := (c.slots.toList.take c.outer).drop count
  let running : Int := match c.running with
    | .plain => 3
    | .generator => 0x23
    | .coroutine => 0x83
    | .asyncGenerator => 0x203
  let attributes : List (Text × Value) :=
    [("co_name", .str c.name), ("co_qualname", .str c.qualname), ("co_argcount", .int c.plain),
     ("co_posonlyargcount", .int c.placed), ("co_kwonlyargcount", .int c.named), ("co_firstlineno", .int c.line),
     ("co_nlocals", .int c.outer), ("co_flags", .int ((if c.hasRest then 4 else 0) + (if c.hasRestNamed then 8 else 0) + running)),
     ("co_varnames", .tuple ((c.slots.toList.take count ++ locals).map .str)),
     ("co_freevars", .tuple ((c.slots.toList.drop c.outer).map .str)),
     ("co_filename", .str ((w.origins[c.source]?.map (·.file)).getD []))]
  let attributes ← newNames attributes
  return .ref (← alloc { cls := Base.code.ref, attributes, body := .code n })

/-- the way of a failure as a value -/
def traceValue (es : List Entry) : Eval Value := do
  if es.isEmpty then return .none else make .traceback (.trace es)

/-- a part of the way of a failure -/
def traceAttribute? (es : List Entry) (name : String) : Eval (Option Value) := do
  match es with
  | [] => return none
  | e :: rest =>
    match name with
    | "tb_lineno" => return some (.int e.spot.line)
    | "tb_next" => return some (← traceValue rest)
    | "tb_frame" =>
      let w ← get
      let file := ((w.origins[e.source]?).map (·.file)).getD []
      let code ← plainObject .code [("co_name", .str e.name), ("co_filename", .str file), ("co_firstlineno", .int 1)]
      let names ← newNames [("__name__", .str "__main__"), ("__file__", .str file)]
      return some (← plainObject .frame
        [("f_lineno", .int e.spot.line), ("f_code", code), ("f_globals", .ref names), ("f_back", .none)])
    | _ => return none

def simpleAttribute? (v : Value) (name : String) : Option Value :=
  let truth (b : Bool) : Int := if b then 1 else 0
  match v with
  | .int n =>
    match name with
    | "real" | "numerator" => some (.int n)
    | "imag" => some (.int 0)
    | "denominator" => some (.int 1)
    | _ => none
  | .truth b =>
    match name with
    | "real" | "numerator" => some (.int (truth b))
    | "imag" => some (.int 0)
    | "denominator" => some (.int 1)
    | _ => none
  | .float x =>
    match name with
    | "real" => some (.float x)
    | "imag" => some (.float 0)
    | _ => none
  | .complex a b =>
    match name with
    | "real" => some (.float a)
    | "imag" => some (.float b)
    | _ => none
  | .slice a b c =>
    match name with
    | "start" => some a
    | "stop" => some b
    | "step" => some c
    | _ => none
  | .range a b c =>
    match name with
    | "start" => some (.int a)
    | "stop" => some (.int b)
    | "step" => some (.int c)
    | _ => none
  | .native o n =>
    match name with
    | "__name__" => some (.str n.toList)
    | "__qualname__" => some (.str n.toList)
    | "__module__" => some (.str o.toList)
    | "__doc__" => some .none
    | _ => none
  | .bound self b n =>
    match name with
    | "__name__" => some (.str n.toList)
    | "__qualname__" => some (.str (Catalog.nameOf b ++ '.' :: n.toList))
    | "__self__" => some self
    | "__doc__" => some .none
    | _ => none
  | .unbound b n =>
    match name with
    | "__name__" => some (.str n.toList)
    | "__qualname__" => some (.str (Catalog.nameOf b ++ '.' :: n.toList))
    | "__objclass__" => some (.base b)
    | "__doc__" => some .none
    | _ => none
  | .method self f =>
    match name with
    | "__self__" => some self
    | "__func__" => some f
    | _ => none
  | _ => none

def functionAttribute? (n : Nat) (f : Function) (name : String) : Eval (Option Value) := do
  match name with
  | "__name__" => return some (.str f.name)
  | "__qualname__" => return some (.str f.qualname)
  | "__doc__" => return some f.doc
  | "__module__" => return some f.module
  | "__defaults__" => return some (if f.usual.isEmpty then .none else .tuple f.usual)
  | "__kwdefaults__" =>
    if f.named.isEmpty then return some .none else return some (.ref (← newNames f.named))
  | "__code__" => return some (← codeValue f.code)
  | "__globals__" => return some (.ref f.globals)
  | "__closure__" => return some (if f.closure.isEmpty then .none else .tuple f.closure)
  | "__annotations__" =>
    if f.annotations ≠ 0 then return some (.ref f.annotations)
    else
      let d ← newNames []
      setBody n (.function { f with annotations := d })
      return some (.ref d)
  | "__type_params__" => return some (.tuple [])
  | _ => return none

def failureAttribute? (f : Failure) (name : String) : Eval (Option Value) := do
  match name with
  | "args" => return some (.tuple f.args)
  | "__cause__" => return some f.cause
  | "__context__" => return some f.context
  | "__suppress_context__" => return some (.truth f.suppressed)
  | "__traceback__" => return some (← traceValue f.trace)
  | name => return (f.parts.find? (·.1 = name.toList)).map (·.2)

def fileAttribute? (n : Nat) (f : File) (name : String) : Eval (Option Value) := do
  match name with
  | "name" => if f.stream = .memory then return none else return some f.name
  | "mode" => if f.stream = .memory then return none else return some (.str f.mode)
  | "closed" => return some (.truth f.closed)
  | "encoding" => if f.binary then return none else return some (if f.stream = .memory then .none else .str f.encoding)
  | "errors" => if f.binary then return none else return some (if f.stream = .memory then .none else .str f.errors)
  | "newlines" => if f.binary then return none else return some .none
  | "line_buffering" => if f.binary then return none else return some (.truth (f.stream = .errors))
  | "raw" => return some (.ref n)
  | "buffer" =>
    if f.binary ∨ f.stream = .memory then return none
    else
      let b : Base := if f.reads then .byteReader else .byteWriter
      return some (← make b (.file { f with binary := true, mode := f.mode ++ ['b'], data := #[], loaded := false }))
  | _ => return none

def matchAttribute? (m : Match) (c : Ordered.Compiled) (name : String) : Option Value :=
  match name with
  | "string" => some m.subject
  | "re" => some (.ref m.pattern)
  | "pos" => some (.int m.low)
  | "endpos" => some (.int m.high)
  | "lastindex" => some ((m.spans.head?.map fun s => Value.int s.1).getD .none)
  | "lastgroup" =>
    some (((m.spans.head?.bind fun s => c.names.find? (·.2 = s.1)).map fun p => Value.str p.1).getD .none)
  | _ => none

def flagBits (wide : Bool) (f : Ordered.Flags) : Nat :=
  (if f.fold then 2 else 0) + (if f.lines then 8 else 0) + (if f.dotAll then 16 else 0) + (if f.spaced then 64 else 0) +
    (if f.narrow ∧ wide then 256 else 0) + (if wide ∧ !f.narrow then 32 else 0)

def classAttribute? (n : Nat) (c : Class) (name : String) : Eval (Option Value) := do
  match name with
  | "__name__" => return some (.str c.name)
  | "__qualname__" => return some (.str c.qualname)
  | "__mro__" => return some (.tuple (c.order.map .ref))
  | "__bases__" => return some (.tuple (c.bases.map .ref))
  | "__base__" => return some ((c.bases.head?.map Value.ref).getD .none)
  | "__dict__" => return some (← make .mappingProxy (.proxy (.ref (← object n).attributes)))
  | "__annotations__" =>
    match (← get).own? n "__annotations__" with
    | some v => return some v
    | none =>
      if c.native then return none
      else
        let d ← newNames []
        putName (← object n).attributes "__annotations__" (.ref d)
        return some (.ref d)
  | "__doc__" => return some (((← get).own? n "__doc__").getD .none)
  | "__type_params__" => return some (.tuple [])
  | _ => return none

/-- the classes of a value that the library does not bring -/
def World.ownLine (w : World) (cls : Nat) : List Nat := (w.classAt cls).order.filter fun c => !(w.classAt c).native

/-- the values of a class have no names but those of its slots -/
def slotsOnly (w : World) (cls : Nat) : Bool :=
  let line := w.ownLine cls
  !line.isEmpty && line.all fun c => (w.classAt c).slots.isSome

def slotsRefuse (w : World) (cls : Nat) (name : Text) : Bool :=
  slotsOnly w cls && !((w.ownLine cls).any fun c => ((w.classAt c).slots.getD []).contains name)

/-- attributes that do not stand in a dictionary -/
def special? (v : Value) (name : Text) : Eval (Option Value) := do
  if name = ("__class__" : Text) then return some (.ref ((← get).classOf v))
  else
    match v with
    | .ref n =>
      let o ← object n
      match o.body with
      | .plain =>
        if name = ("__dict__" : Text) ∧ o.attributes ≠ 0 ∧ !slotsOnly (← get) o.cls then return some (.ref o.attributes)
        else return none
      | b =>
        let s := String.ofList name
        if s = "__dict__" then
          match b with
          | .function _ | .failure _ => return some (.ref (← attributesOf n))
          | .module _ => return some (.ref o.attributes)
          | .class_ c => classAttribute? n c s
          | _ =>
            let w ← get
            if slotsOnly w o.cls then return none
            else if o.attributes ≠ 0 then return some (.ref o.attributes)
            else if (w.classAt o.cls).native then return none
            else return some (.ref (← attributesOf n))
        else
          match b with
          | .function f => functionAttribute? n f s
          | .failure f => failureAttribute? f s
          | .file f => fileAttribute? n f s
          | .class_ c => classAttribute? n c s
          | .trace es => traceAttribute? es s
          | .payload v =>
            return simpleAttribute? v s
          | .generator g =>
            match s with
            | "__name__" => return some (.str g.name)
            | "__qualname__" => return some (.str g.qualname)
            | "gi_running" | "cr_running" => return some (.truth g.running)
            | "gi_frame" | "cr_frame" => return some (if g.frame.isSome then .truth true else .none)
            | _ => return none
          | .property a b c d =>
            match s with
            | "fget" => return some a
            | "fset" => return some b
            | "fdel" => return some c
            | "__doc__" =>
              match d, a with
              | .none, .ref k =>
                match (← object k).body with
                | .function f => return some f.doc
                | _ => return some d
              | _, _ => return some d
            | "__isabstractmethod__" =>
              match a with
              | .ref k =>
                let d := (← object k).attributes
                let t ← dictionaryAt d
                return some (if d = 0 then .truth false else (t.get? name).getD (.truth false))
              | _ => return some (.truth false)
            | _ => return none
          | .staticMethod f | .classMethod f =>
            if s = "__func__" ∨ s = "__wrapped__" then return some f
            else if s = "__isabstractmethod__" then
              match f with
              | .ref k =>
                let d := (← object k).attributes
                let t ← dictionaryAt d
                return some (if d = 0 then .truth false else (t.get? name).getD (.truth false))
              | _ => return none
            else return none
          | .pattern src c =>
            match s with
            | "pattern" => return some src
            | "groups" => return some (.int c.groups)
            | "flags" =>
              let wide : Bool := match src with
                | .str _ => true
                | _ => false
              return some (.int (flagBits wide c.flags))
            | "groupindex" => return some (.ref (← newNames (c.names.map fun p => (p.1, .int p.2))))
            | _ => return none
          | .match_ m =>
            match (← object m.pattern).body with
            | .pattern _ c => return matchAttribute? m c s
            | _ => return none
          | .digest kind _ =>
            match s with
            | "name" => return some (.str kind)
            | "digest_size" =>
              let size : Int := match String.ofList kind with
                | "md5" => 16
                | "sha1" => 20
                | "sha224" => 28
                | "sha256" => 32
                | "sha384" => 48
                | _ => 64
              return some (.int size)
            | "block_size" => return some (.int (if kind = ("sha512" : Text) ∨ kind = ("sha384" : Text) then 128 else 64))
            | _ => return none
          | .cell v =>
            if s = "cell_contents" then
              if v.isThere then return some v else misvalued "Cell is empty"
            else return none
          | .super c self _ =>
            match s with
            | "__self__" => return some self
            | "__thisclass__" => return some (.ref c)
            | _ => return none
          | .view _ d =>
            if s = "mapping" then return some (← make .mappingProxy (.proxy (.ref d))) else return none
          | _ => return none
    | v =>
      match simpleAttribute? v (String.ofList name) with
      | some x => return some x
      | none =>
        match v with
        | .method _ (.ref n) =>
          match (← object n).body with
          | .function f =>
            match ← functionAttribute? n f (String.ofList name) with
            | some x => return some x
            | none => return (← get).own? n name
          | _ => return none
        | _ => return none

def hasMethod (w : World) (v : Value) (name : Text) : Bool :=
  match v with
  | .ref n =>
    let cls := (w.object n).cls
    !(w.classAt cls).native && (w.lookup? cls name).isSome
  | _ => false

def scriptedPart? (w : World) (cls : Nat) (name : Text) : Option Value :=
  if (w.classAt cls).native then none
  else
    match w.lookup? cls name with
    | some (.unbound _ _) => none
    | found? => found?

/-- an attribute of a class as an attribute of a value of the class, or of the class itself when there is no value -/
def bind (a self : Value) (cls : Nat) : Eval Value := do
  match a with
  | .unbound b n => return if self.isThere then .bound self b n else a
  | .ref n =>
    let o ← object n
    match scriptedPart? (← get) o.cls "__get__" with
    | some g => call g [a, if self.isThere then self else .none, .ref cls]
    | none =>
      match o.body with
      | .function _ => return if self.isThere then .method self a else a
      | .staticMethod v => return v
      | .classMethod v => return .method (.ref cls) v
      | .property get _ _ _ =>
        if !self.isThere then return a
        else if get.isNone then raise .attributeError "unreadable attribute"
        else call get [self]
      | _ => return a
  | a => return a

/-- an attribute of a class comes before those of its values -/
def isData (w : World) (a : Value) : Bool :=
  match a with
  | .ref n =>
    let o := w.object n
    match o.body with
    | .property _ _ _ _ => true
    | _ => (scriptedPart? w o.cls "__set__").isSome || (scriptedPart? w o.cls "__delete__").isSome
  | _ => false

def attributeOfClass? (n : Nat) (name : Text) : Eval (Option Value) := do
  let w ← get
  let meta_ := (w.object n).cls
  let fromMeta? := if meta_ = Base.type.ref then none else w.lookup? meta_ name
  match fromMeta? with
  | some a =>
    if isData w a then return some (← bind a (.ref n) meta_)
  | none => pure ()
  match (if name = ("__doc__" : Text) then w.own? n name else none) with
  | some v => return some v
  | none =>
    match ← special? (.ref n) name with
    | some v => return some v
    | none =>
      let w ← get
      match w.lookup? n name with
      | some a => return some (← bind a .absent n)
      | none =>
        match w.lookup? meta_ name with
        | some a => return some (← bind a (.ref n) meta_)
        | none => return none

def usualAttribute? (v : Value) (name : Text) : Eval (Option Value) := do
  let w ← get
  let instance_ : Eval (Option Value) := do
    let w ← get
    let cls := w.classOf v
    let found? := w.lookup? cls name
    let own? : Option Value :=
      match v with
      | .ref n => w.own? n name
      | _ => none
    match found? with
    | some a =>
      if isData w a then return some (← bind a v cls)
      else
        match own? with
        | some x => return some x
        | none =>
          match ← special? v name with
          | some x => return some x
          | none => return some (← bind a v cls)
    | none =>
      match own? with
      | some x => return some x
      | none => special? v name
  match v with
  | .ref n =>
    match w.body n with
    | .class_ _ => attributeOfClass? n name
    | .module _ =>
      match w.own? n name with
      | some x => return some x
      | none =>
        match ← special? v name with
        | some x => return some x
        | none =>
          match (← get).own? n "__getattr__" with
          | some g => return some (← call g [.str name])
          | none => return none
    | .super cls self start =>
      if name = ("__class__" : Text) then return some (.base .super)
      else
        match w.lookupBehind? cls start name with
        | some a =>
          -- of a class itself, its functions are asked without a value
          let isOfClass : Bool :=
            match self with
            | .ref m => m = start && w.isClass self
            | _ => false
          return some (← bind a (if isOfClass then .absent else self) start)
        | none => special? v name
    | _ => instance_
  | _ => instance_

def noAttribute {α : Type} (v : Value) (name : Text) : Eval α := do
  let w ← get
  let message : Text :=
    match v with
    | .ref n =>
      match w.body n with
      | .class_ c => "type object '" ++ c.name ++ "' has no attribute '" ++ name ++ ['\'']
      | .module m => "module '" ++ m ++ "' has no attribute '" ++ name ++ ['\'']
      | _ => "'" ++ w.kindOf v ++ "' object has no attribute '" ++ name ++ ['\'']
    | v => "'" ++ w.kindOf v ++ "' object has no attribute '" ++ name ++ ['\'']
  raiseWith .attributeError [.str message] [("name", .str name), ("obj", v)]

def member? (v : Value) (name : Text) : Eval (Option Value) := do
  let w ← get
  let c := w.classAt (w.classOf v)
  if !c.custom then
    usualAttribute? v name
  else
    let fallback? := w.lookup? (w.classOf v) "__getattr__"
    let own? := w.lookup? (w.classOf v) "__getattribute__"
    let first : Eval (Option Value) :=
      match own? with
      | some (.ref g) => do return some (← call (.ref g) [v, .str name])
      | _ => usualAttribute? v name
    match fallback? with
    | none => first
    | some g =>
      let found? ← catching [.attributeError] first fun _ => return none
      match found? with
      | some x => return some x
      | none => return some (← call g [v, .str name])

/-- a class of the module for classes that have no name of their own -/
def partOfTypes (name : Text) : Eval Value := do
  let m ← call (.native "builtins" "__import__") [.str "types"]
  return (← member? m name).getD .none

def member (v : Value) (name : Text) : Eval Value := do
  match ← member? v name with
  | some x => return x
  | none => noAttribute v name

/-- a method that a script has defined for the class of a value, bound to it -/
def method? (v : Value) (name : Text) : Eval (Option Value) := do
  match v with
  | .ref n =>
    let w ← get
    let cls := (w.object n).cls
    if (w.classAt cls).native then return none
    else
      match w.lookup? cls name with
      | some (.unbound b known) =>
        if known.toList = name then return none else return some (← bind (.unbound b known) v cls)
      | none => return none
      | some a => return some (← bind a v cls)
  | _ => return none

/-- the value is a script's, and its class has set a method to nothing -/
def isForbidden (v : Value) (name : Text) : Eval Bool := do
  match v with
  | .ref n =>
    let w ← get
    match w.lookup? (w.object n).cls name with
    | some .none => return true
    | _ => return false
  | _ => return false

/-- classes that look up or set attributes in their own way -/
def refreshClass (n : Nat) : Eval Unit := do
  let w ← get
  let defined (name : Text) : Bool :=
    match w.lookup? n name with
    | some (.unbound _ _) | none => false
    | some _ => true
  let custom := defined "__getattr__" || defined "__getattribute__"
  let customSet := defined "__setattr__" || defined "__delattr__"
  modifyObject n fun o =>
    match o with
    | { cls, attributes, body := .class_ c } => { cls, attributes, body := .class_ { c with custom, customSet } }
    | o => o

/-- sets an attribute of a failure that has a place of its own; true when it has one -/
def setFailurePart (n : Nat) (f : Failure) (name : Text) (v : Value) : Eval Bool := do
  match String.ofList name with
  | "args" =>
    match v with
    | .tuple vs => modifyFailure n fun f => { f with args := vs }
    | _ => pure ()
    return true
  | "__cause__" =>
    modifyFailure n fun f => { f with cause := v, suppressed := true }
    return true
  | "__context__" =>
    modifyFailure n fun f => { f with context := v }
    return true
  | "__suppress_context__" =>
    match v with
    | .truth b => modifyFailure n fun f => { f with suppressed := b }
    | _ => pure ()
    return true
  | "__traceback__" =>
    match v with
    | .ref m =>
      match (← object m).body with
      | .trace es => modifyFailure n fun f => { f with trace := es }
      | _ => pure ()
    | _ => modifyFailure n fun f => { f with trace := [] }
    return true
  | _ =>
    if f.parts.any (·.1 = name) then
      modifyFailure n fun f => { f with parts := f.parts.map fun p => if p.1 = name then (name, v) else p }
      return true
    else return false

/-- sets an attribute of a function that has a place of its own; true when it has one -/
def setFunctionPart (n : Nat) (f : Function) (name : Text) (v : Value) : Eval Bool := do
  match String.ofList name, v with
  | "__name__", .str t =>
    setBody n (.function { f with name := t })
    return true
  | "__qualname__", .str t =>
    setBody n (.function { f with qualname := t })
    return true
  | "__doc__", v =>
    setBody n (.function { f with doc := v })
    return true
  | "__module__", v =>
    setBody n (.function { f with module := v })
    return true
  | "__defaults__", .tuple vs =>
    setBody n (.function { f with usual := vs })
    return true
  | "__defaults__", .none =>
    setBody n (.function { f with usual := [] })
    return true
  | "__annotations__", .ref d =>
    setBody n (.function { f with annotations := d })
    return true
  | _, _ => return false

def setUsual (v : Value) (name : Text) (new : Value) : Eval Unit := do
  let w ← get
  let cls := w.classOf v
  let refuseHere : Eval Unit := do
    let w ← get
    let kind := w.kindOf v
    match w.lookup? cls name with
    | some _ => raise .attributeError ("'" ++ kind ++ "' object attribute '" ++ name ++ "' is read-only")
    | none =>
      let message : Text := "'" ++ kind ++ "' object has no attribute '" ++ name ++ ['\'']
      raiseWith .attributeError [.str message] [("name", .str name), ("obj", v)]
  match v with
  | .ref n =>
    match w.body n with
    | .class_ c =>
      if c.native then
        mistyped ("cannot set '" ++ name ++ "' attribute of immutable type '" ++ c.name ++ ['\''])
      else
        match String.ofList name, new with
        | "__name__", .str t => setBody n (.class_ { c with name := t })
        | "__qualname__", .str t => setBody n (.class_ { c with qualname := t })
        | _, _ =>
          let meta_ := (w.object n).cls
          let data? := (if meta_ = Base.type.ref then none else w.lookup? meta_ name).filter (isData w)
          match data? with
          | some (.ref k) =>
            match w.body k with
            | .property _ set _ _ =>
              let _ ← call set [v, new]
            | _ => putName (← attributesOf n) name new
          | _ =>
            putName (← attributesOf n) name new
            if ("__".toList).isPrefixOf name then refreshClass n
    | .module _ => putName (← attributesOf n) name new
    | b =>
      match w.lookup? cls name with
      | some (.ref k) =>
        match scriptedPart? w (w.object k).cls "__set__" with
        | some s =>
          let _ ← call s [.ref k, v, new]
          return ()
        | none =>
          match w.body k with
          | .property _ set _ _ =>
            if set.isNone then
              raise .attributeError ("property '" ++ name ++ "' of '" ++ w.kindOf v ++ "' object has no setter")
            else
              let _ ← call set [v, new]
              return ()
          | _ => pure ()
      | _ => pure ()
      match b with
      | .failure f =>
        if !(← setFailurePart n f name new) then putName (← attributesOf n) name new
      | .function f =>
        if !(← setFunctionPart n f name new) then putName (← attributesOf n) name new
      | b =>
        if name = ("__class__" : Text) then
          match new with
          | .ref k => modifyObject n fun o => { o with cls := k }
          | _ => refuseHere
        else if name = ("__dict__" : Text) then
          match new with
          | .ref k => modifyObject n fun o => { o with attributes := k }
          | _ => refuseHere
        else if (w.classAt cls).native then
          match b with
          | .plain => if (w.object n).attributes ≠ 0 then putName (← attributesOf n) name new else refuseHere
          | .property g s e _ =>
            if name = ("__doc__" : Text) then setBody n (.property g s e new) else refuseHere
          | _ => refuseHere
        else if slotsRefuse w cls name then refuseHere
        else
          let d := (w.object n).attributes
          if d ≠ 0 then putName d name new else putName (← attributesOf n) name new
  | _ => refuseHere

def setMember (v : Value) (name : Text) (new : Value) : Eval Unit := do
  let w ← get
  let cls := w.classOf v
  if (w.classAt cls).customSet then
    match w.lookup? cls "__setattr__" with
    | some (.unbound _ _) | none => setUsual v name new
    | some s =>
      let s ← bind s v cls
      let _ ← call s [.str name, new]
  else setUsual v name new

def eraseUsual (v : Value) (name : Text) : Eval Unit := do
  let w ← get
  let cls := w.classOf v
  match v with
  | .ref n =>
    match (if w.isClass v then none else w.lookup? cls name) with
    | some (.ref k) =>
      match w.body k with
      | .property _ _ erase _ =>
        if erase.isNone then
          raise .attributeError ("property '" ++ name ++ "' of '" ++ w.kindOf v ++ "' object has no deleter")
        else
          let _ ← call erase [v]
          return ()
      | .plain =>
        let kind := (w.object k).cls
        match (if (w.classAt kind).native then none else w.lookup? kind "__delete__") with
        | some s =>
          let _ ← call s [.ref k, v]
          return ()
        | none => pure ()
      | _ => pure ()
    | _ => pure ()
    match w.own? n name with
    | some _ =>
      let d := (w.object n).attributes
      eraseNameIn d name
      if w.isClass v then refreshClass n
    | none =>
      match w.body n with
      | .class_ c =>
        raiseWith .attributeError [.str ("type object '" ++ c.name ++ "' has no attribute '" ++ name ++ ['\''])]
          [("name", .str name), ("obj", v)]
      | _ => noAttribute v name
  | v => noAttribute v name

def eraseMember (v : Value) (name : Text) : Eval Unit := do
  let w ← get
  let cls := w.classOf v
  if (w.classAt cls).customSet then
    match w.lookup? cls "__delattr__" with
    | some (.unbound _ _) | none => eraseUsual v name
    | some s =>
      let s ← bind s v cls
      let _ ← call s [.str name]
  else eraseUsual v name

end IncludeAudit.Offside
