/-
Fresh values of classes: what a class that is always there makes of arguments, and what calling a class does.

- `makeValue`: a value of a class that is always there or of one that extends it, `construct`: a class is called.
-/
import IncludeAudit.Offside.Method.Kind

namespace IncludeAudit.Offside

def Given.forClass (g : Given) (name : Text) (least most : Nat) : Eval Unit := do
  g.unnamed name
  let n := g.count
  if least = most ∧ n ≠ least then mistyped (name ++ " expected " ++ Given.counted least ++ ", got " ++ Text.ofNat n)
  if n < least then mistyped (name ++ " expected at least " ++ Given.counted least ++ ", got " ++ Text.ofNat n)
  if most < n then mistyped (name ++ " expected at most " ++ Given.counted most ++ ", got " ++ Text.ofNat n)

/-- a text of arguments -/
def newStr (g : Given) : Eval Value := do
  g.allow "str" ["object", "encoding", "errors"]
  if 3 < g.count then mistyped ("str() takes at most 3 arguments (" ++ Text.ofNat g.count ++ " given)")
  match g.get? 0 "object" with
  | none => return .str []
  | some v =>
    match g.get? 1 "encoding", g.get? 2 "errors" with
    | none, none => return .str (← strOf v)
    | _, _ =>
      let encoding := (← g.text? "str" 1 "encoding").getD "utf-8"
      let errors := (← g.text? "str" 2 "errors").getD "strict"
      let w ← get
      match bytesOf? w v with
      | some r => return .str (← decodeText encoding errors r)
      | none =>
        match w.inner v with
        | .str _ => mistyped "decoding str is not supported"
        | _ => mistyped ("decoding to str: need a bytes-like object, " ++ (← kindOf v) ++ " found")

/-- bytes of arguments -/
def rawOf (kind : Text) (g : Given) : Eval Raw := do
  g.allow kind ["source", "encoding", "errors"]
  let w ← get
  match g.get? 0 "source" with
  | none => return []
  | some v =>
    let encoding? := g.get? 1 "encoding"
    let encoding := (← g.text? kind 1 "encoding").getD "utf-8"
    let errors := (← g.text? kind 2 "errors").getD "strict"
    match w.inner v with
    | .str t =>
      if encoding?.isNone then mistyped "string argument without an encoding"
      encodeText encoding errors t
    | x =>
      if encoding?.isSome then mistyped "encoding without a string argument"
      match bytesOf? w x with
      | some r => return r
      | none =>
        match ← method? v "__bytes__" with
        | some f =>
          match bytesOf? (← get) (← call f []) with
          | some r => return r
          | none => mistyped "__bytes__ returned non-bytes"
        | none =>
          let number? ← (do
            match integer? w x with
            | some n => return some n
            | none =>
              match ← method? v "__index__" with
              | some f => return integer? (← get) (← call f [])
              | none => return none)
          match number? with
          | some n =>
            if n < 0 then misvalued "negative count"
            return List.replicate n.toNat '\x00'
          | none =>
            let vs ← catching [.typeError] (itemsOf v) fun _ => do
              mistyped ("cannot convert '" ++ (← kindOf v) ++ "' object to " ++ kind)
            vs.mapM fun x => do
              let n ← wholeOf x
              if n < 0 ∨ 255 < n then
                misvalued (if kind = ("bytes" : Text) then "bytes must be in range(0, 256)" else "byte must be in range(0, 256)")
              return Char.ofNat n.toNat

def newRange (g : Given) : Eval Value := do
  g.forClass "range" 1 3
  let ns ← g.args.mapM wholeOf
  match ns with
  | [b] => return .range 0 b 1
  | [a, b] => return .range a b 1
  | a :: b :: c :: _ =>
    if c = 0 then misvalued "range() arg 3 must not be zero"
    return .range a b c
  | [] => return .range 0 0 1

/-- what gives the elements of a value from its end -/
def reversedOf (v : Value) : Eval Value := do
  match ← method? v "__reversed__" with
  | some f => call f []
  | none =>
    let w ← get
    let refuse : Eval Value := do mistyped ("'" ++ (← kindOf v) ++ "' object is not reversible")
    match v with
    | .tuple vs => newIter .reversed (.numberedBack v vs.length)
    | .str t => newIter .reversed (.numberedBack v t.length)
    | .bytes r => newIter .reversed (.numberedBack v r.length)
    | .range low high step =>
      let count := rangeCount low high step
      newIter .rangeIterator (.range (low + step * ((count : Int) - 1)) (-step) count)
    | .ref n =>
      if ← isForbidden v "__reversed__" then refuse
      else
        match w.body n with
        | .list vs => newIter .listReverseIterator (.listBack n vs.size)
        | .dict t => newIter .keyReverseIterator (.tableBack n t.entries.size t.size .keys)
        | .view k d =>
          let t := w.table d
          newIter .keyReverseIterator (.tableBack d t.entries.size t.size k)
        | _ =>
          match ← method? v "__getitem__" with
          | some _ =>
            match ← lengthOf? v with
            | some k => newIter .reversed (.numberedBack v k)
            | none => mistyped ("object of type '" ++ (← kindOf v) ++ "' has no len()")
          | none => refuse
    | _ => refuse

/-- where the parts of a class behind another one are asked, and for what value -/
def newSuper (g : Given) : Eval Value := do
  let w ← get
  -- a variable that is kept in a cell
  let open_ (v : Value) : Value :=
    match v with
    | .ref n =>
      match w.body n with
      | .cell x => x
      | _ => v
    | v => v
  match g.args with
  | [] => raise .runtimeError "super(): no arguments"
  | t :: rest =>
    match open_ t with
    | .absent => raise .runtimeError "super(): empty __class__ cell"
    | .ref c =>
      if !w.isClass (.ref c) then mistyped ("super() argument 1 must be a type, not " ++ (← kindOf (.ref c)))
      match rest with
      | [] => make .super (.super c .none c)
      | v :: _ =>
        let v := open_ v
        let start? : Option Nat :=
          match v with
          | .ref n => if w.isClass v ∧ w.isBelow n c then some n else if w.isBelow (w.classOf v) c then some (w.classOf v) else none
          | v => if w.isBelow (w.classOf v) c then some (w.classOf v) else none
        match start? with
        | some s => make .super (.super c v s)
        | none => mistyped "super(type, obj): obj must be an instance or subtype of type"
    | v => mistyped ("super() argument 1 must be a type, not " ++ (← kindOf v))

/-- a plain object of a class -/
def newPlain (cls : Nat) (g : Given) : Eval Value := do
  let w ← get
  let c := w.classAt cls
  if !g.args.isEmpty ∨ !g.named.isEmpty then
    let made : Bool := match w.lookup? cls "__new__" with
      | some (.native _ _) | none => true
      | _ => false
    if !made then mistyped "object.__new__() takes exactly one argument (the type to instantiate)"
    match w.lookup? cls "__init__" with
    | some (.unbound .object _) | none => mistyped ((if c.native then ("object" : Text) else c.name) ++ "() takes no arguments")
    | _ => pure ()
  match (if c.native then none else w.lookup? cls "__abstractmethods__") with
  | some v =>
    let names ← (← itemsOf v).mapM strOf
    if !names.isEmpty then
      let names := names.mergeSort fun a b => !Strings.less b a
      let many : Text := if names.length = 1 then [] else ['s']
      mistyped ("Can't instantiate abstract class " ++ c.name ++ " with abstract method" ++ many ++ " " ++ listed names)
  | none => pure ()
  let attributes ← if c.native then pure 0 else newNames []
  return .ref (← alloc { cls, attributes })

/-- a value of a class that is always there, or of a class that extends it -/
def makeValue (b : Base) (cls : Nat) (g : Given) : Eval Value := do
  let isOwn : Bool := cls = b.ref
  let wrapped (v : Value) : Eval Value := do
    if isOwn then return v else return .ref (← alloc { cls, body := .payload v })
  let body (x : Body) : Eval Value := do
    let attributes ← if isOwn then pure 0 else newNames []
    return .ref (← alloc { cls, attributes, body := x })
  match b with
  | .object => newPlain cls g
  | .type =>
    if isOwn ∧ g.count = 1 ∧ g.named.isEmpty then return .ref ((← get).classOf (g.at_ 0)) else newClass cls g
  | .bool =>
    g.forClass "bool" 0 1
    return .truth (← match g.args.head? with
      | some v => truthOf v
      | none => pure false)
  | .int => wrapped (← newInt g)
  | .float => wrapped (← newFloat g)
  | .complex => wrapped (← newComplex g)
  | .str => wrapped (← newStr g)
  | .bytes => wrapped (.bytes (← rawOf "bytes" g))
  | .bytearray => body (.bytes [])
  | .tuple =>
    g.forClass "tuple" 0 1
    wrapped (.tuple (← match g.args.head? with
      | some v => itemsOf v
      | none => pure []))
  | .list => body (.list #[])
  | .dict => body (.dict {})
  | .set => body (.set {})
  | .frozenset =>
    if isOwn then g.forClass "frozenset" 0 1
    match g.args.head? with
    | some v =>
      -- what cannot change need not be made again
      match v with
      | .ref n => if isOwn ∧ (← object n).cls = Base.frozenset.ref then return v
      | _ => pure ()
      let n ← crowdOf .frozenset v
      if !isOwn then
        modifyObject n fun o => { o with cls }
      return .ref n
    | none => body (.set {})
  | .range => newRange g
  | .slice =>
    g.forClass "slice" 1 3
    match g.args with
    | [b] => return .slice .none b .none
    | [a, b] => return .slice a b .none
    | a :: b :: c :: _ => return .slice a b c
    | [] => return .none
  | .property =>
    g.allow "property" ["fget", "fset", "fdel", "doc"]
    if 4 < g.count then mistyped ("property() takes at most 4 arguments (" ++ Text.ofNat g.count ++ " given)")
    body (.property (g.getD 0 "fget" .none) (g.getD 1 "fset" .none) (g.getD 2 "fdel" .none) (g.getD 3 "doc" .none))
  | .staticmethod =>
    g.forClass "staticmethod" 1 1
    body (.staticMethod (g.at_ 0))
  | .classmethod =>
    g.forClass "classmethod" 1 1
    body (.classMethod (g.at_ 0))
  | .super => newSuper g
  | .map =>
    if g.count < 2 then mistyped "map() must have at least two arguments."
    body (.iter (.map (g.at_ 0) (← (g.args.drop 1).mapM iterOf)))
  | .filter =>
    g.forClass "filter" 2 2
    body (.iter (.filter (g.at_ 0) (← iterOf (g.at_ 1))))
  | .zip =>
    g.allow "zip" ["strict"]
    let strict ← g.truth 1000000 "strict" false
    let its ← g.args.mapM iterOf
    body (.iter (.zip strict its))
  | .enumerate =>
    g.allow "enumerate" ["iterable", "start"]
    match g.get? 0 "iterable" with
    | none => mistyped "enumerate() missing required argument 'iterable'"
    | some v =>
      let start := (← g.whole? 1 "start").getD 0
      body (.iter (.count (← iterOf v) start))
  | .reversed =>
    g.forClass "reversed" 1 1
    reversedOf (g.at_ 0)
  | .baseException => return .ref (← newFault cls g)
  | .textBuffer | .byteBuffer =>
    let v ← body (.file { stream := .memory, loaded := true, writes := true, reads := true })
    match v with
    | .ref n => setMemory n (b = .byteBuffer) g
    | _ => pure ()
    return v
  | .textFile =>
    match g.get? 0 "buffer" with
    | some (.ref n) =>
      match (← object n).body with
      | .file f =>
        let encoding := (← g.text? "TextIOWrapper" 1 "encoding").getD "utf-8"
        let errors := (← g.text? "TextIOWrapper" 2 "errors").getD "strict"
        let newline ← g.text? "TextIOWrapper" 3 "newline"
        let data ← if f.stream = .memory then (do
            let t ← decodeText encoding errors (f.data.toList.drop f.place)
            return (if newline.isNone then plainEnds t [] else t).toArray)
          else pure #[]
        body (.file { f with
          binary := false, encoding, errors, newline, data, place := 0, loaded := f.stream = .memory
          mode := f.mode.filter (· ≠ 'b') })
      | _ => noAttribute (.ref n) "readable"
    | some v => noAttribute v "readable"
    | none => mistyped "TextIOWrapper() missing required argument 'buffer' (pos 1)"
  | .module =>
    let name ← match (← get).inner (g.getD 0 "name" .none) with
      | .str t => pure t
      | v => mistyped ("module.__init__() argument 'name' must be str, not " ++ (← kindOf v))
    let about : List (Text × Value) :=
      [("__name__", .str name), ("__doc__", g.getD 1 "doc" .none), ("__package__", .none), ("__loader__", .none),
       ("__spec__", .none)]
    let attributes ← newNames about
    return .ref (← alloc { cls, attributes, body := .module name })
  | .method => return .method (g.at_ 1) (g.at_ 0)
  | .mappingProxy => body (.proxy (g.at_ 0))
  | .memoryview =>
    match bytesOf? (← get) (g.at_ 0) with
    | some r => body (.bytes r)
    | none => mistyped ("memoryview: a bytes-like object is required, not '" ++ (← kindOf (g.at_ 0)) ++ ['\''])
  | .cell => body (.cell (g.args.head?.getD .absent))
  | .function =>
    match g.args with
    | .ref c :: .ref globals :: rest =>
      match (← object c).body with
      | .code k =>
        let w ← get
        let code := w.codes.getD k { name := [], qualname := [] }
        let name : Text := match rest.head? with
          | some (Value.str t) => t
          | _ => code.name
        let usual : List Value := match rest[1]? with
          | some (Value.tuple vs) => vs
          | _ => []
        body (.function { code := k, globals, usual, name, qualname := code.qualname })
      | _ => mistyped "function() argument 'code' must be code, not str"
    | _ => mistyped "function() missing required argument 'code' (pos 1)"
  | _ => return g.at_ 0

/-- the class of values that stands for a native maker of a name -/
def makerOf (name : String) : Base :=
  (Catalog.base? name.toList).getD .object

def callMaker (name : String) (g : Given) : Eval Value := do
  let b := makerOf name
  match g.args with
  | [] => mistyped (name.toList ++ ".__new__(): not enough arguments")
  | cls :: rest =>
    let w ← get
    match cls with
    | .ref n =>
      if !w.isClass cls then
        mistyped (name.toList ++ ".__new__(X): X is not a type object (" ++ (← kindOf cls) ++ [')'])
      else if !w.isBelow n b.ref then
        mistyped (name.toList ++ ".__new__(" ++ (w.classAt n).name ++ "): " ++ (w.classAt n).name ++ " is not a subtype of " ++
          name.toList)
      else
        let layout := (w.classAt n).layout
        if layout ≠ b ∧ b ≠ .object ∧ b ≠ .baseException ∧ layout ≠ .type then
          mistyped (name.toList ++ ".__new__(" ++ (w.classAt n).name ++ ") is not safe, use " ++ Catalog.nameOf layout ++
            ".__new__()")
        else if b = .object ∧ layout ≠ .object then
          mistyped ("object.__new__(" ++ (w.classAt n).name ++ ") is not safe, use " ++ Catalog.nameOf layout ++ ".__new__()")
        else makeValue b n { g with args := rest }
    | v => mistyped (name.toList ++ ".__new__(X): X is not a type object (" ++ (← kindOf v) ++ [')'])

/-- a class is called; `runInit` calls a method of a class that is always there -/
def construct (runInit : Value → Base → Given → Eval Unit) (cls : Nat) (g : Given) : Eval Value := do
  let w ← get
  let v ← match w.lookup? cls "__new__" with
    | some (.native _ name) =>
      let b := makerOf name
      -- a class that has no maker of its own takes the one of its layout
      makeValue b cls g
    | some f =>
      let f ← bind f .absent cls
      callNamed f (.ref cls :: g.args) g.named
    | none => newPlain cls g
  let isOfType : Bool := cls = Base.type.ref && g.count = 1
  let w ← get
  let own := w.classOf v
  if !isOfType ∧ w.isBelow own cls then
    match w.lookup? own "__init__" with
    | some (.unbound b _) => if b ≠ .object ∧ b ≠ .type then runInit v b g
    | some f =>
      let f ← bind f v own
      let r ← callNamed f g.args g.named
      if !r.isNone then mistyped ("__init__() should return None, not '" ++ (← kindOf r) ++ ['\''])
    | none => pure ()
  return v

end IncludeAudit.Offside
