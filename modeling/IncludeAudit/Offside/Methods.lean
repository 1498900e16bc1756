/-
Methods of all classes that are always there. Names with two lines around them stand for what signs, brackets and calls
do; here they mean what these do to a value as far as no script has a say in it.

- `runMethod`: a method of a value by the class that it comes from and its name.
-/
import IncludeAudit.Offside.Method.Making
import IncludeAudit.Digest.Basic

namespace IncludeAudit.Offside

/-! ## Signs -/

def operatorNamed? (word : String) : Option Operator :=
  (Operator.table.find? fun r => r.2.2 = word.toList).map (·.2.1)

def comparisonNamed? (word : String) : Option Comparison :=
  match word with
  | "lt" => some .less
  | "le" => some .lessOrEqual
  | "gt" => some .greater
  | "ge" => some .greaterOrEqual
  | "eq" => some .equal
  | "ne" => some .different
  | _ => none

/-- classes whose values go together -/
def family (b : Base) : List Base :=
  match b with
  | .int | .bool => [.int, .bool]
  | .float => [.float, .int, .bool]
  | .complex => [.complex, .float, .int, .bool]
  | .bytes | .bytearray => [.bytes, .bytearray]
  | .set | .frozenset | .dictKeys | .dictItems => [.set, .frozenset, .dictKeys, .dictItems]
  | b => [b]

/-- the name between two lines at both ends -/
def wordOf? (name : String) : Option String :=
  let t := name.toList
  if ("__".toList).isPrefixOf t ∧ ("__".toList).isSuffixOf t ∧ 4 < t.length then
    some (String.ofList ((t.drop 2).take (t.length - 4)))
  else none

/-- the only argument of a sign -/
def operand (g : Given) : Eval Value := do
  match g.args with
  | [v] => return v
  | vs => mistyped ("expected 1 argument, got " ++ Text.ofNat vs.length)

/-- a comparison that a class makes -/
def compareFor (b : Base) (c : Comparison) (self other : Value) : Eval Value := do
  let w ← get
  if b = .object then
    match c with
    | .equal => return if identical self other then .truth true else .notImplemented
    | .different =>
      match ← method? self "__eq__" with
      | some f =>
        match ← call f [other] with
        | .notImplemented => return .notImplemented
        | v => return .truth (!(← truthOf v))
      | none => return if identical self other then .truth false else .notImplemented
    | _ => return .notImplemented
  else
    let fits := w.layoutOf other ∈ family b
    let hasOrder : Bool := b ∉ ([.dict, .range, .slice, .complex, .dictValues] : List Base)
    if !fits then return .notImplemented
    else
      match c with
      | .equal => return .truth (← equalParts maxDepth self other)
      | .different => return .truth (!(← equalParts maxDepth self other))
      | c => if hasOrder then orderAt maxDepth c self other else return .notImplemented

/-- an operator that a class carries out, with its values the other way round if that is wanted -/
def operateFor (b : Base) (o : Operator) (turned : Bool) (self other : Value) : Eval Value := do
  let w ← get
  let isNumber : Bool := b ∈ ([.int, .bool, .float, .complex] : List Base)
  let isCrowd : Bool := b ∈ ([.set, .frozenset, .dictKeys, .dictItems, .dict] : List Base)
  if (isNumber ∨ isCrowd) ∧ w.layoutOf other ∉ family b then
    return .notImplemented
  else
    let (x, y) := if turned then (w.inner other, w.inner self) else (w.inner self, w.inner other)
    match ← simpleBinary? o x y with
    | some v => return v
    | none => return .notImplemented

/-- what a name between two lines means for a value; nothing when it means nothing in particular -/
def signMethod? (self : Value) (b : Base) (name : String) (g : Given) : Eval (Option Value) := do
  match wordOf? name with
  | none => return none
  | some word =>
    match comparisonNamed? word with
    | some c => return some (← compareFor b c self (← operand g))
    | none =>
      match operatorNamed? word with
      | some o =>
        if o = .pow ∧ g.count = 2 then return none
        return some (← operateFor b o false self (← operand g))
      | none =>
        let rest := String.ofList (word.toList.drop 1)
        match word.toList.head?, operatorNamed? rest with
        | some 'r', some o => return some (← operateFor b o true self (← operand g))
        | some 'i', some o =>
          let other ← operand g
          match b, o with
          | .list, .add | .list, .mul | .dict, .bitOr | .bytearray, .add | .bytearray, .mul =>
            return some (← plainUpdate o self other)
          | .set, _ =>
            let w ← get
            if isCrowd w other then return some (← plainUpdate o self other) else return some .notImplemented
          | _, _ => return none
        | _, _ => return none
where
  /-- an operator that changes a value in place -/
  plainUpdate (o : Operator) (self other : Value) : Eval Value := do
    let w ← get
    match self with
    | .ref n =>
      -- the value is taken as one of the class that is always there while it is changed
      let cls := (w.object n).cls
      let layout := (w.classAt cls).layout
      modifyObject n fun o => { o with cls := layout.ref }
      let restore : Eval Unit := modifyObject n fun o => { o with cls }
      let r ← tryCatch (updateValue o self other) fun s => do
        restore
        throw s
      restore
      return r
    | _ => updateValue o self other

/-! ## Objects, classes and functions -/

def namesOf (v : Value) : Eval (List Text) := do
  let w ← get
  let namesIn (d : Nat) : List Text :=
    if d = 0 then []
    else (w.table d).toList.filterMap fun p => match p.1 with
      | .str t => some t
      | _ => none
  let own : List Text := match v with
    | .ref n => namesIn (w.object n).attributes
    | _ => []
  let line : List Nat := match v with
    | .ref n => if w.isClass v then (w.classAt n).order else
        match w.body n with
        | .module _ => []
        | _ => (w.classAt (w.object n).cls).order
    | v => (w.classAt (w.classOf v)).order
  let ofClasses := line.flatMap fun c => namesIn (w.object c).attributes
  let special : List Text := match v with
    | .ref n => match w.body n with
      | .module _ => []
      | .class_ _ => ["__dict__", "__class__"]
      | _ => ["__class__"]
    | _ => ["__class__"]
  let all := (own ++ ofClasses ++ special).eraseDups
  return all.mergeSort fun a b => !Strings.less b a

def objectMethod (self : Value) (name : String) (g : Given) : Eval Value := do
  let text (v : Value) : Eval Text := do
    match (← get).inner v with
    | .str t => return t
    | _ => mistyped ("attribute name must be string, not '" ++ (← kindOf v) ++ ['\''])
  match name with
  | "__repr__" => return .str (placeText (← get) self)
  | "__str__" => return .str (← reprOf self)
  | "__hash__" =>
    match self with
    | .ref n => return .int (Hash.signed (Hash.place n))
    | v => return .int (Hash.signed (← hashOf v))
  | "__getattribute__" =>
    let n ← text (← operand g)
    match ← usualAttribute? self n with
    | some v => return v
    | none => noAttribute self n
  | "__setattr__" =>
    g.between "__setattr__" 2 2
    setUsual self (← text (g.at_ 0)) (g.at_ 1)
    return .none
  | "__delattr__" =>
    eraseUsual self (← text (← operand g))
    return .none
  | "__init__" =>
    if !g.args.isEmpty then
      mistyped "object.__init__() takes exactly one argument (the instance to initialize)"
    return .none
  | "__format__" =>
    match g.at_ 0 with
    | .str [] | .none => return .str (← strOf self)
    | _ => mistyped ("unsupported format string passed to " ++ (← kindOf self) ++ ".__format__")
  | "__dir__" => newList ((← namesOf self).map .str)
  | "__sizeof__" => return .int 48
  | name => noAttribute self name.toList

def typeMethod (runInit : Value → Base → Given → Eval Unit) (n : Nat) (name : String) (g : Given) : Eval Value := do
  let w ← get
  let c := w.classAt n
  match name with
  | "__call__" => construct runInit n g
  | "mro" => newList (c.order.map .ref)
  | "__subclasses__" => newList (c.below.map .ref)
  | "__instancecheck__" => return .truth (← belowClass 8 (w.classOf (g.at_ 0)) n)
  | "__subclasscheck__" =>
    match g.at_ 0 with
    | .ref m => return .truth (← belowClass 8 m n)
    | _ => mistyped "issubclass() arg 1 must be a class"
  | "__or__" => unionOf (.ref n) (g.at_ 0)
  | "__ror__" => unionOf (g.at_ 0) (.ref n)
  | "__init__" => return .none
  | "__repr__" => return .str (← reprBody maxDepth [] n)
  | name => noAttribute (.ref n) name.toList

def descriptorMethod (n : Nat) (o : Object) (name : String) (g : Given) : Eval Value := do
  match o.body with
  | .function _ =>
    match name with
    | "__get__" => if (g.at_ 0).isNone then return .ref n else return .method (g.at_ 0) (.ref n)
    | "__call__" => callNamed (.ref n) g.args g.named
    | name => noAttribute (.ref n) name.toList
  | .property get set erase doc =>
    let again (get set erase : Value) : Eval Value := do
      return .ref (← alloc { cls := o.cls, attributes := o.attributes, body := .property get set erase doc })
    match name with
    | "getter" => again (g.at_ 0) set erase
    | "setter" => again get (g.at_ 0) erase
    | "deleter" => again get set (g.at_ 0)
    | "__get__" => if (g.at_ 0).isNone then return .ref n else call get [g.at_ 0]
    | "__set__" =>
      let _ ← call set [g.at_ 0, g.at_ 1]
      return .none
    | "__delete__" =>
      let _ ← call erase [g.at_ 0]
      return .none
    | name => noAttribute (.ref n) name.toList
  | .staticMethod f =>
    match name with
    | "__get__" => return f
    | _ => callNamed f g.args g.named
  | .classMethod f =>
    let cls ← match g.args with
      | [_, .ref c] => pure c
      | v :: _ => pure ((← get).classOf v)
      | [] => pure Base.object.ref
    return .method (.ref cls) f
  | _ => noAttribute (.ref n) name.toList

/-! ## Digests -/

def digestOf (name : Text) (r : Raw) : Raw :=
  match String.ofList name with
  | "md5" => Digest.md5 r
  | "sha1" => Digest.sha1 r
  | "sha224" => Digest.sha224 r
  | "sha384" => Digest.sha384 r
  | "sha512" => Digest.sha512 r
  | _ => Digest.sha256 r

def digestMethod (n : Nat) (kind : Text) (data : Raw) (name : String) (g : Given) : Eval Value := do
  match name with
  | "update" =>
    let v ← g.one "update"
    match bytesOf? (← get) v with
    | some r =>
      setBody n (.digest kind (data ++ r))
      return .none
    | none =>
      match (← get).inner v with
      | .str _ => mistyped "Strings must be encoded before hashing"
      | _ => mistyped "object supporting the buffer API required"
  | "digest" => return .bytes (digestOf kind data)
  | "hexdigest" => return .str ((digestOf kind data).flatMap fun c => Strings.hex 2 c.toNat)
  | "copy" => make .digest (.digest kind data)
  | name => noAttribute (.ref n) name.toList

/-! ## All methods -/

/-- what names between two lines mean for values that hold others, and for numbers -/
def plainMethod? (self : Value) (b : Base) (name : String) (g : Given) : Eval (Option Value) := do
  let w ← get
  let isObject : Bool := b = .object
  let isFlow : Bool := b ∈ ([.generator, .coroutine, .asyncGenerator, .textFile, .byteReader, .byteWriter, .byteRandom,
    .rawFile, .textBuffer, .byteBuffer] : List Base)
  let isFault : Bool := b = .baseException
  let isType : Bool := b = .type
  match name with
  | "__len__" =>
    if !g.args.isEmpty then mistyped ("expected 0 arguments, got " ++ Text.ofNat g.count)
    return (← plainLength? self).map fun n => .int n
  | "__getitem__" => return some (← plainIndex self (← operand g))
  | "__setitem__" =>
    if g.count ≠ 2 then mistyped (" expected 2 arguments, got " ++ Text.ofNat g.count)
    plainSetIndex self (g.at_ 0) (g.at_ 1)
    return some .none
  | "__delitem__" =>
    plainEraseIndex self (← operand g)
    return some .none
  | "__iter__" => if isFlow then return none else return some (← plainIter self)
  | "__contains__" => return some (.truth (← plainContains self (← operand g)))
  | "__hash__" =>
    if isObject then return none
    else return some (.int (Hash.signed (← hashOf (w.inner self))))
  | "__repr__" =>
    if isObject ∨ isFault ∨ isType then return none
    else
      match self with
      | .ref n => return some (.str (← reprBody maxDepth [] n))
      | v => return some (.str (← reprOf v))
  | "__str__" =>
    if isObject ∨ isFault then return none
    else
      match w.inner self with
      | .str t => return some (.str t)
      | v => return some (.str (← reprOf v))
  | "__bool__" =>
    match w.inner self with
    | .ref _ => return none
    | v => return some (.truth (← truthOf v))
  | "__format__" =>
    if isObject then return none
    else
      let layout ← match w.inner (← operand g) with
        | .str t => pure t
        | v => mistyped ("__format__() argument must be str, not " ++ (← kindOf v))
      if layout = [] then return some (.str (← strOf self)) else return some (.str (← formatValue (w.inner self) layout))
  | "__pow__" =>
    match g.args, integer? w self with
    | [e, m], some n =>
      match integer? w e, integer? w m with
      | some e, some m =>
        if m = 0 then misvalued "pow() 3rd argument cannot be 0"
        if e < 0 then return some .notImplemented
        let r : Int := Numeral.powerMod ((n % (m.natAbs : Int)).toNat) e.toNat m.natAbs (Numeral.bitLength e.toNat + 1) 1
        return some (.int (if m < 0 ∧ r ≠ 0 then r + m else r))
      | _, _ => return some .notImplemented
    | _, _ => return none
  | "__divmod__" | "__rdivmod__" =>
    let other ← operand g
    if w.layoutOf other ∉ family b then return some .notImplemented
    let (x, y) := if name = "__divmod__" then (w.inner self, w.inner other) else (w.inner other, w.inner self)
    match ← simpleBinary? .floorDiv x y, ← simpleBinary? .mod x y with
    | some q, some r => return some (.tuple [q, r])
    | _, _ => return some .notImplemented
  | _ => return none

def runMethod (runInit : Value → Base → Given → Eval Unit) (self : Value) (b : Base) (name : String) (g : Given) :
    Eval Value := do
  let quick? ← if b = .type then pure none else plainMethod? self b name g
  match quick? with
  | some v => return v
  | none =>
    let sign? ← if b = .type then pure none else signMethod? self b name g
    match sign? with
    | some v => return v
    | none =>
      if b = .object then objectMethod self name g
      else
        let w ← get
        match b, w.inner self with
        | .int, .int n => intMethod n self name g
        | .int, .truth t => intMethod (if t then 1 else 0) self name g
        | .float, .float x => floatMethod x self name g
        | .complex, .complex x y => complexMethod x y self name g
        | .str, .str t => strMethod t name g
        | .bytes, .bytes r => bytesMethod .bytes r name g
        | .tuple, .tuple vs => tupleMethod vs self name g
        | .range, .range x y z => rangeMethod x y z name g
        | .slice, .slice x y z =>
          match name with
          | "indices" =>
            let (p, q, r) ← sliceBounds (← wholeOf (← g.one "slice.indices")).toNat x y z
            return .tuple [.int p, .int q, .int r]
          | name => noAttribute self name.toList
        | .native, v | .method, v | .unbound, v =>
          match name with
          | "__call__" => callNamed v g.args g.named
          | "__get__" => if (g.at_ 0).isNone then return v else bind v (g.at_ 0) (w.classOf (g.at_ 0))
          | name => noAttribute v name.toList
        | _, .ref n =>
          let o := w.object n
          match o.body with
          | .list _ => listMethod n self name g
          | .dict _ => dictMethod n self name g
          | .set _ => setMethod n b self name g
          | .bytes r =>
            if name = "__init__" then
              setBody n (.bytes (← rawOf "bytearray" g))
              return .none
            else changingMethod n r name g
          | .view v d => viewMethod v d self name g
          | .proxy v => proxyMethod v self name g
          | .pattern _ _ => patternMethod n name g
          | .match_ m => matchMethod n m name g
          | .file f => fileMethod n f name g
          | .generator gen => flowMethod n gen b name g
          | .iter i => iterMethod n i name g
          | .failure _ => failureMethod n name g
          | .class_ _ => typeMethod runInit n name g
          | .function _ | .property _ _ _ _ | .staticMethod _ | .classMethod _ => descriptorMethod n o name g
          | .digest kind data => digestMethod n kind data name g
          | _ => noAttribute self name.toList
        | _, v => noAttribute v name.toList

/-- a method of a class without a value is called: the value is the first argument -/
def runUnbound (runInit : Value → Base → Given → Eval Unit) (b : Base) (name : String) (g : Given) : Eval Value := do
  match g.args with
  | [] =>
    let isSign := (wordOf? name).isSome
    if isSign then mistyped ("descriptor '" ++ name.toList ++ "' of '" ++ Catalog.nameOf b ++ "' object needs an argument")
    else mistyped ("unbound method " ++ Catalog.nameOf b ++ '.' :: name.toList ++ "() needs an argument")
  | self :: rest =>
    let w ← get
    if w.isBelow (w.classOf self) b.ref then runMethod runInit self b name { g with args := rest }
    else if (wordOf? name).isSome then
      mistyped ("descriptor '" ++ name.toList ++ "' requires a '" ++ Catalog.nameOf b ++ "' object but received a '" ++
        (← kindOf self) ++ ['\''])
    else
      mistyped ("descriptor '" ++ name.toList ++ "' for '" ++ Catalog.nameOf b ++ "' objects doesn't apply to a '" ++
        (← kindOf self) ++ "' object")

/-- a value takes its parts from arguments -/
def initValue : (fuel : Nat) → Value → Base → Given → Eval Unit
  | 0, _, _, _ => return ()
  | fuel + 1, v, b, g => do
    let _ ← runMethod (initValue fuel) v b "__init__" g

/-- a class is called -/
def instantiate (cls : Nat) (g : Given) : Eval Value :=
  construct (initValue 3) cls g

end IncludeAudit.Offside
