/-
Sources come in: they are made into codes, and modules are found and carried out.

- `compileText`: the code of a source, `importModule`: a module by its full name.
-/
import IncludeAudit.Offside.Compile
import IncludeAudit.Offside.Library.Modules
import IncludeAudit.Offside.Reader.Statement

namespace IncludeAudit.Offside

/-! ## Sources -/

inductive Wanted
  | statements
  | value
  deriving DecidableEq, Repr

/-- a source that codes can come from -/
def addOrigin (o : Origin) : Eval Nat := do
  let n := (← get).origins.size
  modify fun w => { w with origins := w.origins.push o }
  return n

def sourceLines (t : Text) : Array Text :=
  ((Text.pieces '\n' t).map fun l => if l.getLast? = some '\r' then l.dropLast else l).toArray

/-- the parts of a failure for a source that cannot be read; `read` tells whether its words could be -/
def faultOf (o : Origin) (source : Text) (f : Fault) (isWords : Bool) : Eval Nat := do
  let kind := (Catalog.base? f.kind).getD .syntaxError
  let lines := Text.pieces '\n' source
  let own := (f.shown.map (· ++ ['\n'])).or ((lines[f.spot.line - 1]?).map (· ++ ['\n']))
  let known : Bool := isWords || !o.lines.isEmpty
  let text : Value := if known then (own.map Value.str).getD .none else .none
  let offset : Int := if f.spot.last.isSome then f.spot.first + 1 else 0
  let stop : Int := match f.spot.last with
    | some n => n + 1
    | none => -1
  let where_ : List Value := [.str o.file, .int f.spot.line, .int offset, text, .int f.spot.line, .int stop]
  newFault kind.ref { args := [.str f.message, .tuple where_] }

/-- something doubtful in a source is told -/
def tellDoubt (o : Origin) (d : Nat × Text) : Eval Unit := do
  let line : Text := match o.lines[d.1 - 1]? with
    | some l => "  " ++ Strings.trimEnd Text.isBlankChar (Strings.trimStart Text.isBlankChar l) ++ ['\n']
    | none => []
  let told := o.file ++ ':' :: Text.ofNat d.1 ++ ": SyntaxWarning: " ++ d.2 ++ '\n' :: line
  modifyHost (·.say true (Raw.ofText told))

def compileText (origin : Nat) (source : Text) (wanted : Wanted) : Eval Nat := do
  let w ← get
  let o := w.origins.getD origin { file := "<string>" }
  let codes := w.codes
  let failed (f : Fault) (isWords : Bool) : Eval Nat := do raiseRef (← faultOf o source f isWords)
  let read : Except Fault (List Stmt ⊕ Expr) :=
    match wanted with
    | .statements => (Reader.script source).map Sum.inl
    | .value => (Reader.single source).map Sum.inr
  match read with
  | .error f => failed f true
  | .ok parts =>
    let made := match parts with
      | .inl ss => Maker.script codes origin ss
      | .inr e => Maker.single codes origin e
    match made with
    | .error f => failed f false
    | .ok (codes, doubts) =>
      modify fun w => { w with codes }
      if !o.hidden then doubts.forM (tellDoubt o)
      return codes.size - 1

/-! ## Modules -/

def newModule (name : Text) (more : List (Text × Value)) : Eval Nat := do
  let about : List (Text × Value) :=
    [("__name__", .str name), ("__doc__", .none), ("__package__", .str (((Text.pieces '.' name).dropLast).intersperse ['.']).flatten),
     ("__loader__", .none), ("__spec__", .none)]
  let attributes ← newNames about
  more.forM fun p => putName attributes p.1 p.2
  let n ← alloc { cls := Base.module.ref, attributes, body := .module name }
  putName (← get).modules name (.ref n)
  return n

def namesOfModule (n : Nat) : Eval Nat := do
  return (← object n).attributes

def carryIn (code names : Nat) : Eval Unit := do
  putName names "__builtins__" (.ref (← get).builtins)
  let _ ← carry code names names []

/-- a module that comes along is loaded -/
def loadLibrary (l : Library) : Eval Value := do
  let name := l.name.toList
  let n ← newModule name (l.fileValues ++ l.functionValues ++ (← l.values))
  if l.source ≠ "" then
    let origin ← addOrigin l.origin
    let code ← compileText origin l.sourceText .statements
    carryIn code (← namesOfModule n)
  return ((← get).table (← get).modules).get? name |>.getD (.ref n)

/-- a path inside a directory -/
def pathIn (dir name : Text) : Text :=
  if dir.getLast? = some '/' then dir ++ name else dir ++ '/' :: name

/-- what keeps a module of a script: a file, or a directory with or without one that says what is in it -/
inductive Kept
  | file (path : Text)
  | package (dir : Text)
  | directory (dir : Text)
  deriving DecidableEq, Repr

/-- the first of some directories that keeps a module -/
def findScript (name : Text) : List Text → Eval (Option Kept)
  | [] => return none
  | dir :: rest => do
    let t ← tree
    let here := (← host).here
    let dir := if dir = [] then here.path else dir
    let inside := pathIn dir name
    if t.isFile here (pathIn inside "__init__.py") then return some (.package inside)
    else if t.isFile here (inside ++ ".py") then return some (.file (inside ++ ".py"))
    else
      match ← findScript name rest with
      | some k => return some k
      | none => if t.isDirectory here inside then return some (.directory inside) else return none

def textsOf (v : Value) : Eval (List Text) := do
  return (← itemsOf v).filterMap fun x => match x with
    | .str t => some t
    | _ => none

/-- the file in which a module is kept when it has been read -/
def keepRead (path : Text) : Eval Unit := do
  let wanted ← match ← moduleName? "sys" "dont_write_bytecode" with
    | some (.truth true) => pure false
    | _ => pure true
  if wanted then
    let (dir, file) : Text × Text := ((path.reverse.dropWhile (· ≠ '/')).reverse, (path.reverse.takeWhile (· ≠ '/')).reverse)
    let here := (← host).here
    let t ← tree
    let cache := dir ++ "__pycache__"
    let t := match t.makeDirectory here cache with
      | .ok (t, _) => t
      | .error _ => t
    match t.write here (cache ++ '/' :: file.take (file.length - 3) ++ ".cpython-311.pyc") [] false with
    | .ok (t, _) => setTree t
    | .error _ => setTree t

def loadScript (name : Text) (k : Kept) : Eval Value := do
  let file? : Option Text := match k with
    | .file p => some p
    | .package d => some (pathIn d "__init__.py")
    | .directory _ => none
  let inside? : Option Text := match k with
    | .file _ => none
    | .package d | .directory d => some d
  let path ← match inside? with
    | some d => pure [(("__path__" : Text), ← newList [.str d])]
    | none => pure []
  let package : List (Text × Value) := if inside?.isSome then [("__package__", .str name)] else []
  let about : List (Text × Value) := match file? with
    | some p => [("__file__", .str p)]
    | none => []
  let n ← newModule name (path ++ package ++ about)
  match file? with
  | none => return .ref n
  | some p =>
    let here := (← host).here
    let text : Text := match (← tree).readText here p with
      | .ok t => t
      | .error _ => []
    let work : Eval Unit := do
      let origin ← addOrigin { file := p, lines := sourceLines text }
      let code ← compileText origin text .statements
      keepRead p
      carryIn code (← namesOfModule n)
    tryCatch work fun s => do
      eraseNameIn (← get).modules name
      throw s
    return ((← get).table (← get).modules).get? name |>.getD (.ref n)

/-- a module that cannot be found -/
def noModule {α : Type} (name : Text) (more : Text) : Eval α :=
  raiseWith .moduleNotFoundError [.str ("No module named " ++ Strings.quoted name ++ more)]
    [("msg", .str ("No module named " ++ Strings.quoted name ++ more)), ("name", .str name), ("path", .none),
     ("name_from", .none)]

/-- a module by its full name, inside another one unless it is on its own -/
def loadOne (parent : Option (Text × Value)) (name : Text) : Eval Value := do
  let w ← get
  match (w.table w.modules).get? name with
  | some .none => noModule name ""
  | some v => return v
  | none =>
    match Library.find? name with
    | some l => loadLibrary l
    | none =>
      let last := ((Text.pieces '.' name).getLast?).getD name
      let dirs ← match parent with
        | none =>
          match ← moduleName? "sys" "path" with
          | some v => textsOf v
          | none => pure []
        | some (outer, m) =>
          match ← member? m "__path__" with
          | some v => textsOf v
          | none =>
            if Library.hasParts outer then pure []
            else noModule name ("; " ++ Strings.quoted outer ++ " is not a package")
      match ← findScript last dirs with
      | some k => loadScript name k
      | none => noModule name ""

/-- a module by the parts of its name that follow; the first module and the last one -/
def loadParts (first : Option Value) (parent : Option (Text × Value)) : List Text → Eval (Value × Value)
  | [] => return (first.getD .none, (parent.map (·.2)).getD .none)
  | part :: rest => do
    let name : Text := match parent with
      | some (outer, _) => outer ++ '.' :: part
      | none => part
    let m ← loadOne parent name
    match parent with
    | some (_, .ref outer) =>
      match (← object outer).body with
      | .module _ => putName (← attributesOf outer) part m
      | _ => pure ()
    | _ => pure ()
    loadParts (first.or (some m)) (some (name, m)) rest

/-- a module by its full name: the one that the name begins with, and the module itself -/
def importModule (name : Text) : Eval (Value × Value) := do
  if name = [] then misvalued "Empty module name"
  loadParts none none (Text.pieces '.' name)

/-- the full name of a module that is named from inside another one, so many levels above -/
def nameFrom (globals : Nat) (dots : Nat) (name : Text) : Eval Text := do
  if dots = 0 then return name
  else
    let t ← dictionaryAt globals
    let own : Text := match t.get? "__name__" with
      | some (.str n) => n
      | _ => []
    let package : Text := match t.get? "__package__" with
      | some (.str n) => n
      | _ => if (t.get? "__path__").isSome then own else (((Text.pieces '.' own).dropLast).intersperse ['.']).flatten
    if package = [] then raise .importError "attempted relative import with no known parent package"
    let parts := Text.pieces '.' package
    if parts.length < dots then raise .importError "attempted relative import beyond top-level package"
    let base := ((parts.take (parts.length - (dots - 1))).intersperse ['.']).flatten
    return if name = [] then base else base ++ '.' :: name

/-- a name of a module, or a module inside it -/
def importName (m : Value) (name : Text) : Eval Value := do
  match ← member? m name with
  | some v => return v
  | none =>
    let own : Text ← (do
      match m with
      | .ref n =>
        match (← object n).body with
        | .module own => return own
        | _ => return []
      | _ => return [])
    let full := own ++ '.' :: name
    let hasPath := (← member? m "__path__").isSome
    let inner? ← (do
      if hasPath ∨ (Library.find? full).isSome then
        catching [.moduleNotFoundError] (do return some (← importModule full).2) fun _ => return none
      else return none)
    match inner? with
    | some v => return v
    | none =>
      let place : Text := match ← member? m "__file__" with
        | some (.str p) => p
        | _ => "unknown location"
      let shown := Strings.quoted own
      let message : Text := "cannot import name " ++ Strings.quoted name ++ " from " ++ shown ++ " (" ++ place ++ [')']
      raiseWith .importError [.str message]
        [("msg", .str message), ("name", .str own), ("path", .none), ("name_from", .str name)]

/-- a name of a module that comes along and is found in a second module, which is loaded when it is wanted -/
def lateName (owner name : Text) : Eval Value := do
  let late := '_' :: owner ++ "_more"
  let found? ← if (Library.find? late).isSome then (do
      let (_, more) ← importModule late
      member? more name)
    else pure none
  match found? with
  | some v =>
    match ((← get).table (← get).modules).get? owner with
    | some (.ref m) => putName (← attributesOf m) name v
    | _ => pure ()
    return v
  | none =>
    match ((← get).table (← get).modules).get? owner with
    | some m => noAttribute m name
    | none => noModule owner ""

/-- the names that come when everything of a module is wanted -/
def publicNames (m : Value) : Eval (List (Text × Value)) := do
  match ← member? m "__all__" with
  | some v => (← textsOf v).mapM fun n => do return (n, ← member m n)
  | none =>
    match m with
    | .ref n =>
      return (← dictionaryAt (← object n).attributes).toList.filterMap fun p =>
        match p.1 with
        | .str t => if t.head? = some '_' then none else some (t, p.2)
        | _ => none
    | _ => return []

end IncludeAudit.Offside
