/-
Scripts as programs: a script comes from the command line, from a file or from the input, and a failure that nothing
handles is shown with the calls that led to it.

- `Offside.interpreter`: the tool that carries scripts out.
-/
import IncludeAudit.Offside.Machine
import IncludeAudit.Tool.Basic

namespace IncludeAudit.Offside

def version : Text := "3.11.2"

structure Script where
  /-- its name in failures -/
  file : Text
  source : Text
  /-- its arguments, with the name it goes by in front -/
  arguments : List Text
  /-- the directory in which it looks for modules first -/
  home : Text := []
  /-- the source is not shown when it fails -/
  hidden : Bool := false
  fromInput : Bool := false
  /-- what is printed does not wait -/
  direct : Bool := false
  /-- modules that have been read are kept -/
  keepsRead : Bool := true
  /-- a module is carried out in place of a source -/
  module : Option Text := none
  deriving DecidableEq, Repr

def startWorld (c : Tool.Call) (s : Script) : World :=
  { heap := Catalog.heap, modules := Catalog.modules, builtins := Catalog.builtins
    host := {
      tree := c.tree, here := c.here, umask := c.umask, environment := c.environment
      input := if s.fromInput then [] else c.input, usedInput := s.fromInput, told := c.told, direct := s.direct
      outputPlace := c.output } }

/-- a module around a dictionary that is there already -/
def addModule (name : Text) (attributes : Nat) : Eval Unit := do
  let n ← alloc { cls := Base.module.ref, attributes, body := .module name }
  putName (← get).modules name (.ref n)

/-- the modules that are always there are set up, and the one of the script: the dictionary of its names -/
def prepare (s : Script) : Eval Nat := do
  let modules ← System.values s.arguments (s.home :: ["/usr/lib/python311.zip", "/usr/lib/python3.11",
    "/usr/lib/python3.11/lib-dynload", "/usr/local/lib/python3.11/dist-packages", "/usr/lib/python3/dist-packages"]) s.keepsRead
  let _ ← newModule "sys" (System.library.functionValues ++ modules)
  addModule "builtins" (← get).builtins
  let own ← newModule "__main__" []
  let names ← namesOfModule own
  putName names "__package__" .none
  putName names "__builtins__" (((← get).table (← get).modules).get? "builtins" |>.getD .none)
  if !s.hidden then
    putName names "__file__" (.str s.file)
    putName names "__cached__" .none
  return names

def Script.work (s : Script) (names : Nat) : Eval Unit := do
  match s.module with
  | some name =>
    match Library.find? name with
    | some l =>
      let origin ← addOrigin { file := s.file, hidden := true }
      let code ← compileText origin l.sourceText .statements
      let _ ← carry code names names []
    | none =>
      match ← findScript name [s.home] with
      | some (.file path) =>
        let here := (← host).here
        let text : Text := match (← tree).readText here path with
          | .ok t => t
          | .error _ => []
        putName names "__file__" (.str path)
        let origin ← addOrigin { file := path, lines := sourceLines text }
        let code ← compileText origin text .statements
        let _ ← carry code names names []
      | _ =>
        modifyHost (·.say true (Raw.ofText ("/usr/bin/python3: No module named " ++ name ++ ['\n'])))
        throw (.exits 1)
  | none =>
    let origin ← addOrigin { file := s.file, lines := if s.hidden then #[] else sourceLines s.source }
    let code ← compileText origin s.source .statements
    let _ ← carry code names names []

/-! ## The end -/

/-- complains on the channel for errors as it is now -/
def complain (t : Text) : Eval Unit := do
  match ← moduleName? "sys" "stderr" with
  | some .none => return ()
  | some v => writeTo v t
  | none => modifyHost (·.say true (Raw.ofText t))

/-- how a script ends: with a status, or by a signal -/
inductive Ending
  | status (n : Nat)
  | signal (n : Nat)
  deriving DecidableEq, Repr

/-- the end that a failure brings to a script; the failure is shown if it has to be -/
def endingOf (n : Nat) : Eval Ending := do
  let w ← get
  let cls := (w.object n).cls
  if w.isBelow cls Base.systemExit.ref then
    match ← member? (.ref n) "code" with
    | none | some .none => return .status 0
    | some v =>
      match integer? w v with
      | some k => return .status (k % 256).toNat
      | none =>
        complain ((← strOf v) ++ ['\n'])
        return .status 1
  else
    match ← moduleName? "sys" "excepthook" with
    | some (.native _ _) | none => complain (← reportOf n true)
    | some hook =>
      let _ ← call hook [.ref cls, .ref n, ← traceValue (← failureAt n).trace]
    return if w.isBelow cls Base.keyboardInterrupt.ref then .signal 2 else .status 1

/-- functions that have been put off to the end are called, the latest first -/
def atEnd : (fuel : Nat) → Eval Unit
  | 0 => return ()
  | fuel + 1 => do
    match (← get).atEnd with
    | [] => return ()
    | (f, args, named) :: rest =>
      modify fun w => { w with atEnd := rest }
      tryCatch (do
        let _ ← callNamed f args named) fun s => do
          match s with
          | .raised n =>
            let shown ← reprOf f
            complain ("Exception ignored in atexit callback: " ++ shown ++ '\n' :: (← reportOf n true))
          | s => throw s
      atEnd fuel

/-- the end that a stop brings; a failure is shown -/
def settle (s : Stop) : Eval Ending := do
  match s with
  | .raised n =>
    modify fun w => { w with handling := .none }
    endingOf n
  | s => throw s

def Script.whole (s : Script) : Eval Ending := do
  let names ← prepare s
  let ending ← tryCatch (do
    s.work names
    return .status 0) fun stop => settle stop
  modify fun w => { w with handling := .none, depth := 0 }
  atEnd 1000000
  modifyHost (·.flush)
  let _ ← tree
  return ending

def Script.run (s : Script) (c : Tool.Call) : Tool.Answer :=
  let answer (w : World) (e : Ending) : Tool.Answer :=
    let (status, outcome) : Nat × Tool.Outcome := match e with
      | .status n => (n, .own)
      | .signal n => (128 + n, .signal n)
    { said := w.host.said.reverse, status, outcome, taken := if w.host.usedInput then .everything else .nothing
      tree := some w.host.tree, slept := w.host.slept }
  match s.whole (callerAt maxLevels) (startWorld c s) with
  | .ok ending w => answer w ending
  | .error stop w =>
    let ended (e : Ending) : Tool.Answer :=
      match (tree : Eval Tree) (callerAt 0) w with
      | .ok _ w => answer w e
      | .error _ w => answer w e
    match stop with
    | .exits status => ended (.status status)
    | .killed n => ended (.signal n)
    | .asks k => { answer w (.status 0) with ask := some k }
    | .raised _ => answer { w with host := w.host.flush } (.status 1)
    | .exhausted => answer { w with host := w.host.flush } (.status 1)

/-! ## The command line -/

/-- options of the tool, without a value -/
def plainOptions : Raw :=
  "bBdEiIOPqsSuvx"

def usage (c : Tool.Call) : Raw :=
  "\nusage: " ++ c.name ++ " [option] ... [-c cmd | -m mod | file | -] [arg] ...\nTry \x60python -h' for more information."

def Script.with (s : Script) (options : Raw) (c : Tool.Call) : Script :=
  let isSet (name : Raw) : Bool := (c.environment.find? (·.1 = name)).any fun v => v.2 ≠ []
  { s with
    direct := 'u' ∈ options || isSet "PYTHONUNBUFFERED"
    keepsRead := !('B' ∈ options || isSet "PYTHONDONTWRITEBYTECODE") }

def fromFile (c : Tool.Call) (options : Raw) : List Raw → Tool.Answer
  | [] => (Script.with { file := "<stdin>", source := Raw.toText c.input, arguments := [[]], hidden := true, fromInput := true } options c).run c
  | file :: rest =>
    let name := Raw.toText file
    let path := pathIn c.here.path name
    let path := if name.head? = some '/' then name else path
    let arguments := (file :: rest).map Raw.toText
    match c.read file with
    | .ok bytes =>
      let source := Raw.toText bytes
      if Tool.Call.isInputName file then
        (Script.with { file := name, source, arguments, hidden := true, fromInput := true } options c).run c
      else
        let real : Text := match c.tree.real c.here name with
          | .ok p => p
          | .error _ => path
        let home := ((real.reverse.dropWhile (· ≠ '/')).drop 1).reverse
        (Script.with { file := path, source, arguments, home } options c).run c
    | .error .isDirectory =>
      match c.read (file ++ "/__main__.py") with
      | .ok bytes =>
        (Script.with { file := pathIn path "__main__.py", source := Raw.toText bytes, arguments, home := path } options c).run c
      | .error _ => .fail ("/usr/bin/" ++ c.name ++ ": can't find '__main__' module in " ++ Raw.ofText (Strings.quoted path)) 1
    | .error e =>
      .fail (c.name ++ ": can't open file " ++ Raw.ofText (Strings.quoted path) ++ ": [Errno " ++ Text.ofNat e.number ++ "] " ++
        e.words) 2

/-- what the command line asks for, with the options so far -/
def fromArguments (c : Tool.Call) : (fuel : Nat) → (options : Raw) → List Raw → Tool.Answer
  | 0, _, _ => {}
  | fuel + 1, options, args =>
    let typed (source : Raw) (arguments : List Raw) : Tool.Answer :=
      (Script.with { file := "<string>", source := Raw.toText source, arguments := arguments.map Raw.toText, hidden := true } options
        c).run c
    let fromInput (arguments : List Raw) : Tool.Answer :=
      (Script.with { file := "<stdin>", source := Raw.toText c.input, arguments := arguments.map Raw.toText, hidden := true
                     fromInput := true } options c).run c
    let module (name : Raw) (arguments : List Raw) : Tool.Answer :=
      (Script.with { file := Raw.toText name, source := [], arguments := (name :: arguments).map Raw.toText, home := c.here.path
                     module := some (Raw.toText name) } options c).run c
    match args with
    | [] => fromInput [[]]
    | ['-'] :: rest => fromInput (['-'] :: rest)
    | ['-', '-'] :: rest => fromFile c options rest
    | ['-', 'c'] :: rest =>
      match rest with
      | source :: rest => typed source (['-', 'c'] :: rest)
      | [] => .fail ("Argument expected for the -c option" ++ usage c) 2
    | ['-', 'm'] :: rest =>
      match rest with
      | name :: rest => module name rest
      | [] => .fail ("Argument expected for the -m option" ++ usage c) 2
    | ('-' :: '-' :: 'v' :: _) :: _ | ['-', 'V'] :: _ => .print ("Python " ++ version ++ ['\n'])
    | ['-', 'W'] :: _ :: rest | ['-', 'X'] :: _ :: rest => fromArguments c fuel options rest
    | ('-' :: letters) :: rest =>
      if letters.all fun l => l ∈ plainOptions then fromArguments c fuel (options ++ letters) rest
      else
        match letters.span fun l => l ∈ plainOptions with
        | (before, 'c' :: source) =>
          if source = [] then fromArguments c fuel (options ++ before) (['-', 'c'] :: rest)
          else typed source (['-', 'c'] :: rest)
        | (before, 'm' :: name) =>
          if name = [] then fromArguments c fuel (options ++ before) (['-', 'm'] :: rest) else module name rest
        | (_, 'V' :: _) => .print ("Python " ++ version ++ ['\n'])
        | (before, 'W' :: _) | (before, 'X' :: _) => fromArguments c fuel (options ++ before) rest
        | (_, l :: _) => .fail ("Unknown option: -" ++ l :: usage c) 2
        | (_, []) => {}
    | rest => fromFile c options rest

/-- the tool that carries scripts out -/
def interpreter (c : Tool.Call) : Tool.Answer :=
  fromArguments c (c.arguments.length + 2) [] c.arguments

end IncludeAudit.Offside
