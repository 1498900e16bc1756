/-
What a script can know about the tool that carries it out: its arguments, its channels, where modules come from, and the
failure that is being handled.

- `System.library`: the functions, `System.values`: the values that a script begins with.
-/
import IncludeAudit.Offside.Library.Basic
import IncludeAudit.Offside.Trace

namespace IncludeAudit.Offside.System

/-- the functions -/
def library : Library :=
  { name := "sys"
    functions := "exit exc_info exception intern getrecursionlimit setrecursionlimit getdefaultencoding " ++
      "getfilesystemencoding getfilesystemencodeerrors getsizeof getrefcount displayhook excepthook _getframe settrace " ++
      "setprofile gettrace getswitchinterval setswitchinterval is_finalizing call_tracing audit addaudithook __getattr__" }

def channel (number : Nat) : File :=
  match number with
  | 0 =>
    { stream := .input, name := .str "<stdin>", mode := ['r'], writes := false, encoding := "utf-8", errors := "strict"
      newline := some ['\n'], number := 0 }
  | 1 => { stream := .output, name := .str "<stdout>", mode := ['w'], reads := false, loaded := true, number := 1 }
  | _ =>
    { stream := .errors, name := .str "<stderr>", mode := ['w'], reads := false, loaded := true
      errors := "backslashreplace", number := 2 }

/-- modules that need not be found anywhere -/
def builtInNames : List Value :=
  Value.ofWords ("_abc _ast _bisect _blake2 _codecs _collections _csv _datetime _functools _io _json _locale _operator " ++
    "_random _signal _sre _stat _string _struct _symtable _thread _tracemalloc _warnings atexit builtins cmath errno " ++
    "faulthandler gc itertools marshal math posix pwd sys time unicodedata xxsubtype zlib")

/-- the values that a script begins with -/
def values (arguments : List Text) (path : List Text) (keepsRead : Bool) : Eval (List (Text × Value)) := do
  let w ← get
  let input ← make .textFile (.file (channel 0))
  let output ← make .textFile (.file (channel 1))
  let errors ← make .textFile (.file (channel 2))
  let path ← newList (path.map .str)
  let options ← newDict []
  let named : List (String × Value) :=
    [("argv", ← newList (arguments.map .str)), ("orig_argv", ← newList (arguments.map .str)), ("path", path),
     ("modules", .ref w.modules), ("stdin", input), ("stdout", output), ("stderr", errors), ("__stdin__", input),
     ("__stdout__", output), ("__stderr__", errors), ("maxsize", .int 0x7fffffffffffffff), ("maxunicode", .int 0x10ffff),
     ("byteorder", .str "little"), ("platform", .str "linux"), ("executable", .str "/usr/bin/python3"),
     ("version", .str "3.11.2 (main, Apr 28 2025, 14:11:48) [GCC 12.2.0]"), ("hexversion", .int 0x030b02f0),
     ("api_version", .int 1013), ("copyright", .str ""), ("prefix", .str "/usr"), ("exec_prefix", .str "/usr"),
     ("base_prefix", .str "/usr"), ("base_exec_prefix", .str "/usr"), ("dont_write_bytecode", .truth (!keepsRead)),
     ("warnoptions", ← newList []), ("_xoptions", options), ("path_hooks", ← newList []), ("meta_path", ← newList []),
     ("float_repr_style", .str "short"), ("builtin_module_names", .tuple builtInNames), ("platlibdir", .str "lib"),
     ("pycache_prefix", .none), ("ps1", .str ">>> "), ("ps2", .str "... ")]
  return named.map fun p => (p.1.toList, p.2)

/-- what is known of a failure: its class, itself and its way -/
def partsOfFailure (v : Value) : Eval Value := do
  match v with
  | .ref n =>
    let w ← get
    return .tuple [.ref (w.classOf v), v, ← traceValue (← failureAt n).trace]
  | _ => return .tuple [.none, .none, .none]

def function (name : String) (g : Given) : Eval Value := do
  match name with
  | "exit" => exitWith (g.at_ 0)
  | "exc_info" => partsOfFailure (← get).handling
  | "exception" => return (← get).handling
  | "intern" => return g.at_ 0
  | "getrecursionlimit" => return .int (← get).limit
  | "setrecursionlimit" =>
    let n ← wholeOf (g.at_ 0)
    if n < 1 then misvalued "recursion limit must be greater or equal than 1"
    modify fun w => { w with limit := n.toNat }
    return .none
  | "getdefaultencoding" | "getfilesystemencoding" => return .str "utf-8"
  | "getfilesystemencodeerrors" => return .str "surrogateescape"
  | "getsizeof" => return .int 64
  | "getrefcount" => return .int 2
  | "getswitchinterval" => return .float 0.005
  | "is_finalizing" => return .truth false
  | "displayhook" =>
    if !(g.at_ 0).isNone then
      match ← moduleName? "sys" "stdout" with
      | some out => writeTo out ((← reprOf (g.at_ 0)) ++ ['\n'])
      | none => pure ()
    return .none
  | "excepthook" =>
    match g.at_ 1, ← moduleName? "sys" "stderr" with
    | .ref n, some out => writeTo out (← reportOf n true)
    | _, _ => pure ()
    return .none
  | _ => return .none

end IncludeAudit.Offside.System
