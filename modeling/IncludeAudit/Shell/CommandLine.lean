/-
How a shell is called: options, and a command, a file or the input as the script.

- `CommandLine.read`: the words of a command line as such a call.
-/
import IncludeAudit.Shell.Settings

namespace IncludeAudit.Shell

/-- where a script comes from -/
inductive Source
  | text (t : Raw)
  | file (path : Raw)
  | input
  deriving DecidableEq, Repr

structure CommandLine where
  name : Raw
  arguments : List Raw := []
  source : Source := .input
  options : List Char := []
  /-- further options, switched on or off -/
  settings : List (Raw × Bool) := []
  deriving DecidableEq, Repr

namespace CommandLine

/-- why a shell cannot be called like this -/
inductive Misuse
  | letter (sign c : Char)
  /-- an option by its long name -/
  | option (name : Raw)
  /-- the name behind the letter for names -/
  | optionName (name : Raw)
  | settingName (name : Raw)
  | noCommand
  deriving DecidableEq, Repr

/-- how the wider shell is called -/
def synopsis : Raw :=
  let names : List Raw :=
    ["debug", "debugger", "dump-po-strings", "dump-strings", "help", "init-file", "login", "noediting", "noprofile",
     "norc", "posix", "pretty-print", "rcfile", "restricted", "verbose", "version"]
  let start : Raw :=
    "Usage:\tbash [GNU long option] [option] ...\n\tbash [GNU long option] [option] script-file ...\nGNU long options:\n"
  start ++ names.flatMap (fun n => '\t' :: '-' :: '-' :: n ++ ['\n']) ++
    ("Shell options:\n\t-ilrsD or -c command or -O shopt_option\t\t(invocation only)\n" ++
      "\t-abefhkmnptuvxBCEHPT or -o option\n" : Raw)

/-- what a shell says of a wrong call -/
def Misuse.message (wide : Bool) (name : Raw) : Misuse → Raw
  | .letter sign c =>
    if wide then name ++ ": " ++ [sign, c] ++ ": invalid option\n" ++ synopsis
    else name ++ ": 0: Illegal option " ++ [sign, c, '\n']
  | .option n => name ++ ": " ++ n ++ ": invalid option\n" ++ synopsis
  | .optionName n =>
    if wide then name ++ ": line 0: " ++ name ++ ": " ++ n ++ ": invalid option name\n"
    else name ++ ": 0: Illegal option -o " ++ n ++ ['\n']
  | .settingName n => name ++ ": line 0: " ++ n ++ ": invalid shell option name\n"
  | .noCommand =>
    name ++ (if wide then (": -c: option requires an argument\n" : Raw) else ": 0: -c requires an argument\n")

structure Options where
  letters : List Char := []
  settings : List (Raw × Bool) := []
  command : Bool := false
  stdin : Bool := false
  rest : List Raw := []
  deriving DecidableEq, Repr

/-- long options of the wider shell, with whether a value follows -/
def longOptions : List (Raw × Bool) :=
  [("debug", false), ("debugger", false), ("dump-po-strings", false), ("dump-strings", false), ("init-file", true),
   ("login", false), ("noediting", false), ("noprofile", false), ("norc", false), ("posix", false),
   ("pretty-print", false), ("rcfile", true), ("restricted", false), ("verbose", false)]

def readLong (o : Options) : (fuel : Nat) → List Raw → Except Misuse (Options × List Raw)
  | 0, ws => .ok (o, ws)
  | fuel + 1, ws =>
    match ws with
    | ('-' :: '-' :: c :: n) :: r =>
      match longOptions.find? (·.1 = c :: n) with
      | some (n, valued) =>
        let letters : List Char := if n = "posix" then ['6'] else if n = "verbose" then ['v'] else []
        readLong { o with letters := letters ++ o.letters } fuel (if valued then r.tail else r)
      | none => .error (.option ('-' :: '-' :: c :: n))
    | ws => .ok (o, ws)

def readOptions (wide : Bool) : (fuel : Nat) → List Raw → Options → Except Misuse Options
  | 0, _, o => .ok o
  | _, [], o => .ok o
  | fuel + 1, a :: r, o =>
    if a = ['-', '-'] ∨ a = ['-'] then .ok { o with rest := r }
    else
      match a with
      | sign :: letters =>
        if (sign = '-' ∨ sign = '+') ∧ letters ≠ [] then
          let known : Raw := if wide then "abefhkmnptuvxBCEHPTcsiolrDO" else "celosfIimnxvVECabup"
          match letters.find? (· ∉ known) with
          | some c => .error (.letter sign c)
          | none =>
            let on : Bool := sign = '-'
            let set : List Char := letters.filter fun c => c ∉ ("csolrDO" : Raw)
            let kept := o.letters.filter (· ∉ set)
            let o := { o with
              letters := if on then set ++ kept else kept
              command := o.command || 'c' ∈ letters
              stdin := o.stdin || 's' ∈ letters }
            if 'O' ∈ letters ∧ wide then
              match r with
              | n :: r =>
                if St.settingNames.contains n then
                  readOptions wide fuel r { o with settings := o.settings ++ [(n, on)] }
                else .error (.settingName n)
              | [] => .ok o
            else if 'o' ∈ letters then
              match r with
              | n :: r =>
                match St.optionOf? wide n with
                | some c =>
                  let others := o.letters.filter (· ≠ c)
                  readOptions wide fuel r { o with letters := if on then c :: others else others }
                | none => .error (.optionName n)
              | [] => .ok o
            else readOptions wide fuel r o
        else .ok { o with rest := a :: r }
      | [] => .ok { o with rest := a :: r }

/-- what the words of a command line ask for; the program's own name comes first -/
def read (wide : Bool) : List Raw → Except Misuse CommandLine
  | [] => .ok { name := "sh" }
  | name :: arguments => do
    let fuel := arguments.length + 1
    let usual : Options := { letters := if wide then ['h', 'B', '4'] else [] }
    let (o, rest) ← if wide then readLong usual fuel arguments else .ok (usual, arguments)
    let o ← readOptions wide fuel rest o
    let call : CommandLine := { name, options := o.letters, settings := o.settings }
    let fromInput : List Char := if o.stdin ∨ o.rest.isEmpty then ['s'] else []
    if o.command then
      match o.rest with
      | [] => .error .noCommand
      | text :: r =>
        return { call with
          name := r.headD name, arguments := r.tail, source := .text text
          options := (if wide then ['c'] else []) ++ o.letters }
    else
      match o.rest with
      | file :: r =>
        if o.stdin then return { call with arguments := o.rest, options := fromInput ++ o.letters }
        else return { call with name := file, arguments := r, source := .file file }
      | [] => return { call with options := fromInput ++ o.letters }

end CommandLine
end IncludeAudit.Shell
