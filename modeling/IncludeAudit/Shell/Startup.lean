/-
How a shell starts: the variables that it has by itself, and what it takes over from its environment.

- `St.setUp`: a shell in front of its first command.
-/
import IncludeAudit.Shell.CommandLine
import IncludeAudit.Shell.Program

namespace IncludeAudit.Shell

def commonBindings : List (Raw × Variable) :=
  let plain (name value : Raw) : Raw × Variable := (name, { value := some value })
  [plain "OPTIND" "1", plain "IFS" " \t\n", plain "PS4" "+ ",
   plain "PATH" "/usr/local/sbin:/usr/local/bin:/usr/sbin:/usr/bin:/sbin:/bin"]

/-- variables that the plain shell starts with; `starter` is the number of the process around it -/
def plainBindings (starter : Raw) : List (Raw × Variable) :=
  let plain (name value : Raw) : Raw × Variable := (name, { value := some value })
  [plain "PPID" starter, plain "PS1" "# ", plain "PS2" "> "]

/-- variables that the wider shell starts with; `program` is the path of the shell, `starter` the number of the process
around it -/
def wideBindings (program starter : Raw) : List (Raw × Variable) :=
  let plain (name value : Raw) : Raw × Variable := (name, { value := some value })
  let fixed (name value : Raw) : Raw × Variable := (name, { value := some value, readonly := true, integer := true })
  let array (name : Raw) : Raw × Variable := (name, { elements := some [] })
  let table (name : Raw) : Raw × Variable := (name, { elements := some [], keyed := true })
  let other (name : Raw) (v : Variable) : Raw × Variable := (name, v)
  let known (name : Raw) : Raw × Variable := (name, {})
  let number (name : Raw) : Raw × Variable := (name, { integer := true })
  let version : List (Raw × Raw) :=
    (List.range 6).map Text.ofNat |>.zip ["5", "2", "15", "1", "release", "x86_64-pc-linux-gnu"]
  [fixed "UID" "0", fixed "EUID" "0", fixed "PPID" starter, plain "BASH" program,
   plain "BASH_VERSION" "5.2.15(1)-release", other "BASH_VERSINFO" { elements := some version, readonly := true },
   plain "HOSTTYPE" "x86_64", plain "MACHTYPE" "x86_64-pc-linux-gnu", plain "OSTYPE" "linux-gnu", plain "OPTERR" "1",
   plain "HOSTNAME" "localhost", plain "SHELL" "/bin/bash", plain "TERM" "dumb",
   plain "BASH_LOADABLES_PATH"
     "/usr/local/lib/bash:/usr/lib/bash:/opt/local/lib/bash:/usr/pkg/lib/bash:/opt/pkg/lib/bash:.",
   other "BASHOPTS" { readonly := true }, other "SHELLOPTS" { readonly := true }, other "OLDPWD" { exported := true },
   array "BASH_ARGC", array "BASH_ARGV", array "BASH_LINENO", array "BASH_SOURCE", array "DIRSTACK", array "GROUPS",
   array "FUNCNAME", table "BASH_ALIASES", table "BASH_CMDS",
   known "BASH_ARGV0", known "BASH_COMMAND", known "BASH_SUBSHELL", known "COMP_WORDBREAKS", known "EPOCHREALTIME",
   known "EPOCHSECONDS", known "LINENO", known "SECONDS", known "_",
   number "BASHPID", number "HISTCMD", number "RANDOM", number "SRANDOM"]

/-- the function that a variable of the environment hands on -/
def importedFunction? (name value : Raw) : Option (Raw × Nat × Script) :=
  let lead : Raw := "BASH_FUNC_"
  let signs : Raw := "%%"
  if lead.isPrefixOf name ∧ signs.isSuffixOf name ∧ ("() \x7b" : Raw).isPrefixOf value then
    let function := (name.drop lead.length).take (name.length - lead.length - signs.length)
    match readCommand { rest := function ++ ' ' :: value ++ ['\n'], line := 1, wide := true } with
    | .ok (some (.define f line b), _) => if f = function then some (f, line, b) else none
    | _ => none
  else none

namespace St

/-- how many shells run inside one another, with this one -/
def depthOf (environment : List (Raw × Raw)) : Raw :=
  match (environment.find? (·.1 = ("SHLVL" : Raw))).bind fun p => Raw.int? p.2 with
  | some n => Text.ofInt (if n < 0 then 0 else if 999 ≤ n then 1 else n + 1)
  | none => ['1']

def setUp (s : St) (c : CommandLine) (environment : List (Raw × Raw)) : St :=
  let reset : List Raw := if s.wide then ["IFS", "OPTIND"] else ["IFS", "OPTIND", "PPID"]
  let search := (environment.find? (·.1 = ("PATH" : Raw))).map (·.2)
  let program : Raw :=
    if '/' ∈ s.name then s.name else (Image.lookup s.world.tree s.here search s.name).toOption.getD "/bin/bash"
  let given := (bindingsOf environment).filter fun g => !reset.contains g.1
  let starter := processText s.starter
  let own := commonBindings ++ if s.wide then wideBindings program starter else plainBindings starter
  let fresh := own.filter fun v => reset.contains v.1 || !given.any fun g => g.1 = v.1
  let s := { s with arguments := c.arguments, options := c.options, bindings := given ++ fresh }
  if s.wide then
    let settings := c.settings.foldl (fun (names : List Raw) (p : Raw × Bool) =>
      if p.2 then p.1 :: names.filter (· ≠ p.1) else names.filter (· ≠ p.1)) usualSettings
    let functions : List (Raw × Nat × Script) := environment.filterMap fun p => importedFunction? p.1 p.2
    let lastWord := ((environment.find? (·.1 = ['_'])).map (·.2)).getD s.name
    let s : St := { s with settings, functions, exportedFunctions := functions.map (·.1), lastWord }
    let s := s.put "SHLVL" { value := some (depthOf environment), exported := true }
    let locked (s : St) (name : Raw) : St :=
      s.put name { exported := ((s.variable_ name).map (·.exported)).getD false, readonly := true }
    let s := locked (locked s "BASHOPTS") "SHELLOPTS"
    let s := s.put "PWD" { value := some s.directory, exported := true }
    let s :=
      match s.lookup? "OLDPWD" with
      | some p =>
        if s.world.tree.isDirectory s.here (Raw.toText p) then s else s.put "OLDPWD" { exported := true }
      | none => s
    match c.source with
    | .text t => s.put "BASH_EXECUTION_STRING" { value := some t }
    | _ => s
  else s.put "PWD" { value := some s.directory, exported := true }

end St
end IncludeAudit.Shell
