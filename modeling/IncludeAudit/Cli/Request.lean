/-
A whole command line, read. A shared option that is given at both levels counts as it is given behind the verb.
-/
import IncludeAudit.Cli.Reading
import IncludeAudit.Settings.Layer

namespace IncludeAudit.Cli

inductive Format
  | text
  | json
  deriving DecidableEq, Repr

/-- what is to be done -/
inductive Task
  | run (file : Path) (fix : Bool)
  | args (file : Path) (format : Format)
  | translate (words : List Text)
  | status
  | watch
  | completions (shell : Text)
  deriving DecidableEq, Repr

/-- what is to be done, and how -/
structure Request where
  task : Task
  root : Option Path := none
  verbose : Bool := false
  logFile : Option Path := none
  /-- settings given on the command line -/
  layer : Layer Path := {}
  deriving DecidableEq, Repr

namespace Request

/-- the values of a key, those behind the verb if there are any -/
def valuesOf (outer inner : Reading) (key : Key) : List Text :=
  ((inner.values? key) <|> (outer.values? key)).getD []

def taskOf (v : Verb) (r : Reading) : Task :=
  let first (key : Key) : Text := ((r.values? key).getD []).headD []
  match v with
  | .run => .run (first .file) (r.values? .noFix).isNone
  | .args => .args (first .file) (if first .format = "json" then .json else .text)
  | .translate => .translate ((r.values? .word).getD [])
  | .status => .status
  | .watch => .watch
  | .completions => .completions (first .shell)

/-- the request of a verb with what has been read at both levels -/
def ofReadings (v : Verb) (outer inner : Reading) : Request :=
  let value (key : Key) : Option Text := (valuesOf outer inner key).head?
  let values (key : Key) : Option (List Text) :=
    let vs := valuesOf outer inner key
    if vs = [] then none else some vs
  { task := taskOf v inner
    root := value .root
    verbose := (inner.values? .verbose).isSome || (outer.values? .verbose).isSome
    logFile := value .logFile
    layer :=
      { tool := value .tool
        fixScript := value .fixScript
        database := value .database
        mappingFiles := values .mappingFile
        toolFlags := values .toolFlag
        fixFlags := values .fixFlag } }

/-- a command line without a verb -/
def withoutVerb (outer : Reading) : Usage :=
  if outer.given = [] then .displayHelpOnMissing else .missingSubcommand

/-- reads a command line; the level behind the verb is read to its end before the one in front of it ends -/
def parse (argv : List Text) : Except Usage Request := do
  let (outer, inside) ← Level.top.read {} argv
  match inside with
  | none => throw (withoutVerb (← Level.top.close outer))
  | some (v, rest) =>
    let (inner, _) ← (Level.ofVerb v).read {} rest
    let inner ← (Level.ofVerb v).close inner
    let outer ← Level.top.close outer
    return ofReadings v outer inner

end Request

end IncludeAudit.Cli

/-!
## Texts

What is printed about the command line itself: the overview, the version, the complaint about a command line that
cannot be carried out, and the completions for a shell.
-/

namespace IncludeAudit.Cli

def command : Text := "iwyu-assist"

def version : Text := command ++ " 0.1.0"

def Verb.about : Verb → Text
  | .run => "analyze a file and apply the suggested include changes"
  | .args => "print both invocations for a file without running them"
  | .translate => "turn a compiler command into arguments of the analysis tool"
  | .status => "show the state of the compilation database"
  | .watch => "report every change of the compilation database"
  | .completions => "print completions for a shell"

/-- the overview of verbs and shared options -/
def overview : Text :=
  let verbLine (v : Verb) : Text := "  " ++ v.name ++ ": " ++ v.about
  let optionLine (c : Choice) : Text :=
    let short : Text := (c.short.map fun x => ['-', x, ',', ' ']).getD []
    let value : Text := if c.kind.takesValue then " VALUE" else []
    "  " ++ short ++ "--" ++ c.long ++ value
  Text.lines
    (["usage: " ++ command ++ " [OPTIONS] COMMAND ...", [], "commands:"] ++ Verb.all.map verbLine ++
      [[], "options:"] ++ Level.top.options.map optionLine)

namespace Usage

def complaint : Usage → Text
  | .invalidSubcommand => "there is no such command"
  | .unknownArgument => "unexpected argument"
  | .invalidValue => "missing or invalid value for an argument"
  | .missingRequiredArgument => "a required argument was not given"
  | .argumentConflict => "an argument was given more than once"
  | .tooManyValues => "a value was given to an option that takes none"
  | .missingSubcommand => "a command is required"
  | .displayHelp | .displayHelpOnMissing | .displayVersion => []

def output : Usage → Text
  | .displayHelp => overview
  | .displayVersion => version ++ ['\n']
  | _ => []

def errors : Usage → Text
  | .displayHelp | .displayVersion => []
  | .displayHelpOnMissing => overview
  | u => Text.lines ["error: " ++ u.complaint, [], "for more information, try '--help'"]

end Usage

/-- the completions for a shell: the names of the verbs -/
def completions (shell : Text) : Text :=
  let names := Text.paste [' '] (Verb.all.map Verb.name ++ [("help" : Text)])
  if shell = "bash" then Text.lines ["complete -W \"" ++ names ++ "\" " ++ command]
  else if shell = "zsh" then Text.lines ["#compdef " ++ command, "_arguments '1:command:(" ++ names ++ ")'"]
  else if shell = "fish" then
    Text.lines ["complete -c " ++ command ++ " -n __fish_use_subcommand -f -a \"" ++ names ++ ['"']]
  else if shell = "powershell" then
    Text.lines
      ["Register-ArgumentCompleter -Native -CommandName " ++ command ++ " -ScriptBlock \x7b",
       "  param($word) -split \"" ++ names ++ "\" | Where-Object \x7b $_ -like \"$word*\" \x7d", "\x7d"]
  else Text.lines ["set edit:completion:arg-completer[" ++ command ++ "] = \x7b|@words| put " ++ names ++ " \x7d"]

end IncludeAudit.Cli
