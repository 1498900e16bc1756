/-
What can be given on the command line. There are two levels: in front of the verb, and behind it. The shared options
may stand at either level, and each verb adds its own options and what it takes without a name.
-/
import IncludeAudit.Path.Basic

namespace IncludeAudit.Cli

/-- why a command line is not carried out -/
inductive Usage
  | invalidSubcommand
  | unknownArgument
  | invalidValue
  | missingRequiredArgument
  | argumentConflict
  | tooManyValues
  | missingSubcommand
  | displayHelp
  | displayHelpOnMissing
  | displayVersion
  deriving DecidableEq, Repr

/-- asking for help or the version is no error -/
def Usage.exitCode : Usage → Nat
  | .displayHelp | .displayVersion => 0
  | _ => 2

/-- what an argument says -/
inductive Key
  | root
  | database
  | tool
  | fixScript
  | mappingFile
  | toolFlag
  | fixFlag
  | logFile
  | verbose
  | help
  | version
  | noFix
  | format
  | file
  | word
  | shell
  deriving DecidableEq, Repr

/-- the texts that an argument takes -/
inductive Domain
  | all
  | notEmpty
  | oneOf (values : List Text)
  deriving DecidableEq, Repr

def Domain.accepts : Domain → Text → Bool
  | .all, _ => true
  | .notEmpty, t => t ≠ []
  | .oneOf values, t => t ∈ values

/-- how an option is given -/
inductive Kind
  /-- without a value, at most once -/
  | switch
  /-- with a value, at most once -/
  | single (domain : Domain)
  /-- with a value, any number of times; the value may begin with a hyphen -/
  | list (hyphens : Bool)
  | help
  | version
  deriving DecidableEq, Repr

def Kind.takesValue : Kind → Bool
  | .single _ | .list _ => true
  | _ => false

structure Choice where
  key : Key
  long : Text
  short : Option Char := none
  kind : Kind
  deriving DecidableEq, Repr

/-- what a verb takes without a name; it is never left out -/
inductive Positional
  | single (key : Key) (domain : Domain)
  /-- everything from the first word on -/
  | words (key : Key)
  deriving DecidableEq, Repr

def Positional.key : Positional → Key
  | .single key _ => key
  | .words key => key

inductive Verb
  | run
  | args
  | translate
  | status
  | watch
  | completions
  deriving DecidableEq, Repr

namespace Verb

def name : Verb → Text
  | .run => "run"
  | .args => "args"
  | .translate => "translate"
  | .status => "status"
  | .watch => "watch"
  | .completions => "completions"

def all : List Verb :=
  [.run, .args, .translate, .status, .watch, .completions]

def ofName? (t : Text) : Option Verb :=
  all.find? (·.name = t)

end Verb

/-- one of the two levels of a command line -/
structure Level where
  options : List Choice
  positional : Option Positional := none
  verbs : Bool := false
  deriving DecidableEq, Repr

/-- the options that may stand at either level -/
def shared : List Choice :=
  [{ key := .root, long := "root", kind := .single .notEmpty },
   { key := .database, long := "compile-commands", kind := .single .notEmpty },
   { key := .tool, long := "iwyu", kind := .single .notEmpty },
   { key := .fixScript, long := "fix-includes", kind := .single .notEmpty },
   { key := .mappingFile, long := "mapping-file", kind := .list false },
   { key := .toolFlag, long := "iwyu-arg", kind := .list true },
   { key := .fixFlag, long := "fix-arg", kind := .list true },
   { key := .verbose, long := "verbose", short := some 'v', kind := .switch },
   { key := .logFile, long := "log-file", kind := .single .notEmpty },
   { key := .help, long := "help", short := some 'h', kind := .help }]

def formats : List Text :=
  ["text", "json"]

def shells : List Text :=
  ["bash", "zsh", "fish", "powershell", "elvish"]

namespace Level

def top : Level where
  options := shared ++ [{ key := .version, long := "version", short := some 'V', kind := .version }]
  verbs := true

def ofVerb : Verb → Level
  | .run =>
    { options := shared ++ [{ key := .noFix, long := "no-fix", kind := .switch }]
      positional := some (.single .file .notEmpty) }
  | .args =>
    { options := shared ++ [{ key := .format, long := "format", short := some 'f', kind := .single (.oneOf formats) }]
      positional := some (.single .file .notEmpty) }
  | .translate => { options := shared, positional := some (.words .word) }
  | .status | .watch => { options := shared }
  | .completions => { options := shared, positional := some (.single .shell (.oneOf shells)) }

def long? (l : Level) (name : Text) : Option Choice :=
  l.options.find? (·.long = name)

def short? (l : Level) (c : Char) : Option Choice :=
  l.options.find? (·.short = some c)

/-- the level takes words, and so an option that it does not know may be one -/
def takesWords (l : Level) : Bool :=
  match l.positional with
  | some (.words _) => true
  | _ => false

/-- the verb that is named, `help` among them -/
def isVerb (l : Level) (t : Text) : Bool :=
  l.verbs && ((Verb.ofName? t).isSome || t = "help")

end Level

end IncludeAudit.Cli
