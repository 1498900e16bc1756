/-
Running an invocation. What a program does once it is started is up to the system, and is a parameter here. What it
prints on its two channels is collected, each channel is read as text, and the error channel comes last. The exit
status is reported and never an error; what is one is a program that cannot be started, or one that is lost while it
runs.
-/
import IncludeAudit.Session.Basic
import IncludeAudit.Text.Utf8

namespace IncludeAudit

/-- why a program was not started -/
inductive LaunchError
  | nulByte
  | os (e : OsError)
  deriving DecidableEq, Repr

def LaunchError.message : LaunchError → Text
  | .nulByte => "nul byte found in provided data"
  | .os e => e.message

/-- how the input of a program got through -/
inductive Fed
  | whole
  /-- the program has ended before it has read everything -/
  | brokenPipe
  | failed (why : OsError)
  deriving DecidableEq, Repr

/-- a program that has ended, with the tree that it leaves -/
structure Ended where
  output : List UInt8
  errors : List UInt8
  /-- none after a signal -/
  exitCode : Option Nat
  fed : Fed := .whole
  tree : Tree

/-- what can come of starting a program -/
inductive Launched
  | unstarted (why : LaunchError)
  /-- it was started, and its output cannot be collected -/
  | lost (why : OsError) (tree : Tree)
  | ended (e : Ended)

/-- what the system makes of an invocation in a tree, seen from a place, without input or on a text -/
abbrev Programs := Tree → Place → Invocation → Option Text → Launched

inductive ProcessError
  | spawn (program : Path) (why : LaunchError)
  | io (program : Path) (why : OsError)
  deriving DecidableEq, Repr

namespace ProcessError

def reason : ProcessError → Text
  | .spawn _ e => e.message
  | .io _ e => e.message

def message : ProcessError → Text
  | .spawn p e => "failed to start " ++ p ++ ": " ++ e.message
  | .io p e => "failed to communicate with " ++ p ++ ": " ++ e.message

end ProcessError

/-- what is left of a program that has ended; no exit code after a signal -/
structure Output where
  text : Text
  exitCode : Option Nat
  deriving DecidableEq, Repr

/-- the output of a program; that it has not read all of its input is no error -/
def Ended.result (e : Ended) (program : Path) (input : Option Text) : Except ProcessError Output :=
  match input, e.fed with
  | some _, .failed why => .error (.io program why)
  | _, _ => .ok { text := Utf8.decodeLossy e.output ++ Utf8.decodeLossy e.errors, exitCode := e.exitCode }

/-- runs a program, without input or on a text; the tree may change on the way -/
def Invocation.launch (i : Invocation) (programs : Programs) (t : Tree) (here : Place) (input : Option Text) :
    Tree × Except ProcessError Output :=
  match programs t here i input with
  | .unstarted why => (t, .error (.spawn i.program why))
  | .lost why t => (t, .error (.io i.program why))
  | .ended e => (e.tree, e.result i.program input)

end IncludeAudit

/-!
## Full runs

A full run on one file: the analysis, and unless it is left out, the fix script with the text of the analysis as its
input.
-/

namespace IncludeAudit.Session

inductive RunError
  | refused (r : Refusal)
  | process (e : ProcessError)
  deriving DecidableEq, Repr

structure Report where
  analysis : Output
  fix : Option Output
  deriving DecidableEq, Repr

/-- runs what was prepared for a file; what has happened to the tree stays, also when the fix script fails -/
def runPrepared (programs : Programs) (t : Tree) (here : Place) (p : Prepared) (fix : Bool) :
    Tree × Except RunError Report :=
  match p.analysis.launch programs t here none with
  | (t, .error e) => (t, .error (.process e))
  | (t, .ok analysis) =>
    if fix then
      match p.fix.launch programs t here (some analysis.text) with
      | (t, .error e) => (t, .error (.process e))
      | (t, .ok fixed) => (t, .ok { analysis, fix := some fixed })
    else (t, .ok { analysis, fix := none })

/-- runs the analysis on a file, and the fix script if it is wanted -/
def runOn (programs : Programs) (t : Tree) (here : Place) (s : Session) (file : Path) (fix : Bool) :
    Tree × Except RunError Report :=
  match s.prepare t here file with
  | .error r => (t, .error (.refused r))
  | .ok p => runPrepared programs t here p fix

end IncludeAudit.Session
