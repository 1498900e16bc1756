/-
The command: it opens the log file, finds the project root, reads the settings and does what is asked for. A failure
is printed with the error behind it and ends with status 2; a file that cannot be processed ends with status 1.

What the system decides is given from outside: the tree, what becomes of a started program, and where the configuration
of the user is kept. Left out are the lines of the log, the wording of help and of complaints about the command line,
the text of completions, arguments that are not text, and whether a file may be read.
-/
import IncludeAudit.Cli.Request
import IncludeAudit.Cli.Watching
import IncludeAudit.Session.Launch

namespace IncludeAudit.Cli

/-- what the command finds around itself -/
structure Host where
  tree : Tree
  here : Place
  /-- the directory where the system keeps the configuration of the user, if it knows one -/
  configuration : Option Path
  programs : Programs

/-- what the command leaves behind -/
structure Result where
  exitCode : Nat
  output : Text := []
  errors : Text := []
  tree : Tree

/-- either the command is done, or it goes on until it is interrupted -/
inductive Outcome
  | finished (r : Result)
  | watching (s : Scene)

/-- why nothing could be done -/
inductive Failure
  | logFile (path : Path) (why : OsError)
  | root (path : Path) (why : OsError)
  | settings (why : Settings.FileError)
  | process (why : ProcessError)
  deriving DecidableEq, Repr

def Failure.message : Failure → Text
  | .logFile p e => "failed to open log file " ++ p ++ ": " ++ e.message
  | .root p e => "project root " ++ p ++ " not found: " ++ e.message
  | .settings e => e.message ++ ": " ++ e.reason
  | .process e => e.message ++ ": " ++ e.reason

namespace Result

def done (tree : Tree) (output : Text) : Result :=
  { exitCode := 0, output, tree }

def failed (tree : Tree) (f : Failure) : Result :=
  { exitCode := 2, errors := Text.lines ["error: " ++ f.message], tree }

def refused (tree : Tree) (r : Session.Refusal) : Result :=
  { exitCode := 1, errors := Text.lines [r.message], tree }

end Result

/-! ## What is printed -/

/-- stands between the analysis and the fix script -/
def divider : Text :=
  List.replicate 60 '='

def showReport (r : Session.Report) : Text :=
  r.analysis.text ++ (r.fix.map fun f => Text.lines [divider] ++ f.text).getD []

def showPrepared (p : Prepared) : Text :=
  Text.lines
    ["file:      " ++ p.file,
     "directory: " ++ p.entry.directory,
     "command:   " ++ p.entry.command,
     "analysis:  " ++ p.analysis.commandLine,
     "fix:       " ++ p.fix.commandLine]

def preparedJson (p : Prepared) : Json :=
  .object
    [("file", .string p.file),
     ("directory", .string p.entry.directory),
     ("command", .string p.entry.command),
     ("analysis", p.analysis.toJson),
     ("fix", p.fix.toJson)]

def showStatus (c : Cache.St) : Text :=
  Text.lines
    ["database: " ++ c.path.getD "<none>",
     "status:   " ++ c.status.display,
     "entries:  " ++ Text.ofNat c.entries.size]

/-- the command line that `translate` is given: one word is the whole line, more are its words -/
def lineOfWords : List Text → Text
  | [line] => line
  | ws => Command.ofWords ws

/-! ## The command -/

namespace Host

def userFile? (h : Host) : Option Path :=
  h.configuration.map Settings.userFile

/-- opens the log file, which is made when it is missing -/
def openLog (h : Host) (r : Request) : Except Failure Host :=
  match r.logFile with
  | none => .ok h
  | some p =>
    match h.tree.append h.here p [] with
    | .ok (tree, _) => .ok { h with tree }
    | .error e => .error (.logFile p e)

/-- the canonical spelling of the project root -/
def rootOf (h : Host) (r : Request) : Except Failure Path :=
  let named := r.root.getD h.here.path
  match h.tree.real h.here named with
  | .ok root => .ok root
  | .error e => .error (.root named e)

def settingsOf (h : Host) (r : Request) (root : Path) : Except Failure (Settings Path) :=
  match Watching.settingsOf h.tree h.here h.userFile? root r.layer with
  | .ok s => .ok s
  | .error e => .error (.settings e)

/-- a session whose database has been loaded -/
def session (h : Host) (root : Path) (s : Settings Path) : Session :=
  let opened := Session.init root s false
  { opened with cache := Cache.settleAll h.tree h.here opened.cache }

def run (h : Host) (s : Session) (file : Path) (fix : Bool) : Result :=
  match Session.runOn h.programs h.tree h.here s file fix with
  | (tree, .ok report) => .done tree (showReport report)
  | (tree, .error (.refused r)) => .refused tree r
  | (tree, .error (.process e)) => .failed tree (.process e)

def args (h : Host) (s : Session) (file : Path) (format : Format) : Result :=
  match Session.prepare h.tree h.here s file with
  | .error r => .refused h.tree r
  | .ok p =>
    .done h.tree
      (match format with
       | .text => showPrepared p
       | .json => Text.lines [(preparedJson p).pretty])

def translate (h : Host) (root : Path) (s : Settings Path) (words : List Text) : Result :=
  .done h.tree (Text.lines [Command.ofWords ((s.options root).arguments (lineOfWords words))])

def status (h : Host) (s : Session) : Result :=
  { exitCode := if Cache.isValid s.cache then 0 else 1, output := showStatus s.cache, tree := h.tree }

def perform (h : Host) (r : Request) (root : Path) (s : Settings Path) : Outcome :=
  match r.task with
  | .run file fix => .finished (h.run (h.session root s) file fix)
  | .args file format => .finished (h.args (h.session root s) file format)
  | .translate words => .finished (h.translate root s words)
  | .status => .finished (h.status (h.session root s))
  | .watch => .watching { tree := h.tree, here := h.here, watching := .start root s h.userFile? r.layer }
  | .completions shell => .finished (.done h.tree (completions shell))

/-- carries out a request; completions need no project -/
def carryOut (h : Host) (r : Request) : Outcome :=
  match h.openLog r with
  | .error f => .finished (.failed h.tree f)
  | .ok h =>
    match r.task with
    | .completions shell => .finished (.done h.tree (completions shell))
    | _ =>
      let found : Except Failure (Path × Settings Path) := do
        let root ← h.rootOf r
        return (root, ← h.settingsOf r root)
      match found with
      | .error f => .finished (.failed h.tree f)
      | .ok (root, s) => h.perform r root s

def answer (h : Host) (argv : List Text) : Outcome :=
  match Request.parse argv with
  | .ok r => h.carryOut r
  | .error u => .finished { exitCode := u.exitCode, output := u.output, errors := u.errors, tree := h.tree }

end Host

end IncludeAudit.Cli
