/-
A session: a project root, its settings, and the live view of its database. Preparing a file looks up its entry and
builds both invocations, unless the database is not valid or has no entry for the file.
-/
import IncludeAudit.Database.Basic
import IncludeAudit.Settings.Basic
import IncludeAudit.Cache.State

/-!
## Invocations

What is run for one source file: the analysis, and the fix script that takes in the analysis. Both run in the
directory of the file's database entry.
-/

namespace IncludeAudit

/-- a program, its arguments and the directory to run it in -/
structure Invocation where
  program : Path
  arguments : List Text
  directory : Path
  deriving DecidableEq, Repr

namespace Invocation

def commandLine (i : Invocation) : Text :=
  Command.ofWords (i.program :: i.arguments)

def analysis (s : Settings Path) (root : Path) (e : Entry) : Invocation where
  program := s.tool
  arguments := (s.options root).arguments e.command
  directory := e.directory

def fix (s : Settings Path) (e : Entry) : Invocation where
  program := s.fixScript
  arguments := s.fixArguments ++ ["--basedir=" ++ e.directory]
  directory := e.directory

def toJson (i : Invocation) : Json :=
  .object [("program", .string i.program), ("args", .strings i.arguments), ("cwd", .string i.directory)]

end Invocation
end IncludeAudit

namespace IncludeAudit

/-- one project at work -/
structure Session where
  root : Path
  settings : Settings Path
  cache : Cache.St
  deriving DecidableEq, Repr

/-- all that is needed to process one file -/
structure Prepared where
  file : Path
  entry : Entry
  analysis : Invocation
  fix : Invocation
  deriving DecidableEq, Repr

namespace Session

/-- why a file is not processed -/
inductive Refusal
  | databaseInvalid (path : Option Path) (status : Status)
  | noEntry (file : Path)
  deriving DecidableEq, Repr

def Refusal.message : Refusal → Text
  | .databaseInvalid path status =>
    "compilation database " ++ path.getD "<none>" ++ " is missing or invalid (" ++ status.display ++ ")"
  | .noEntry file => "no compile command found for " ++ file

/-- a session whose first load has started -/
def init (root : Path) (settings : Settings Path) (watching : Bool) : Session :=
  { root, settings, cache := Cache.init (some root) settings.database watching }

/-- other settings; the database moves when they name another one -/
def apply (s : Session) (settings : Settings Path) : Session :=
  { s with
    cache := if s.settings.sameDatabase settings then s.cache else Cache.repoint s.cache settings.database
    settings }

def step (s : Session) (op : Cache.Op) : Session :=
  { s with cache := Cache.step s.cache op }

/-- both invocations for a file with a given entry -/
def prepared (s : Session) (file : Path) (e : Entry) : Prepared where
  file := file
  entry := e
  analysis := .analysis s.settings s.root e
  fix := .fix s.settings e

/-! ## Preparing a file

A call first waits, then looks whether the database is valid. If it is not, the call waits once more and reads the
status. If it is, the call makes the identity of the file, waits once more and reads the entry. Loads may start and
end, and the tree may change, between any two of these. -/

/-- how far a call has come -/
inductive Preparing
  /-- waits for a generation, then looks whether the database is valid -/
  | judging (target : Nat)
  /-- the database was not valid: waits, then names the status -/
  | explaining (path : Option Path) (target : Nat)
  /-- the database was valid: makes the identity of the file -/
  | identifying
  /-- waits, then looks for the entry under a key -/
  | seeking (key : Option Path) (target : Nat)
  | done (answer : Except Refusal Prepared)

def asked (s : Session) : Preparing :=
  .judging (Cache.target s.cache)

/-- a call goes on as far as the next point at which other things may happen, unless it has to wait longer -/
def advance (t : Tree) (here : Place) (s : Session) (file : Path) : Preparing → Preparing
  | .judging target =>
    if Cache.isReady s.cache target = false then .judging target
    else if Cache.isValid s.cache then .identifying
    else .explaining s.cache.path (Cache.target s.cache)
  | .explaining path target =>
    if Cache.isReady s.cache target = false then .explaining path target
    else .done (.error (.databaseInvalid path s.cache.status))
  | .identifying => .seeking (Cache.key? t here s.cache file) (Cache.target s.cache)
  | .seeking key target =>
    if Cache.isReady s.cache target = false then .seeking key target
    else
      match Cache.lookup s.cache key with
      | some e => .done (.ok (s.prepared file e))
      | none => .done (.error (.noEntry file))
  | .done answer => .done answer

/-- the answer for a file when nothing happens in between; the session has settled -/
def prepare (t : Tree) (here : Place) (s : Session) (file : Path) : Except Refusal Prepared :=
  let further := advance t here s file
  match further (further (further s.asked)) with
  | .done answer => answer
  | _ => .error (.databaseInvalid s.cache.path s.cache.status)

end Session
end IncludeAudit
