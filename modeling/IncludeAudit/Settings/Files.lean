/-
Settings files. Defaults come first, then the file of the user, then the file of the project; a file that is missing
is an empty layer, and the first file that cannot be read or understood decides the outcome.
-/
import IncludeAudit.Settings.Layer
import IncludeAudit.Tree.Walk

namespace IncludeAudit.Settings

inductive FileError
  | unreadable (path : Path) (why : Tree.ReadError)
  | malformed (path : Path) (why : Json.Error)
  deriving DecidableEq, Repr

namespace FileError

def reason : FileError → Text
  | .unreadable _ e => e.message
  | .malformed _ e => e.message

def message : FileError → Text
  | .unreadable p e => "failed to read settings file " ++ p ++ ": " ++ e.message
  | .malformed p e => "invalid settings file " ++ p ++ ": " ++ e.message

end FileError

def projectFile (root : Path) : Path :=
  Path.join root ".iwyu-assist.json"

/-- the settings file of a user, in the directory where the system keeps the configuration of that user -/
def userFile (configuration : Path) : Path :=
  Path.join (Path.join configuration "iwyu-assist") "settings.json"

variable {P : Type} [SystemPath P]

def layerAt (t : Tree) (here : Place) (path : Path) : Except FileError (Layer P) :=
  match t.readText here path with
  | .error (.os .noEntry) => .ok {}
  | .error e => .error (.unreadable path e)
  | .ok document =>
    match Layer.parse document with
    | .ok l => .ok l
    | .error e => .error (.malformed path e)

/-- settings with the layers of files on top, one after another -/
def applyFiles (t : Tree) (here : Place) (s : Settings P) : List Path → Except FileError (Settings P)
  | [] => .ok s
  | p :: ps =>
    match layerAt t here p with
    | .ok l => applyFiles t here (s.apply l) ps
    | .error e => .error e

/-- defaults with the file of the user and the file of the project -/
def loadFrom (t : Tree) (here : Place) (user project : Option Path) : Except FileError (Settings P) :=
  applyFiles t here {} (user.toList ++ project.toList)

def load (t : Tree) (here : Place) (user : Option Path) (root : Path) : Except FileError (Settings P) :=
  loadFrom t here user (some (projectFile root))

end IncludeAudit.Settings
