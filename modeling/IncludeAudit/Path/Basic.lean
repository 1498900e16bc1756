/-
Paths as they are spelled, and the components that their spelling stands for. Two spellings are the same path when
their components agree: repeated slashes, inner dots and a closing slash make no difference, a leading dot does.

- `components`, `join`, `fileName`, `extension`: what a spelling stands for.
- `normal`: the lexical normal form, `databaseFile`: the file that a database setting means.
-/
import IncludeAudit.Text

namespace IncludeAudit

/-- a path is the text that spells it -/
abbrev Path := Text

/-- one step of a path -/
inductive Component
  | root
  | current
  | parent
  | name (n : Text)
  deriving DecidableEq, Repr

namespace Component

/-- what a piece between slashes stands for: nothing when it is empty or a dot -/
def ofPiece (p : Text) : Option Component :=
  if p = [] ∨ p = ['.'] then none
  else if p = ['.', '.'] then some .parent
  else some (.name p)

/-- the piece that spells a component; the root is the empty piece before the first slash -/
def piece : Component → Text
  | .root => []
  | .current => ['.']
  | .parent => ['.', '.']
  | .name n => n

end Component

namespace Path

def isAbsolute (p : Path) : Bool :=
  p.head? = some '/'

/-- the steps of a path; a dot counts only in front of a relative path -/
def components (p : Path) : List Component :=
  match Text.pieces '/' p with
  | [] => []
  | first :: rest =>
    let steps := rest.filterMap Component.ofPiece
    if p.head? = some '/' then .root :: steps
    else if first = ['.'] then .current :: steps
    else (Component.ofPiece first).toList ++ steps

/-- the plainest spelling of a list of steps -/
def ofComponents : List Component → Path
  | [.root] => ['/']
  | cs => Text.paste ['/'] (cs.map Component.piece)

/-- the two spellings are the same path -/
def same (p q : Path) : Bool :=
  components p = components q

/-- `q` seen from the directory `p`; an absolute `q` stays as it is -/
def join (p q : Path) : Path :=
  if isAbsolute q then q
  else if p = [] ∨ p.getLast? = some '/' then p ++ q
  else p ++ '/' :: q

/-- the last step when it is a name -/
def fileName (p : Path) : Option Text :=
  match (components p).getLast? with
  | some (.name n) => some n
  | _ => none

/-- the part of a file name behind its last dot; a dot in front is part of the name -/
def extensionOf (name : Text) : Option Text :=
  let ext := (name.reverse.takeWhile (· ≠ '.')).reverse
  if ext.length + 1 < name.length then some ext else none

def extension (p : Path) : Option Text :=
  (fileName p).bind extensionOf

/-- every directory above the path, nearest first, as far as its spelling goes -/
def ancestors (p : Path) : List Path :=
  let cs := components p
  (List.range cs.length).reverse.filterMap fun n =>
    if n = 0 ∧ cs.head? = some .root then none else some (ofComponents (cs.take n))

/-- the directory that holds the last step, a dot for a bare name -/
def parent (p : Path) : Path :=
  match ancestors p with
  | [] => ['.']
  | d :: _ => if d = [] then ['.'] else d

end Path
end IncludeAudit

/-!
## Normal forms

The lexical normal form of a path: dots vanish and `..` takes back the name before it. At the root there is nothing
to take back; in front of a relative path `..` stays. The file tree is never asked.
-/

namespace IncludeAudit.Path

/-- one more step on a normal list of steps, which is kept reversed -/
def push (done : List Component) (c : Component) : List Component :=
  match c, done with
  | .current, _ => done
  | .parent, .name _ :: rest => rest
  | .parent, .root :: _ => done
  | c, _ => c :: done

def normalSteps (cs : List Component) : List Component :=
  (cs.foldl push []).reverse

def normal (p : Path) : Path :=
  ofComponents (normalSteps (components p))

end IncludeAudit.Path

/-!
## Database files

Which file a database setting means. The setting names a file when its last name has the extension `json` in any
letter case, else a directory with the default file inside. Only the spelling decides, so a build directory that
does not exist yet means the same file as later on.
-/

namespace IncludeAudit.Path

/-- the file looked for in a directory -/
def databaseName : Text := "compile_commands.json"

/-- a closing slash, or a last name without the extension `json` -/
def namesDirectory (setting : Path) : Bool :=
  setting.getLast? = some '/' || (extension setting).map Text.lower ≠ some ("json" : Text)

/-- the database file of a project; the empty setting is the project root -/
def databaseFile (root setting : Path) : Path :=
  if setting = [] then join root databaseName
  else if namesDirectory setting then join (join root setting) databaseName
  else join root setting

end IncludeAudit.Path
