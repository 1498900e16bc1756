/-
The settings of a project, and what follows from them: where the database is, what is added to an analysis, and the
flags of the fix script. Settings are the same for paths of any kind; all that follows from them is told for paths that
are text, and only such settings can be written.
-/
import IncludeAudit.Flags.Arguments
import IncludeAudit.Json.Value
import IncludeAudit.Path.System

namespace IncludeAudit

/-- settings with every key decided; the defaults are the values that no layer has touched -/
structure Settings (P : Type) [SystemPath P] where
  /-- the analysis tool -/
  tool : P := SystemPath.ofText "include-what-you-use"
  /-- the fix script -/
  fixScript : P := SystemPath.ofText "fix_includes.py"
  /-- the database file, or the directory that holds it -/
  database : P := SystemPath.ofText []
  mappingFiles : List Text := []
  toolFlags : List Text := []
  fixFlags : List Text := []
  safeHeaders : Bool := true
  comments : Bool := true
  reorder : Bool := true
  ignoreRe : Option Text := none
  onlyRe : Option Text := none
  deriving DecidableEq, Repr

namespace Settings

def sameDatabase (s u : Settings Path) : Bool :=
  Path.same s.database u.database

/-- the two settings agree in every key, paths by their steps -/
def same (s u : Settings Path) : Bool :=
  Path.same s.tool u.tool && Path.same s.fixScript u.fixScript && s.sameDatabase u &&
    ({ s with tool := [], fixScript := [], database := [] } : Settings Path) =
      { u with tool := [], fixScript := [], database := [] }

/-- what is added to every analysis of a project -/
def options (s : Settings Path) (root : Path) : Options :=
  { root, mappingFiles := s.mappingFiles, toolFlags := s.toolFlags }

def switch (on : Bool) (name : Text) : Text :=
  (if on then ("--" : Text) else ("--no" : Text)) ++ name

/-- the flags of the fix script, its switches first -/
def fixArguments (s : Settings Path) : List Text :=
  [switch s.safeHeaders "safe_headers", switch s.comments "comments", switch s.reorder "reorder"] ++
    (s.ignoreRe.map fun re : Text => ("--ignore_re=" : Text) ++ re).toList ++
    (s.onlyRe.map fun re : Text => ("--only_re=" : Text) ++ re).toList ++ s.fixFlags

inductive WriteError
  /-- a path that is not text -/
  | notText
  deriving DecidableEq, Repr

def WriteError.message : WriteError → Text
  | .notText => "path contains invalid UTF-8 characters"

def writePath {P : Type} [SystemPath P] (p : P) : Except WriteError Json :=
  match SystemPath.text? p with
  | some t => .ok (.string t)
  | none => .error .notText

/-- settings as they are written in a settings file, key by key up to the first that cannot be written -/
def write {P : Type} [SystemPath P] (s : Settings P) : Except WriteError Json := do
  let tool ← writePath s.tool
  let fixScript ← writePath s.fixScript
  let database ← writePath s.database
  return .object
    [("iwyu_path", tool),
     ("fix_includes_path", fixScript),
     ("compile_commands", database),
     ("mapping_files", .strings s.mappingFiles),
     ("iwyu_args", .strings s.toolFlags),
     ("fix_args", .strings s.fixFlags),
     ("fix_safe_headers", .bool s.safeHeaders),
     ("fix_comments", .bool s.comments),
     ("fix_reorder", .bool s.reorder),
     ("fix_ignore_re", .optional (s.ignoreRe.map .string)),
     ("fix_only_re", .optional (s.onlyRe.map .string))]

end Settings
end IncludeAudit
