/-
The argument list of the analysis tool: first what is meant for the tool itself, each behind its own `-Xiwyu`
(mapping files, extra flags, the precompiled-header switch), then the compiler flags in their order.
-/
import IncludeAudit.Command.Words
import IncludeAudit.Flags.Filtered
import IncludeAudit.Path.Basic

namespace IncludeAudit

/-- what a user adds to every analysis of a project -/
structure Options where
  root : Path := []
  mappingFiles : List Text := []
  toolFlags : List Text := []
  deriving DecidableEq, Repr

namespace Options

/-- hands the next word through the compiler driver to the tool -/
def passthrough : Text := "-Xiwyu"

/-- tells the tool that the sources use a precompiled header -/
def pchInCode : Text := "--pch_in_code"

/-- a mapping file without quotes, seen from the project root -/
def mappingFile (o : Options) (file : Text) : Path :=
  Path.join o.root (file.filter (· ≠ '"'))

def toolWords (o : Options) (pchInUse : Bool) : List Text :=
  o.mappingFiles.map ("--mapping_file=" ++ o.mappingFile ·) ++ o.toolFlags ++ if pchInUse then [pchInCode] else []

/-- the whole argument list for flags that are filtered already -/
def assemble (o : Options) (f : Filtered) : List Text :=
  (o.toolWords f.pchInUse).flatMap (fun w => [passthrough, w]) ++ f.flags

def arguments (o : Options) (command : Text) : List Text :=
  o.assemble (Filtered.ofCommand (Command.words command))

end Options
end IncludeAudit
