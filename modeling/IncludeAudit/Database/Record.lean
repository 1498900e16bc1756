/-
A record of a compilation database as it stands in the document, and the command that it gives. A record gives its
`command` unless that is blank, else its `arguments` written as one line, and nothing without either.
-/
import IncludeAudit.Command.Words
import IncludeAudit.Json.Typed

namespace IncludeAudit

/-- a record; every field may be missing -/
structure Record where
  directory : Option Text := none
  command : Option Text := none
  arguments : Option (List Text) := none
  file : Option Text := none
  deriving DecidableEq, Repr

namespace Record

def effectiveCommand? (r : Record) : Option Text :=
  match r.command.filter (!Text.isBlank ·), r.arguments.filter (· ≠ []) with
  | some command, _ => some command
  | none, some arguments => some (Command.ofWords arguments)
  | none, none => none

def namedFile? (r : Record) : Option Text :=
  r.file.filter (· ≠ [])

/-- file and command of a record that has both -/
def usable? (r : Record) : Option (Text × Text) :=
  match r.namedFile?, r.effectiveCommand? with
  | some file, some command => some (file, command)
  | _, _ => none

def namedDirectory? (r : Record) : Option Text :=
  r.directory.filter (· ≠ [])

/-- how a record is written: fields of other names are passed over -/
def shape : Json.Shape Record where
  name := "struct RawRecord"
  strict := false
  start := {}
  fields :=
    [.optional "directory" (Json.readText "a string") fun v r => { r with directory := v },
     .optional "command" (Json.readText "a string") fun v r => { r with command := v },
     .optional "arguments" (Json.readList (Json.readText "a string")) fun v r => { r with arguments := v },
     .optional "file" (Json.readText "a string") fun v r => { r with file := v }]

def readAll (document : Text) : Except Json.Error (List Record) :=
  Json.readDocument (Json.readList (Json.readRecord shape)) document

end Record
end IncludeAudit
