/-
All modules that come along, by name.

- `Library.find?`: a module by its name, `runNative`: a function of a module by the names of both.
-/
import IncludeAudit.Offside.Library.Bytes
import IncludeAudit.Offside.Library.Chance
import IncludeAudit.Offside.Library.Channels
import IncludeAudit.Offside.Library.Commands
import IncludeAudit.Offside.Library.Containers
import IncludeAudit.Offside.Library.Directories
import IncludeAudit.Offside.Library.Documents
import IncludeAudit.Offside.Library.Ground
import IncludeAudit.Offside.Library.Iteration
import IncludeAudit.Offside.Library.Languages
import IncludeAudit.Offside.Library.Moments
import IncludeAudit.Offside.Library.Notes
import IncludeAudit.Offside.Library.Patterns
import IncludeAudit.Offside.Library.Reckoning
import IncludeAudit.Offside.Library.Records
import IncludeAudit.Offside.Library.Selves
import IncludeAudit.Offside.Library.System
import IncludeAudit.Offside.Library.Together
import IncludeAudit.Offside.Library.Wording

namespace IncludeAudit.Offside

/-- the modules that come along -/
def Library.all : List Library :=
  containersLibraries ++ iterationLibraries ++ recordsLibraries ++ directoriesLibraries ++ patternsLibraries ++
    channelsLibraries ++ Ground.libraries ++ Reckoning.library :: wordingLibraries ++ documentsLibraries ++
    commandsLibraries ++ bytesLibraries ++ selvesLibraries ++ momentsLibraries ++
    togetherLibraries ++ chanceLibraries ++ notesLibraries ++
    languagesLibraries

def Library.find? (name : Text) : Option Library :=
  all.find? fun l => l.name.toList = name

/-- the module is one that others are inside of -/
def Library.hasParts (name : Text) : Bool :=
  all.any fun l => (name ++ ['.']).isPrefixOf l.name.toList

def classFunction (cls name : String) (g : Given) : Eval Value := do
  match cls, name with
  | "dict", "fromkeys" => dictFromKeys (g.at_ 0) { g with args := g.args.drop 1 }
  | "int", "from_bytes" => intFromBytes { g with args := g.args.drop 1 }
  | "str", "maketrans" => makeTable g
  | "bytes", "maketrans" | "bytearray", "maketrans" => makeByteTable g
  | "bytes", "fromhex" => return .bytes (← fromHex (← textArgument "fromhex() argument must be str, not " (g.at_ 1)))
  | "bytearray", "fromhex" =>
    make .bytearray (.bytes (← fromHex (← textArgument "fromhex() argument must be str, not " (g.at_ 1))))
  | "float", "fromhex" =>
    match hexFloat? (← textArgument "bad argument type for built-in operation" (g.at_ 1)) with
    | some x => return .float x
    | none => misvalued "invalid hexadecimal floating-point string"
  | "object", "__subclasshook__" => return .notImplemented
  | "object", "__init_subclass__" => return .none
  | "type", "__prepare__" => newDict []
  | _, "__class_getitem__" => call (← partOfTypes "GenericAlias") [g.at_ 0, g.at_ 1]
  | _, _ => return .none

/-- a function of a module that needs no script -/
def runNative (owner name : String) (g : Given) : Eval Value := do
  match owner with
  | "builtins" => everywhere name g
  | "__new__" => callMaker name g
  | "sys" => System.function name g
  | _ =>
    match Library.all.find? fun l => l.name = owner with
    | some l => l.run name g
    | none => classFunction owner name g

end IncludeAudit.Offside
