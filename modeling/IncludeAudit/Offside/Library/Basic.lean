/-
Modules that come along with the tool: each one has functions of its own, values, and a source that is carried out when
it is loaded.

- `Library`: a module, `Library.functionValues`: its functions.
-/
import IncludeAudit.Offside.Library.Builtins

namespace IncludeAudit.Offside

/-- a module that comes along -/
structure Library where
  name : String
  /-- names of functions that need no script, with blanks between them -/
  functions : String := ""
  /-- carries out one of these functions -/
  run : String → Given → Eval Value := fun _ _ => return .none
  values : Eval (List (Text × Value)) := return []
  /-- a script; every line of it stands behind a bar and a blank. A number behind `#@` is that of a line which failures
  show when they come through it -/
  source : String := ""
  /-- the file that failures name; nothing of a file in angle brackets is shown -/
  file : String := ""

namespace Library

def functionValues (l : Library) : List (Text × Value) :=
  (Raw.words l.functions.toList).map fun n => (n, .native l.name (String.ofList n))

/-- where the source of a module is kept, for those that have one -/
def fileValues (l : Library) : List (Text × Value) :=
  let file := l.file.toList
  if l.source = "" then []
  else if file = [] ∨ file.head? = some '<' then
    let path : Text := "/usr/lib/python3.11/" ++ (l.name.toList.map fun c => if c = '.' then '/' else c) ++ ".py"
    [("__file__", .str path)]
  else [("__file__", .str file)]

/-- the script without what stands in front of its lines -/
def sourceText (l : Library) : Text :=
  (Text.pieces '\n' l.source.toList).flatMap fun line => (line.dropWhile (· ≠ '|')).drop 2 ++ ['\n']

def numberSign : Text := "  #@"

def withoutNumber (line : Text) : Text :=
  match Strings.find? numberSign line with
  | some n => line.take n
  | none => line

/-- the source of a module -/
def origin (l : Library) : Origin :=
  let lines := Text.pieces '\n' l.sourceText
  let shown := lines.zipIdx.filterMap fun (line, i) =>
    (Strings.find? numberSign line).map fun n => (i + 1, Raw.toNat (line.drop (n + numberSign.length)))
  let isInside : Bool := l.file.toList.head? = some '<'
  { file := if l.file = "" then '<' :: l.name.toList ++ ['>'] else l.file.toList
    lines := if isInside ∨ shown.isEmpty then #[] else (lines.map withoutNumber).toArray
    hidden := true, shown }

end Library
end IncludeAudit.Offside
