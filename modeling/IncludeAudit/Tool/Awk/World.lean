/-
The world of a running program: its variables and arrays, the record with its fields, and what it reads and writes.
Fields are cut out of the record when they are asked for, and the record is put together again when a field has
changed.

- `World`, `Eval`: the state and computations in it, `field`, `setField`, `variable_`, `setVariable`: what programs see.
-/
import IncludeAudit.Tool.Awk.Search
import IncludeAudit.Tool.Awk.Syntax
import IncludeAudit.Tool.Awk.Table

namespace IncludeAudit.Tool.Awk

/-- what a variable holds -/
inductive Slot
  | scalar (v : Value)
  | array (n : Nat)
  /-- nothing yet; the array if it turns out to be one -/
  | either (n : Nat)
  deriving Inhabited

/-- output that is open -/
structure Sink where
  outlet : Outlet
  name : Raw
  /-- what waits to be written, the latest first -/
  chunks : List Raw := []

/-- input that is open besides the main one -/
structure Feed where
  name : Raw
  isCommand : Bool
  rest : Raw
  /-- how the command has ended -/
  status : Nat := 0

/-- everything that a program can see and change -/
structure World where
  call : Call
  names : Array Raw
  globals : Array Slot
  parameters : Array Slot := #[]
  tables : Array Table := #[]
  record : Raw := []
  fields : Array Value := #[]
  /-- the fields are those of the record -/
  isCut : Bool := false
  /-- the record is that of the fields -/
  isJoined : Bool := true
  /-- ranges of rules that are open -/
  ranges : Array Bool := #[]
  /-- what is left of the input -/
  input : Raw
  usesInput : Bool := false
  /-- what is left of the file that is read -/
  main : Raw := []
  /-- a file is read -/
  isOpen : Bool := false
  /-- the file that is read is the input -/
  onInput : Bool := false
  /-- the argument that comes next -/
  argument : Nat := 1
  /-- a file or the input has been opened -/
  hasRead : Bool := false
  feeds : List Feed := []
  /-- the one that was used last comes first -/
  sinks : List Sink := []
  /-- what has been written, the latest first; true for the error channel -/
  said : List (Bool × Raw) := []
  /-- output that waits, the latest first -/
  held : List Raw := []
  tree : Tree
  told : List Told
  /-- expressions that have been read, by their texts -/
  searches : List (Raw × Regex) := []
  seed : Value := .number 0
  random : Nat := 1
  status : Nat := 0

/-- how a computation stops early -/
inductive Stop
  | next
  | nextFile
  | exit
  /-- the program cannot go on -/
  | fault (message : Raw)
  /-- a command has to come first -/
  | asks (a : Ask)
  /-- the depth that is allowed has been used up -/
  | exhausted

/-- a computation in the world of a program -/
abbrev Eval := EStateM Stop World

/-! ## Slots -/

/-- what a variable holds -/
def World.slot (w : World) : Name → Slot
  | .global n => w.globals.getD n (.scalar .unset)
  | .parameter n => w.parameters.getD n (.scalar .unset)

/-- changes what a variable holds -/
def World.setSlot (w : World) (n : Name) (s : Slot) : World :=
  match n with
  | .global n => { w with globals := w.globals.setIfInBounds n s }
  | .parameter n => { w with parameters := w.parameters.setIfInBounds n s }

/-- the value of a variable of all rules, without looking at fields -/
def World.plain (w : World) (n : Raw) : Value :=
  match w.slot (.global (special n)) with
  | .scalar v => v
  | _ => .unset

/-- changes a variable of all rules -/
def World.setPlain (w : World) (n : Raw) (v : Value) : World :=
  w.setSlot (.global (special n)) (.scalar v)

/-- the format of numbers as texts -/
def World.format (w : World) : Raw :=
  (w.plain "CONVFMT").shown "%.6g"

/-- the text of a special variable -/
def World.setting (w : World) (n : Raw) : Raw :=
  (w.plain n).shown w.format

/-- gives up with a message and where the program is -/
def refuse {α : Type} (message : Raw) : Eval α := do
  let w ← get
  let place : Raw := "\tFILENAME=\"" ++ w.setting "FILENAME" ++ "\" FNR=" ++ w.setting "FNR" ++ " NR=" ++ w.setting "NR"
  throw (.fault ("run time error: " ++ message ++ '\n' :: place))

def textOf (v : Value) : Eval Raw := do
  let w ← get
  return v.shown w.format

/-- the array that a variable stands for -/
def arrayOf (n : Name) : Eval Nat := do
  let w ← get
  match w.slot n with
  | .array k => return k
  | .either k =>
    set (w.setSlot n (.array k))
    return k
  | .scalar .unset =>
    let k := w.tables.size
    set { w.setSlot n (.array k) with tables := w.tables.push {} }
    return k
  | .scalar _ => refuse "illegal reference to variable"

/-- changes an array -/
def setTable (k : Nat) (t : Table) : Eval Unit :=
  modify fun w => { w with tables := w.tables.setIfInBounds k t }

/-- takes an array out of the world to change it -/
def withTable {α : Type} (k : Nat) (f : Table → α × Table) : Eval α := do
  let w ← get
  let t := w.tables.getD k {}
  set { w with tables := w.tables.setIfInBounds k {} }
  let (a, t) := f t
  setTable k t
  return a

/-! ## Searching -/

/-- expressions that are kept -/
def maxSearches : Nat := 16

/-- the expression that a text spells -/
def searchOf (t : Raw) : Eval Regex := do
  let w ← get
  match (w.searches.find? (·.1 = t)).map (·.2) with
  | some r => return r
  | none =>
    match readSearch t with
    | .ok r =>
      set { w with searches := ((t, r) :: w.searches).take maxSearches }
      return r
    | .error e => refuse ("regular expression compile failed (" ++ e ++ ")\n" ++ t)

/-! ## Records and fields -/

def blankWords (t : Raw) : List Raw :=
  let isBlank (c : Char) : Bool := c = ' ' || c = '\t' || c = '\n'
  let (ws, last) := t.foldr (fun c (acc : List Raw × Raw) =>
    if isBlank c then (if acc.2 = [] then acc.1 else acc.2 :: acc.1, []) else (acc.1, c :: acc.2)) ([], [])
  if last = [] then ws else last :: ws

/-- the pieces of a text between matches that are not empty -/
def piecesBetween (r : Regex) (t : Raw) : List Raw :=
  let found := (Regex.findAll {} r t).filter fun p => p.1.position < p.2.position
  let (ps, rest, _) := found.foldl (fun (acc : List Raw × Raw × Nat) p =>
    let (ps, rest, position) := acc
    (rest.take (p.1.position - position) :: ps, p.2.rest, p.2.position)) ([], t, 0)
  (rest :: ps).reverse

/-- how a text is cut into pieces -/
inductive Cut
  | blanks
  | everywhere
  | at_ (c : Char)
  | search (r : Regex)

/-- the way of cutting that a text stands for -/
def cutOf (separator : Raw) : Eval Cut := do
  match separator with
  | [] => return .everywhere
  | [' '] => return .blanks
  | [c] => return .at_ c
  | t =>
    let r ← searchOf t
    return .search r

def Cut.pieces (c : Cut) (t : Raw) : List Raw :=
  if t = [] then []
  else
    match c with
    | .blanks => blankWords t
    | .everywhere => t.map fun c => [c]
    | .at_ c => Text.pieces c t
    | .search r => piecesBetween r t

/-- cuts the record into fields, unless that has been done -/
def cutRecord : Eval Unit := do
  let w ← get
  if w.isCut then return ()
  else
    let c ← cutOf (w.setting "FS")
    modify fun w => { w with fields := ((c.pieces w.record).map Value.given).toArray, isCut := true }

/-- puts the record together from its fields, unless that has been done -/
def joinRecord : Eval Unit := do
  let w ← get
  if w.isJoined then return ()
  else
    let t := Text.paste (w.setting "OFS") (w.fields.toList.map fun v => v.shown w.format)
    set { w with record := t, isJoined := true }

def setRecord (t : Raw) : Eval Unit :=
  modify fun w => { w with record := t, isCut := false, isJoined := true }

def setFields (fs : Array Value) : Eval Unit :=
  modify fun w => { w with fields := fs, isCut := true, isJoined := false }

def field (n : Int) : Eval Value := do
  if n < 0 then refuse ("negative field index $" ++ Text.ofInt n)
  else if n = 0 then
    joinRecord
    let w ← get
    return .given w.record
  else
    cutRecord
    let w ← get
    return w.fields.getD (n.toNat - 1) .unset

/-- more fields than a record has -/
def maxFields : Nat := 1000000

def setField (n : Int) (v : Value) : Eval Unit := do
  if n < 0 then refuse ("negative field index $" ++ Text.ofInt n)
  else if n = 0 then
    let t ← textOf v
    setRecord t
  else if (maxFields : Int) < n then refuse "program limit exceeded: maximum number of fields"
  else
    cutRecord
    let w ← get
    let k := n.toNat
    let fs := w.fields ++ Array.replicate (k - w.fields.size) (.text [])
    setFields (fs.setIfInBounds (k - 1) v)

/-! ## Variables -/

def variable_ (n : Name) : Eval Value := do
  if n = .global 0 then
    cutRecord
    let w ← get
    return .ofNat w.fields.size
  else
    let w ← get
    match w.slot n with
    | .scalar v => return v
    | .either _ => return .unset
    | .array _ =>
      let name : Raw :=
        match n with
        | .global k => w.names.getD k []
        | .parameter _ => "parameter"
      refuse ("illegal reference to array " ++ name)

def setVariable (n : Name) (v : Value) : Eval Unit := do
  if n = .global 0 then
    cutRecord
    let w ← get
    let k := (truncated v.float).toNat
    if v.float < 0 then refuse "negative value assigned to NF"
    else if maxFields < k then refuse "program limit exceeded: maximum number of fields"
    else setFields (w.fields.take k ++ Array.replicate (k - w.fields.size) (.text []))
  else
    -- the record at hand is cut as before
    if n = .global (special "FS") then cutRecord
    modify fun w => w.setSlot n (.scalar v)

/-- one more record has been read -/
def countRecord : Eval Unit :=
  modify fun w =>
    let up (w : World) (n : Raw) : World := w.setPlain n (.number ((w.plain n).float + 1))
    up (up w "NR") "FNR"

end IncludeAudit.Tool.Awk
