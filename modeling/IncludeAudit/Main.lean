/-
The program: it looks up on the disk what the command looks at, lets the command work on the tree that it has found,
prints, and brings the changes of the tree back to the disk. Programs are run by the shell of this library, so they
have to be scripts. A watch looks again and again until it is interrupted.
-/
import IncludeAudit.Cli.Footprint
import IncludeAudit.Shell.System

namespace IncludeAudit.Program

open IncludeAudit.Cli

def spelled (p : Path) : String :=
  String.ofList p

def placeOf (p : Path) : Place :=
  ((Text.pieces '/' p).filter (· ≠ [])).reverse

def canonical? (p : Path) : IO (Option Path) := do
  try
    return some (toString (← IO.FS.realPath (spelled p))).toList
  catch _ => return none

/-- what stands at a canonical path: a file when it can be read as one -/
def nodeAt (p : Path) : IO Node := do
  try
    return .file (← IO.FS.readBinFile (spelled p)).toList Node.programMode
  catch _ => return .directory

/-- adds what stands at a canonical path, with the directories above it -/
def addCanonical (t : Tree) (p : Path) : IO Tree := do
  let place := placeOf p
  let above := (List.range place.length).filterMap fun n => if n = 0 then none else some (place.drop n)
  let t := above.foldl (fun t d => if (t.node? d).isSome then t else t.put d .directory) t
  if place = [] ∨ (t.node? place).isSome then return t else return t.put place (← nodeAt p)

/-- adds what stands on the way from a place, step by step; a link is kept as a link to what it leads to -/
def addWay (t : Tree) (here : Place) : List Text → IO Tree
  | [] => return t
  | p :: rest => do
    if p = [] ∨ p = ['.'] then addWay t here rest
    else if p = ['.', '.'] then addWay t here.tail rest
    else
      let place : Place := p :: here
      match ← canonical? place.path with
      | none => return t
      | some q => do
        let t ← addCanonical t q
        let t := if placeOf q = place ∨ (t.node? place).isSome then t else t.put place (.link q)
        addWay t (placeOf q) rest

/-- looks up paths until the request names no more of them; every round goes one step further -/
def lookUp (r : Request) : (rounds : Nat) → (known : List Path) → Host → IO Host
  | 0, _, h => return h
  | n + 1, known, h => do
    let new := (h.footprint r).filter (· ∉ known)
    if new.isEmpty then return h
    let tree ← new.foldlM (fun t p => addWay t (Tree.origin h.here p) (Text.pieces '/' p)) h.tree
    lookUp r n (known ++ new) { h with tree }

def handedOn : List Text :=
  ["PATH", "HOME", "XDG_CONFIG_HOME", "USER", "LOGNAME", "SHELL", "TERM", "LANG", "LC_ALL", "TMPDIR", "PWD"]

def givenVariables : IO Shell.Variables := do
  let values ← handedOn.mapM fun n => do
    return (← IO.getEnv (spelled n)).map fun v => (n, v.toList)
  return values.filterMap id

/-- the surroundings of the program, with nothing known of the tree but the tools and the way to the working
directory -/
def surroundings : IO Host := do
  let here := (toString (← IO.currentDir)).toList
  let given ← givenVariables
  return {
    tree := ← addCanonical Shell.systemTree here
    here := placeOf here
    configuration := given.configuration?
    programs := Shell.programs given }

def bring (t : Tree) : Change → IO Unit
  | .created p | .modified p =>
    match t.node? p with
    | some (.file bytes _) => IO.FS.writeBinFile (spelled p.path) ⟨bytes.toArray⟩
    | some .directory => IO.FS.createDirAll (spelled p.path)
    | _ => return
  | .removed p => IO.FS.removeFile (spelled p.path)
  | .moved _ _ => return

/-- brings the changes to the disk, directories before what is in them -/
def bringAll (before after : Tree) : IO Unit := do
  for c in (Tree.differences before after).reverse do
    try bring after c catch _ => pure ()

/-- prints the lines of a watch and looks again -/
partial def keepWatching (h : Host) (r : Request) (s : Scene) : IO UInt32 := do
  let s := s.pass
  for line in s.printed do
    IO.println (spelled line)
  (← IO.getStdout).flush
  IO.sleep 200
  let found ← lookUp r 6 [] h
  let s := { s with printed := [] }
  match s.edit fun t _ => .ok (found.tree, Tree.differences t found.tree) with
  | .ok s => keepWatching h r s
  | .error _ => keepWatching h r s

def carryOut (bare : Host) (r : Request) : IO UInt32 := do
  let h ← lookUp r 6 [] bare
  match h.carryOut r with
  | .finished result =>
    bringAll h.tree result.tree
    IO.print (spelled result.output)
    IO.eprint (spelled result.errors)
    return result.exitCode.toUInt32
  | .watching s => keepWatching bare r s

end IncludeAudit.Program

open IncludeAudit in
def main (arguments : List String) : IO UInt32 := do
  match Cli.Request.parse (arguments.map String.toList) with
  | .error u =>
    IO.print (Program.spelled u.output)
    IO.eprint (Program.spelled u.errors)
    return u.exitCode.toUInt32
  | .ok r => Program.carryOut (← Program.surroundings) r
