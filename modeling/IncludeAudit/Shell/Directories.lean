/-
The working directory of a shell and the directories that it may come back to.

- `St.changeDirectory`, `St.pushDirectory`, `St.popDirectory`, `St.showDirectories`.
-/
import IncludeAudit.Shell.Jobs
import IncludeAudit.Shell.Value

namespace IncludeAudit.Shell
namespace St

/-- an absolute path without dots, as far as its spelling tells; two slashes in front stay -/
def plainPath (p : Raw) : Raw :=
  let steps := (Text.pieces '/' p).foldl (fun (acc : List Raw) (x : Raw) =>
    if x = [] ∨ x = "." then acc
    else if x = ".." then acc.tail
    else x :: acc) []
  let doubled : Bool := ("//" : Raw).isPrefixOf p && !("///" : Raw).isPrefixOf p
  let path : Raw :=
    match steps with
    | [] => ['/']
    | _ => steps.reverse.flatMap ('/' :: ·)
  if doubled then '/' :: path else path

/-- moves to a directory by its path; where it is found in another place than its name says, and when one goes back,
the place is shown -/
def enter (s : St) (physical shown : Bool) (target : Raw) : Except OsError St :=
  let logical := plainPath (if target.head? = some '/' then target else s.directory ++ '/' :: target)
  let path := if physical then target else logical
  match s.world.tree.locate s.here (Raw.toText path) with
  | .error e => .error e
  | .ok place =>
    if s.world.tree.isDirectoryAt place = false then .error .notDirectory
    else
      let old := s.directory
      let new := if physical then Raw.ofText place.path else logical
      -- where programs are may have changed with the directory
      let found := if s.wide then s.found else s.found.map fun f => (f.1, f.2.1, f.2.2 + 1)
      let s := { s with here := place, found }
      let s := s.put "OLDPWD" { value := some old, exported := true }
      let s := s.put "PWD" { value := some new, exported := true }
      let s := if shown then s.write 1 (new ++ ['\n']) else s
      .ok { s with status := 0 }

/-- the directories in which a directory is looked for by its name, the empty one for this directory -/
def roots (s : St) (target : Raw) : List Raw :=
  let first := ((Text.pieces '/' target).headD [])
  if target.head? = some '/' ∨ first = "." ∨ first = ".." then []
  else
    match s.lookup? "CDPATH" with
    | some p => if p = [] then [] else Text.pieces ':' p
    | none => []

def changeDirectory (s : St) (arguments : List Raw) : St :=
  let letters : Raw := if s.wide then "LPe@" else "LP"
  let isOption (a : Raw) : Bool :=
    match a with
    | '-' :: c :: r => (c :: r).all fun d => d ∈ letters
    | _ => false
  let chosen := (arguments.takeWhile isOption).flatten.filter fun c => c = 'L' || c = 'P'
  let physical : Bool := chosen.getLast? = some 'P' || (chosen = [] && s.has 'P')
  let operands := arguments.dropWhile isOption
  let operands := if operands.head? = some "--" then operands.tail else operands
  let named : Except Raw (Raw × Bool) :=
    match operands with
    | [] =>
      match s.lookup? "HOME" with
      | some h => .ok (h, false)
      | none => if s.wide then .error "HOME not set" else .ok ([], false)
    | ['-'] :: _ =>
      match s.lookup? "OLDPWD" with
      | some p => .ok (p, true)
      | none => if s.wide then .error "OLDPWD not set" else .ok (s.directory, true)
    | t :: _ => .ok (t, false)
  if s.wide ∧ 1 < operands.length then s.complain "too many arguments" 1
  else
    match named with
    | .error message => s.complain message 1
    | .ok (target, back) =>
      if target = [] then { s with status := 0 }
      else
        let elsewhere := (if back then [] else s.roots target).findSome? fun root =>
          let path := if root = [] then target else root ++ '/' :: target
          (s.enter physical (root ≠ [] && root ≠ ['.']) path).toOption
        match elsewhere with
        | some s => s
        | none =>
          match s.enter physical back target with
          | .ok s => s
          | .error e =>
            if s.wide then s.complain (target ++ ": " ++ e.words) 1 else s.complain ("can't cd to " ++ target) 2

/-! ## Directories to come back to -/

def shownDirectory (s : St) (p : Raw) : Raw :=
  match s.lookup? "HOME" with
  | some h => if h ≠ [] ∧ (p = h ∨ (h ++ ['/']).isPrefixOf p) then '~' :: p.drop h.length else p
  | none => p

/-- a complaint about a number that is too large for the stack -/
def noDirectory (s : St) (number : Raw) : St :=
  if s.directories = [] then s.complain "directory stack empty" 1
  else s.complain (number ++ ": directory stack index out of range") 1

/-- a place in the stack, from the top behind a plus and from the bottom behind a minus -/
def stackPlace? (s : St) (a : Raw) : Option (Option Nat) :=
  let size := s.directories.length
  match a with
  | sign :: r =>
    if sign = '+' ∨ sign = '-' then
      some ((Raw.nat? r).bind fun n => if size < n then none else some (if sign = '+' then n else size - n))
    else none
  | [] => none

/-- a number that cannot be read -/
def badNumber (s : St) (a : Raw) : St :=
  (s.complain (a ++ ": invalid number") 2).usage

def showDirectories (s : St) (arguments : List Raw) : St :=
  let options : List Raw := ["-c", "-l", "-p", "-v"]
  let flags := arguments.filter fun a => options.contains a
  let others := arguments.filter fun a => !options.contains a && a ≠ "--"
  let has (o : Raw) : Bool := flags.contains o
  let shown (d : Raw) : Raw := if has "-l" then d else s.shownDirectory d
  let all := s.directory :: s.directories
  let numbered (n : Nat) (d : Raw) : Raw := if has "-v" then Raw.pad 2 false (Text.ofNat n) ++ "  " ++ shown d else shown d
  let s := { s with status := 0 }
  match others with
  | a :: _ =>
    match a with
    | sign :: number =>
      if sign = '+' ∨ sign = '-' then
        if (Raw.nat? number).isNone then s.badNumber a
        else
          match s.stackPlace? a with
          | some (some n) => s.write 1 (numbered n (all.getD n []) ++ ['\n'])
          | _ => s.noDirectory number
      else (s.complain (a ++ ": invalid option") 2).usage
    | [] => (s.complain (a ++ ": invalid option") 2).usage
  | [] =>
    if has "-c" then { s with directories := [] }
    else
      let rows := (List.range all.length).zip all |>.map fun p => numbered p.1 p.2
      s.write 1 (Text.paste (if has "-v" ∨ has "-p" then ['\n'] else [' ']) rows ++ ['\n'])

/-- the stack after a change, shown -/
def withStack (s : St) (directories : List Raw) : St :=
  { s with directories }.showDirectories []

/-- goes to a directory, and keeps the one before -/
def pushDirectory (s : St) (arguments : List Raw) : St :=
  let old := s.directory
  let stays : Bool := arguments.head? = some "-n"
  let operands := if stays then arguments.tail else arguments
  let operands := if operands.head? = some "--" then operands.tail else operands
  match operands, s.directories with
  | [], [] => s.complain "no other directory" 1
  | [], d :: rest =>
    let s' := s.changeDirectory [d]
    if s'.status = 0 then s'.withStack (old :: rest) else s'
  | a :: more, _ =>
    match (if a = ['-'] then none else s.stackPlace? a), a with
    | some place, _ :: number =>
      if (Raw.nat? number).isNone then s.badNumber a
      else
        match place with
        | none => s.noDirectory a
        | some n =>
          let all := old :: s.directories
          let turned := all.drop n ++ all.take n
          if stays then s.withStack turned.tail
          else
            let s' := s.changeDirectory [turned.headD []]
            if s'.status = 0 then s'.withStack turned.tail else s'
    | _, _ =>
      if stays then s.withStack (a :: s.directories)
      else
        let s' := s.changeDirectory (a :: more)
        if s'.status = 0 then s'.withStack (old :: s.directories) else s'

/-- goes back to the latest directory, or takes another one from the stack -/
def popDirectory (s : St) (arguments : List Raw) : St :=
  let stays : Bool := arguments.head? = some "-n"
  let operands := if stays then arguments.tail else arguments
  let top (_ : Unit) : St :=
    match s.directories with
    | [] => s.complain "directory stack empty" 1
    | d :: rest =>
      if stays then s.withStack rest
      else
        let s' := s.changeDirectory [d]
        if s'.status = 0 then s'.withStack rest else s'
  match operands with
  | [] => top ()
  | a :: _ =>
    match s.stackPlace? a with
    | some place =>
      if (Raw.nat? a.tail).isNone then s.badNumber a
      else
        match place with
        | none => s.noDirectory a
        | some 0 => top ()
        | some (n + 1) => s.withStack (s.directories.take n ++ s.directories.drop (n + 1))
    | none => (s.complain (a ++ ": invalid argument") 2).usage

end St
end IncludeAudit.Shell
