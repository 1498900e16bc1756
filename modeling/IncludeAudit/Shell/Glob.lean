/-
Pathnames in place of patterns: the paths of the tree that fit a field, in order. A name that starts with a dot fits
only a pattern that starts with one.
-/
import IncludeAudit.Shell.Pattern
import IncludeAudit.Tree.Walk

namespace IncludeAudit.Shell

namespace Glob

def spanMarked (test : Char → Bool) (ms : List CharSet.Marked) : List CharSet.Marked × List CharSet.Marked :=
  ms.span fun m => test m.1

/-- the segments of a field, each with the slashes behind it -/
def segments : (fuel : Nat) → List CharSet.Marked → List (List CharSet.Marked × Raw)
  | 0, _ => []
  | _, [] => []
  | fuel + 1, ms =>
    let (segment, r) := spanMarked (· ≠ '/') ms
    let (slashes, r) := spanMarked (· = '/') r
    (segment, slashes.map (·.1)) :: segments fuel r

/-- how pathnames are found -/
structure Manner where
  pattern : Pattern.Manner := {}
  /-- names that start with a dot fit like others -/
  hidden : Bool := false
  /-- the names of a directory itself and of the one above are among its names -/
  dots : Bool := true
  /-- two stars stand for any directories -/
  deep : Bool := false
  deriving DecidableEq, Repr

/-- what a segment without special characters spells -/
def plain (ms : List CharSet.Marked) : Raw :=
  (Pattern.ofMarked { signs := [] } ms).filterMap fun g =>
    match g with
    | .char c => some c
    | .any => some '?'
    | .many => some '*'
    | _ => some '['

/-- something stands at a path, if only a link that leads nowhere -/
def isThere (t : Tree) (here : Place) (p : Raw) : Bool :=
  (t.lstat here (Raw.toText p)).toOption.isSome

/-- the names in the directory that a path leads to -/
def namesAt (t : Tree) (here : Place) (front : Raw) : List Raw :=
  match t.locate here (Raw.toText (if front = [] then ['.'] else front)) with
  | .error _ => []
  | .ok place => (t.namesIn place).map Raw.ofText

/-- the paths of what lies below a path, and whether each is a directory of its own; links are not followed -/
def under (m : Manner) (t : Tree) (here : Place) : (depth : Nat) → (front : Raw) → List (Raw × Bool)
  | 0, _ => []
  | depth + 1, front =>
    let names := (namesAt t here front).filter fun n => m.hidden || n.head? ≠ some '.'
    names.flatMap fun n =>
      let path := front ++ n
      let isDirectory : Bool :=
        match t.lstat here (Raw.toText path) with
        | .ok .directory => true
        | _ => false
      (path, isDirectory) :: if isDirectory then under m t here depth (path ++ ['/']) else []

/-- how deep directories are searched -/
def maxDepth : Nat := 64

/-- the paths that start with one of `fronts` and go on with the segments -/
def extend (m : Manner) (t : Tree) (here : Place) :
    List (List CharSet.Marked × Raw) → (fronts : List Raw) → Bool → List Raw
  | [], fronts, sure => if sure then fronts else fronts.filter (isThere t here)
  | (segment, slashes) :: rest, fronts, _ =>
    let inward : Raw → Text := if m.pattern.wide then Raw.characters else fun t => t
    let pattern := Pattern.ofMarked m.pattern (if m.pattern.wide then markedCharacters segment else segment)
    if m.deep ∧ segment = [('*', false), ('*', false)] then
      let found (front : Raw) : List Raw :=
        let inside := under m t here maxDepth front
        if slashes = [] then (if front = [] then [] else [front]) ++ inside.map (·.1)
        else front :: (inside.filter (·.2)).map (·.1 ++ slashes)
      extend m t here rest (fronts.flatMap found) true
    else if pattern.isOpen then
      let fitting (front : Raw) : List Raw :=
        let names := namesAt t here front
        let isDotted : Bool := pattern.start? = some '.'
        let dots : List Raw := if isDotted ∧ m.dots then [".", ".."] else []
        let fits (n : Raw) : Bool :=
          pattern.accepts (inward n) && (m.hidden || n.head? ≠ some '.' || isDotted)
        let found := (if names = [] ∧ !t.isDirectory here (Raw.toText (if front = [] then ['.'] else front)) then []
          else names ++ dots).filter fits
        let found := found.map (front ++ ·)
        if slashes = [] then found
        else (found.filter fun p => t.isDirectory here (Raw.toText p)).map (· ++ slashes)
      extend m t here rest (fronts.flatMap fitting) true
    else extend m t here rest (fronts.map (· ++ plain segment ++ slashes)) false

def paths (m : Manner) (t : Tree) (here : Place) (field : List CharSet.Marked) : List Raw :=
  let found := (extend m t here (segments (field.length + 1) field) [[]] false).mergeSort Raw.le
  if m.deep then found.eraseDups else found

def isSpecial (groups : Bool) (field : List CharSet.Marked) : Bool :=
  (field.zip (field.tail ++ [(' ', true)])).any fun (m, next) =>
    !m.2 && (m.1 = '*' || m.1 = '?' || m.1 = '[' || (groups && m.1 ∈ ("+@!" : Raw) && next = ('(', false)))

end Glob
end IncludeAudit.Shell
