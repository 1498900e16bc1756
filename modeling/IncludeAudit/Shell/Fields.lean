/-
Words cut into fields. What an expansion gives is cut at separators; what was written in the script or stood in quotes
is not. Blank separators run together, any other one ends a field by itself.

- `Piece.fields`: the fields of the pieces of a word, `nextField?`: the first field of a line.
-/
import IncludeAudit.Text.Characters

namespace IncludeAudit.Shell

/-- a piece of an expanded word -/
inductive Piece
  | text (t : Raw) (quoted splits : Bool)
  /-- a field ends here -/
  | gap
  deriving DecidableEq, Repr

/-- a field with a mark on each character that stands for itself in a pattern -/
abbrev Field := List CharSet.Marked

def Field.text (f : Field) : Raw :=
  f.map (·.1)

/-- fields under way: the finished ones and the open one, both with the latest first -/
structure Cutting where
  finished : List Field := []
  current : Option Field := none
  /-- a blank separator has just ended a field, and a separator that follows belongs to it -/
  absorbs : Bool := false

namespace Cutting

/-- the open field ends -/
def finish (c : Cutting) (absorbs : Bool) : Cutting :=
  match c.current with
  | some f => { finished := f.reverse :: c.finished, absorbs }
  | none => { c with absorbs }

def add (c : Cutting) (x : CharSet.Marked) : Cutting :=
  { c with current := some (x :: c.current.getD []), absorbs := false }

/-- one more character of an expansion -/
def split (separators : Raw) (c : Cutting) (x : Char) : Cutting :=
  if x ∉ separators then c.add (x, false)
  else if x = ' ' ∨ x = '\t' ∨ x = '\n' then
    if c.current.isSome then c.finish true else c
  else if c.current.isSome then c.finish false
  else if c.absorbs then { c with absorbs := false }
  else { c with finished := [] :: c.finished }

def piece (separators : Raw) (c : Cutting) : Piece → Cutting
  | .gap => c.finish false
  | .text t quoted splits =>
    if splits then t.foldl (split separators) c
    else
      let c := if quoted then { c with current := some (c.current.getD []), absorbs := false } else c
      t.foldl (fun c x => c.add (x, quoted)) c

end Cutting

def Piece.fields (separators : Raw) (ps : List Piece) : List Field :=
  (((ps.foldl (Cutting.piece separators) {}).finish false).finished).reverse

/-- the pieces of a word in one, not cut -/
def Piece.whole (ps : List Piece) : Field :=
  ps.flatMap fun p =>
    match p with
    | .text t quoted _ => t.map fun c => (c, quoted)
    | .gap => [(' ', false)]

/-- a character with a mark when it is no separator in any case -/
abbrev Kept := Char × Bool

def isBlankSeparator (separators : Raw) (x : Kept) : Bool :=
  !x.2 && x.1 ∈ separators && (x.1 = ' ' || x.1 = '\t' || x.1 = '\n')

def nextField? (separators : Raw) (line : List Kept) : Option (List Kept × List Kept) :=
  match line.dropWhile (isBlankSeparator separators) with
  | [] => none
  | line =>
    let field := line.takeWhile fun x => x.2 || x.1 ∉ separators
    let behind := (line.drop field.length).dropWhile (isBlankSeparator separators)
    let blank := (line.drop field.length).length ≠ behind.length
    match behind with
    | x :: r =>
      if !x.2 && x.1 ∈ separators then some (field, r.dropWhile (isBlankSeparator separators))
      else if blank then some (field, behind)
      else some (field, behind)
    | [] => some (field, [])

/-- a line as values for so many names; the last one takes what is left, as it is if it has several fields -/
def lineValues (separators : Raw) : (names : Nat) → List Kept → List Raw
  | 0, _ => []
  | 1, line =>
    match nextField? separators line with
    | none => [[]]
    | some (field, rest) =>
      if (nextField? separators rest).isNone ∧ rest = [] then [field.map (·.1)]
      else
        let line := line.dropWhile (isBlankSeparator separators)
        [((line.reverse.dropWhile (isBlankSeparator separators)).reverse).map (·.1)]
  | names + 2, line =>
    match nextField? separators line with
    | none => [] :: lineValues separators (names + 1) []
    | some (field, rest) => field.map (·.1) :: lineValues separators (names + 1) rest

end IncludeAudit.Shell
