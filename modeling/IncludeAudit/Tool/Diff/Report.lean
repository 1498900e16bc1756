/-
How changes between two files are shown: as commands with the lines below them, with lines around them, side by side,
or as a script that makes one file from the other.

- `Style.report`: all changes in a style.
-/
import IncludeAudit.Tool.Diff.Script

namespace IncludeAudit.Tool.Diff

/-- a line of a file, and whether a line feed ends it -/
structure Line where
  text : Raw
  ended : Bool := true
  deriving DecidableEq, Repr, Inhabited

/-- how changes are shown -/
inductive Style
  | normal
  | unified (around : Nat)
  | context (around : Nat)
  | beside (width : Nat) (leftOnly suppress : Bool)
  | script
  | counted
  deriving DecidableEq, Repr

/-- two files to be shown -/
structure Pair where
  left : Array Line
  right : Array Line
  /-- names as they stand above the lines -/
  leftLabel : Raw := []
  rightLabel : Raw := []
  /-- tabs are shown as blanks -/
  expand : Bool := false
  /-- a tab in front of each line -/
  tab : Bool := false

/-- what is said of a last line without its end -/
def unended : Raw := "\\ No newline at end of file\n"

namespace Pair

/-- a tab as blanks up to the next stop -/
def expanded (t : Raw) : Raw :=
  (t.foldl (fun (acc : Raw × Nat) c =>
    if c = '\t' then
      let n := 8 - acc.2 % 8
      (List.replicate n ' ' ++ acc.1, acc.2 + n)
    else (c :: acc.1, acc.2 + 1)) ([], 0)).1.reverse

def line (p : Pair) (mark : Raw) (l : Line) : Raw :=
  let t := if p.expand then expanded l.text else l.text
  let mark := if p.tab then (mark.take 1) ++ ['\t'] else mark
  mark ++ t ++ '\n' :: if l.ended then [] else unended

def lines (p : Pair) (mark : Raw) (ls : Array Line) (first count : Nat) : Raw :=
  ((ls.toList.drop first).take count).flatMap (p.line mark)

end Pair

def rangeText (first count : Nat) : Raw :=
  if count ≤ 1 then Text.ofNat (first + count) else Text.ofNat (first + 1) ++ ',' :: Text.ofNat (first + count)

def Change.letter (c : Change) : Char :=
  if c.deleted = 0 then 'a' else if c.inserted = 0 then 'd' else 'c'

/-- one change as a command with its lines -/
def normalChange (p : Pair) (c : Change) : Raw :=
  let head := rangeText c.left c.deleted ++ c.letter :: rangeText c.right c.inserted ++ ['\n']
  head ++ p.lines "< " p.left c.left c.deleted ++ (if c.deleted ≠ 0 ∧ c.inserted ≠ 0 then ("---\n" : Raw) else []) ++
    p.lines "> " p.right c.right c.inserted

/-- changes that are so near to one another that they are shown together -/
def hunks (around : Nat) (cs : List Change) : List (List Change) :=
  cs.foldr (fun c hs =>
    match hs with
    | (d :: ds) :: rest =>
      if d.left - (c.left + c.deleted) ≤ 2 * around then (c :: d :: ds) :: rest else [c] :: hs
    | _ => [c] :: hs) []

/-- the part of both files that a hunk shows -/
structure Window where
  left : Nat
  leftCount : Nat
  right : Nat
  rightCount : Nat

/-- a hunk with the lines around it -/
def windowOf (p : Pair) (around : Nat) (h : List Change) : Window :=
  let first := h.headD ⟨0, 0, 0, 0⟩
  let last := h.getLastD first
  let before := min around (min first.left first.right)
  let leftEnd := last.left + last.deleted
  let rightEnd := last.right + last.inserted
  let after := min around (min (p.left.size - leftEnd) (p.right.size - rightEnd))
  let before := if first.left < around ∨ first.right < around then min first.left (min first.right around) else before
  { left := first.left - before, leftCount := leftEnd + after - (first.left - before)
    right := first.right - before, rightCount := rightEnd + after - (first.right - before) }

/-- a range of lines above a hunk -/
def unifiedRange (first count : Nat) : Raw :=
  if count = 1 then Text.ofNat (first + 1)
  else Text.ofNat (if count = 0 then first else first + 1) ++ ',' :: Text.ofNat count

def unifiedHunk (p : Pair) (around : Nat) (h : List Change) : Raw :=
  let w := windowOf p around h
  let head := "@@ -" ++ unifiedRange w.left w.leftCount ++ " +" ++ unifiedRange w.right w.rightCount ++ " @@\n"
  let (shown, i) := h.foldl (fun (acc : Raw × Nat) c =>
    (acc.1 ++ p.lines " " p.left acc.2 (c.left - acc.2) ++ p.lines "-" p.left c.left c.deleted ++
      p.lines "+" p.right c.right c.inserted, c.left + c.deleted)) ([], w.left)
  head ++ shown ++ p.lines " " p.left i (w.left + w.leftCount - i)

/-- a hunk with one file below the other -/
def contextHunk (p : Pair) (around : Nat) (h : List Change) : Raw :=
  let w := windowOf p around h
  let side (ls : Array Line) (first count : Nat) (mark : Raw) (spans : List (Nat × Nat × Bool)) : Raw :=
    let (shown, i) := spans.foldl (fun (acc : Raw × Nat) s =>
      let (at', n, both) := s
      (acc.1 ++ p.lines "  " ls acc.2 (at' - acc.2) ++ p.lines (if both then "! " else mark) ls at' n, at' + n)) ([], first)
    shown ++ p.lines "  " ls i (first + count - i)
  let both (c : Change) : Bool := c.deleted ≠ 0 && c.inserted ≠ 0
  let left :=
    if h.all fun c => c.deleted = 0 then []
    else side p.left w.left w.leftCount "- " (h.map fun c => (c.left, c.deleted, both c))
  let right :=
    if h.all fun c => c.inserted = 0 then []
    else side p.right w.right w.rightCount "+ " (h.map fun c => (c.right, c.inserted, both c))
  "***************\n*** " ++ rangeText w.left w.leftCount ++ " ****\n" ++ left ++ "--- " ++
    rangeText w.right w.rightCount ++ " ----\n" ++ right

/-- a change as a command of a script that goes from the end to the start -/
def scriptChange (p : Pair) (c : Change) : Raw :=
  let head := rangeText c.left c.deleted ++ c.letter :: ['\n']
  let body := ((p.right.toList.drop c.right).take c.inserted).flatMap fun l => l.text ++ ['\n']
  if c.inserted = 0 then head else head ++ body ++ ".\n"

/-- a change by its place and how many lines it concerns -/
def countedChange (p : Pair) (c : Change) : Raw :=
  let removed : Raw :=
    if c.deleted = 0 then [] else 'd' :: Text.ofNat (c.left + 1) ++ ' ' :: Text.ofNat c.deleted ++ ['\n']
  let added : Raw :=
    if c.inserted = 0 then []
    else
      'a' :: Text.ofNat (c.left + c.deleted) ++ ' ' :: Text.ofNat c.inserted ++ '\n' ::
        ((p.right.toList.drop c.right).take c.inserted).flatMap fun l => l.text ++ if l.ended then ['\n'] else []
  removed ++ added

/-! ## Side by side -/

/-- the widths of two columns -/
structure Columns where
  half : Nat
  second : Nat
  expand : Bool

def Columns.ofWidth (width : Nat) (expand : Bool) : Columns :=
  let t := if expand then 1 else 8
  let g := t + 3
  let unaligned := width / 2 + g / 2 + (if width % 2 = 1 ∧ g % 2 = 1 then 1 else 0)
  let off := unaligned - unaligned % t
  let half := min (off - 3) (width - off)
  { half, second := if half = 0 then width else off, expand }

/-- tabs from one column to another, as far as they go -/
def tabs : (fuel : Nat) → (from_ to_ : Nat) → Raw × Nat
  | 0, a, _ => ([], a)
  | fuel + 1, a, b =>
    let next := a + 8 - a % 8
    if next ≤ b then
      let (t, a) := tabs fuel next b
      ('\t' :: t, a)
    else ([], a)

def gap (c : Columns) (from_ to_ : Nat) : Raw :=
  let (t, a) := if c.expand then ([], from_) else tabs (to_ + 1) from_ to_
  t ++ List.replicate (to_ - a) ' '

/-- as much of a line as goes into a column that starts at `start`: the text, and where it ends -/
def halfLine (c : Columns) (start : Nat) (t : Raw) : Raw × Nat :=
  let bound := start + c.half
  let (shown, _, out) := t.foldl (fun (acc : Raw × Nat × Nat) ch =>
    let (shown, inside, out) := acc
    if ch = '\t' then
      let n := 8 - (inside - start) % 8
      if inside = out then
        let stop := out + n
        if c.expand then
          let stop := min stop bound
          (List.replicate (stop - out) ' ' ++ shown, inside + n, stop)
        else if stop < bound then ('\t' :: shown, inside + n, stop)
        else (shown, inside + n, out)
      else (shown, inside + n, out)
    else
      let inside := inside + 1
      if inside ≤ bound then (ch :: shown, inside, inside) else (shown, inside, out)) ([], start, start)
  (shown.reverse, out)

/-- two lines side by side with a sign between them -/
def besideLine (c : Columns) (left : Option Line) (sign : Char) (right : Option Line) : Raw :=
  let (l, column) :=
    match left with
    | some l => halfLine c 0 l.text
    | none => ([], 0)
  let leftEnds := left.any (·.ended)
  let rightEnds := right.any (·.ended)
  let sign := if sign = '|' ∧ leftEnds ≠ rightEnds then (if leftEnds then '/' else '\\') else sign
  let (mid, column) : Raw × Nat :=
    if sign = ' ' then ([], column)
    else
      let stop := (c.half + c.second - 1) / 2
      (gap c column stop ++ [sign], stop + 1)
  let r : Raw :=
    match right with
    | some r => if r.text = [] then [] else gap c column c.second ++ (halfLine c c.second r.text).1
    | none => []
  l ++ mid ++ r ++ if leftEnds || rightEnds then ['\n'] else []

/-- lines of both files up to two places -/
def besideCommon (p : Pair) (c : Columns) (leftOnly suppress : Bool) (i j count : Nat) : Raw :=
  if suppress then []
  else
    (List.range count).flatMap fun k =>
      let l := p.left.getD (i + k) default
      if leftOnly then besideLine c (some l) '(' none
      else besideLine c (some l) ' ' (some (p.right.getD (j + k) default))

/-- a change side by side -/
def besideChange (p : Pair) (c : Columns) (k : Change) : Raw :=
  let pairs := min k.deleted k.inserted
  let line (ls : Array Line) (i : Nat) : Option Line := some (ls.getD i default)
  ((List.range pairs).flatMap fun n => besideLine c (line p.left (k.left + n)) '|' (line p.right (k.right + n))) ++
    ((List.range (k.inserted - pairs)).flatMap fun n => besideLine c none '>' (line p.right (k.right + pairs + n))) ++
    ((List.range (k.deleted - pairs)).flatMap fun n => besideLine c (line p.left (k.left + pairs + n)) '<' none)

def Style.report (s : Style) (p : Pair) (cs : List Change) : Raw :=
  match s with
  | .normal => cs.flatMap (normalChange p)
  | .unified n =>
    if cs.isEmpty then []
    else "--- " ++ p.leftLabel ++ "\n+++ " ++ p.rightLabel ++ '\n' :: (hunks n cs).flatMap (unifiedHunk p n)
  | .context n =>
    if cs.isEmpty then []
    else "*** " ++ p.leftLabel ++ "\n--- " ++ p.rightLabel ++ '\n' :: (hunks n cs).flatMap (contextHunk p n)
  | .script => cs.reverse.flatMap (scriptChange p)
  | .counted => cs.flatMap (countedChange p)
  | .beside width leftOnly suppress =>
    let c := Columns.ofWidth width p.expand
    let (shown, i, j) := cs.foldl (fun (acc : Raw × Nat × Nat) k =>
      let (shown, i, j) := acc
      (shown ++ besideCommon p c leftOnly suppress i j (k.left - i) ++ besideChange p c k,
        k.left + k.deleted, k.right + k.inserted)) ([], 0, 0)
    shown ++ besideCommon p c leftOnly suppress i j (p.left.size - i)

end IncludeAudit.Tool.Diff
