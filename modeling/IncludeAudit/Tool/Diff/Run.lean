/-
Comparing files and directories.

- `diff`: which lines differ, `cmp`: the first byte that differs.
-/
import IncludeAudit.Regex.Reader
import IncludeAudit.Tool.Basic
import IncludeAudit.Tool.Calendar
import IncludeAudit.Tool.Diff.Report
import IncludeAudit.Tool.Listing

namespace IncludeAudit.Tool
namespace Diff

/-- what counts as a difference, and how it is told -/
structure Request where
  style : Style := .normal
  brief : Bool := false
  tellSame : Bool := false
  foldCase : Bool := false
  /-- blanks count as one, and not at all at the end of a line -/
  squeeze : Bool := false
  /-- blanks do not count -/
  blind : Bool := false
  /-- blanks at the end of a line do not count -/
  trimEnd : Bool := false
  /-- changes of empty lines do not count -/
  skipEmpty : Bool := false
  /-- changes of lines that match do not count -/
  skipped : List Regex := []
  asText : Bool := false
  deep : Bool := false
  /-- files that are missing count as empty -/
  missingEmpty : Bool := false
  labels : List Raw := []
  excluded : List Raw := []
  expand : Bool := false
  tab : Bool := false
  dropReturn : Bool := false
  /-- the options as they were given -/
  words : List Raw := []

def linesOf (dropReturn : Bool) (t : Raw) : List Line :=
  let (done, last) := t.foldl (fun (acc : List Line × Raw) c =>
    if c = '\n' then ({ text := acc.2.reverse } :: acc.1, []) else (acc.1, c :: acc.2)) ([], [])
  let all := (if last = [] then done else { text := last.reverse, ended := false } :: done).reverse
  if dropReturn then all.map fun l => if l.text.getLast? = some '\r' then { l with text := l.text.dropLast } else l else all

/-- blanks as one blank -/
def squeezed (t : Raw) : Raw :=
  (t.foldl (fun (acc : Raw × Bool) c =>
    if Raw.isSpace c then (acc.1, true)
    else if acc.2 then (c :: ' ' :: acc.1, false)
    else (c :: acc.1, false)) ([], false)).1.reverse

def Request.key (r : Request) (l : Line) : Raw × Bool :=
  let t := if r.foldCase then l.text.map Char.toLower else l.text
  let t :=
    if r.blind then t.filter fun c => !Raw.isSpace c
    else if r.squeeze then squeezed t
    else if r.trimEnd then (t.reverse.dropWhile Raw.isSpace).reverse
    else t
  let robust : Bool :=
    match r.style with
    | .script => false
    | _ => !(r.blind || r.squeeze || r.trimEnd)
  (t, if robust then l.ended else true)

/-- classes of lines: lines of one key have one number -/
def classesOf (keys : List (Raw × Bool)) : List Nat × Nat :=
  let sorted := ((List.range keys.length).zip keys).mergeSort fun a b => Raw.le a.2.1 b.2.1
  let (numbered, count, _) := sorted.foldl (fun (acc : List (Nat × Nat) × Nat × List ((Raw × Bool) × Nat)) p =>
    let (done, n, group) := acc
    let group := if group.any fun g => g.1.1 = p.2.1 then group else []
    match group.find? fun g => g.1 = p.2 with
    | some g => ((p.1, g.2) :: done, n, group)
    | none => ((p.1, n) :: done, n + 1, (p.2, n) :: group)) ([], 0, [])
  let place : Array Nat := numbered.foldl (fun (a : Array Nat) p => a.setIfInBounds p.1 p.2) (Array.replicate keys.length 0)
  (place.toList, count)

def sameStart : List Line → List Line → Nat
  | a :: r, b :: s => if a = b then sameStart r s + 1 else 0
  | _, _ => 0

/-- lines around changes that are looked at -/
def Style.horizon : Style → Nat
  | .unified n | .context n => n
  | _ => 0

/-- the changes between two files; what is the same at both ends is left out, except for some lines around -/
def Request.changes (r : Request) (xs ys : List Line) : List Change :=
  let h := r.style.horizon
  let start := sameStart xs ys
  let xRest := xs.drop start
  let yRest := ys.drop start
  let stop :=
    if xs.getLast?.map (·.ended) = ys.getLast?.map (·.ended) then sameStart xRest.reverse yRest.reverse else 0
  let first := start - h
  let stop := stop - h
  let cut (ls : List Line) : List Line := (ls.drop first).take (ls.length - first - stop)
  let us := cut xs
  let vs := cut ys
  let (classes, count) := classesOf ((us ++ vs).map r.key)
  (Diff.changes count (classes.take us.length).toArray (classes.drop us.length).toArray).map fun c =>
    { c with left := c.left + first, right := c.right + first }

/-- a change that does not count -/
def Request.trivial (r : Request) (xs ys : Array Line) (c : Change) : Bool :=
  let isTrivial (l : Line) : Bool :=
    (r.skipEmpty && (if r.blind || r.squeeze then l.text.all Raw.isSpace else l.text = [])) ||
      r.skipped.any fun e => Regex.occursIn {} e l.text
  (r.skipEmpty || r.skipped ≠ []) &&
    (((xs.toList.drop c.left).take c.deleted) ++ ((ys.toList.drop c.right).take c.inserted)).all isTrivial

/-- what a comparison says, complaints, and its status -/
structure Result where
  output : Raw := []
  errors : Raw := []
  status : Nat := 0

def Result.add (a b : Result) : Result :=
  { output := a.output ++ b.output, errors := a.errors ++ b.errors, status := max a.status b.status }

/-- a name above the lines of a file -/
def Request.label (r : Request) (n : Nat) (name : Raw) : Raw :=
  match r.labels[n]? with
  | some l => l
  | none =>
    let form : Raw :=
      match r.style with
      | .context _ => "%a %b %e %H:%M:%S %Y"
      | _ => "%Y-%m-%d %H:%M:%S.%N %z"
    name ++ '\t' :: present.shown "UTC" 0 100 form

/-- the text is not made of lines -/
def isBinary (t : Raw) : Bool :=
  '\x00' ∈ t.take 4096

/-- compares two texts -/
def Request.texts (r : Request) (a b : Raw) (s t : Raw) : Result :=
  let say (words : Raw) (status : Nat) : Result :=
    { output := "Files " ++ a ++ " and " ++ b ++ ' ' :: words ++ ['\n'], status }
  let same : Result := if r.tellSame then say "are identical" 0 else {}
  let isBeside : Bool :=
    match r.style with
    | .beside _ _ _ => true
    | _ => false
  if s = t ∧ !isBeside then same
  else if !r.asText ∧ (isBinary s ∨ isBinary t) then
    if s = t then same
    else if r.brief then say "differ" 1
    else
      { output := "Binary files " ++ r.labels.headD a ++ " and " ++ (r.labels[1]?).getD b ++ " differ\n", status := 1 }
  else
    let xs := linesOf r.dropReturn s
    let ys := linesOf r.dropReturn t
    let cs := r.changes xs ys
    let p : Pair :=
      { left := xs.toArray, right := ys.toArray, leftLabel := r.label 0 a, rightLabel := r.label 1 b
        expand := r.expand, tab := r.tab }
    let counted := cs.filter fun c => !r.trivial p.left p.right c
    if r.brief then if counted.isEmpty then same else say "differ" 1
    else
      let shown :=
        match r.style with
        | .normal | .script | .counted => counted
        | _ => if counted.isEmpty then [] else cs
      let missing (n : Raw) (ls : List Line) : Raw :=
        if ls.getLast?.any (fun l => !l.ended) then "diff: " ++ n ++ ": No newline at end of file\n\n" else []
      let errors : Raw :=
        match r.style with
        | .script => missing a xs ++ missing b ys
        | _ => []
      if counted.isEmpty ∧ !isBeside ∧ errors = [] then same
      else
        { output := r.style.report p shown, errors
          status := if errors ≠ [] then 2 else if counted.isEmpty then 0 else 1 }

def kindName (t : Raw) : Node → Raw
  | .directory => "directory"
  | .file _ _ => if t = [] then "regular empty file" else "regular file"
  | .link _ => "symbolic link"
  | .device _ => "character special file"

def quoteOption (w : Raw) : Raw :=
  if w ≠ [] ∧ w.all fun c => c.isAlphanum || c ∈ ("-_=./,:+@%" : Raw) then w else '\'' :: w ++ ['\'']

/-- compares two files; inside directories, a line above the changes says what has been compared -/
def Request.files (r : Request) (c : Call) (inside : Bool) (a b : Raw) : Result :=
  let fault (n : Raw) (e : OsError) : Raw := "diff: " ++ n ++ ": " ++ e.words ++ ['\n']
  let read (n : Raw) : Except OsError Raw :=
    match c.readInput n with
    | .error .noEntry => if r.missingEmpty then .ok [] else .error .noEntry
    | x => x
  match read a, read b with
  | .ok s, .ok t =>
    let result := r.texts a b s t
    let told : Bool := (Raw.splitAt? "Files " result.output).any (·.1 = []) || (Raw.splitAt? "Binary files " result.output).any (·.1 = [])
    if inside ∧ result.output ≠ [] ∧ !told then
      let words := "diff" ++ (r.words.flatMap fun w => ' ' :: quoteOption w) ++ ' ' :: a ++ ' ' :: b ++ ['\n']
      { result with output := words ++ result.output }
    else result
  | x, y =>
    let of (n : Raw) (x : Except OsError Raw) : Raw :=
      match x with
      | .ok _ => []
      | .error e => fault n e
    { errors := of a x ++ of b y, status := 2 }

/-- compares two directories -/
def Request.directories (r : Request) (c : Call) : (fuel : Nat) → (a b : Raw) → Result
  | 0, _, _ => {}
  | fuel + 1, a, b =>
    let w : Work := { tree := c.tree }
    let xs := w.names c a
    let ys := w.names c b
    let only (dir n : Raw) : Result := { output := "Only in " ++ dir ++ ": " ++ n ++ ['\n'], status := 1 }
    let size (p : Raw) (n : Node) : Raw := kindName ((c.readInput p).toOption.getD []) n
    let all := ((xs ++ ys).mergeSort Raw.le).eraseDups.filter fun n => !Listing.fitsAny r.excluded n
    all.foldl (fun (acc : Result) n =>
      let p := joinPath a n
      let q := joinPath b n
      let one : Result :=
        if !ys.contains n ∧ !r.missingEmpty then only a n
        else if !xs.contains n ∧ !r.missingEmpty then only b n
        else
          match w.stat c p, w.stat c q with
          | .ok .directory, .ok .directory =>
            if r.deep then directories r c fuel p q
            else { output := "Common subdirectories: " ++ p ++ " and " ++ q ++ ['\n'] }
          | .ok .directory, .ok other =>
            { output := "File " ++ p ++ " is a directory while file " ++ q ++ " is a " ++ size q other ++ ['\n']
              status := 1 }
          | .ok other, .ok .directory =>
            { output := "File " ++ p ++ " is a " ++ size p other ++ " while file " ++ q ++ " is a directory\n"
              status := 1 }
          | _, _ => r.files c true p q
      acc.add one) {}

def lastPart (p : Raw) : Raw :=
  (((p.reverse.dropWhile (· = '/')).takeWhile (· ≠ '/')).reverse)

/-- compares what two arguments name -/
def Request.run (r : Request) (c : Call) (a b : Raw) : Result :=
  let w : Work := { tree := c.tree }
  let isDirectory (n : Raw) : Bool := n ≠ ['-'] && w.isDirectory c n
  let isMissing (n : Raw) : Bool := n ≠ ['-'] && !Call.isInputName n && (w.stat c n).toOption.isNone
  let missing (n : Raw) : Result := { errors := "diff: " ++ n ++ ": " ++ OsError.noEntry.words ++ ['\n'], status := 2 }
  if isDirectory a ∧ isDirectory b then r.directories c 1000 a b
  else if isDirectory a then
    if isMissing b then missing b else r.files c false (joinPath a (lastPart b)) b
  else if isDirectory b then
    if isMissing a then missing a else r.files c false a (joinPath b (lastPart a))
  else r.files c false a b

def known : List Option_ :=
  [option 'i' "ignore-case", option 'b' "ignore-space-change", option 'w' "ignore-all-space",
   option 'B' "ignore-blank-lines", option 'Z' "ignore-trailing-space", option 'E' "ignore-tab-expansion",
   valuedOption 'I' "ignore-matching-lines", option 'a' "text", option 'q' "brief", option 's' "report-identical-files",
   option 'r' "recursive", option 'N' "new-file", option 'u' [], valuedOption 'U' "unified", option 'c' [],
   valuedOption 'C' "context", option 'y' "side-by-side", valuedOption 'W' "width", option 'e' "ed", option 'n' "rcs",
   valuedOption 'L' "label", valuedOption 'x' "exclude", option 't' "expand-tabs", option 'T' "initial-tab",
   option 'p' "show-c-function", option 'd' "minimal", option 'H' "speed-large-files", option '\x01' "normal",
   option '\x02' "left-column", option '\x03' "suppress-common-lines", option '\x04' "strip-trailing-cr",
   option '\x05' "color", option '\x06' "no-dereference", option '\x0e' "suppress-blank-empty"]

/-- what the options ask for -/
def requestOf (p : Parsed) (skipped : List Regex) (words : List Raw) : Except Raw Request := do
  let number (kind t : Raw) : Except Raw Nat :=
    match Raw.nat? t with
    | some n => .ok n
    | none => .error ("invalid " ++ kind ++ " '" ++ t ++ ['\''])
  let around (c : Char) : Except Raw (Option Nat) :=
    match p.value? c with
    | some t => (number "context length" t).map some
    | none => .ok none
  let unified ← around 'U'
  let context ← around 'C'
  let width ← match p.value? 'W' with
    | some t => number "width" t
    | none => .ok 130
  let chosen : List Bool :=
    [p.has 'y', p.has 'e', p.has 'n', p.has 'u' || unified.isSome, p.has 'c' || context.isSome]
  if chosen.count true > 1 then throw ("conflicting output style options" : Raw)
  let style : Style :=
    if p.has 'y' then .beside width (p.has '\x02') (p.has '\x03')
    else if p.has 'e' then .script
    else if p.has 'n' then .counted
    else if p.has 'u' ∨ unified.isSome then .unified (unified.getD 3)
    else if p.has 'c' ∨ context.isSome ∨ p.has 'p' then .context (context.getD 3)
    else .normal
  return {
    style, brief := p.has 'q', tellSame := p.has 's', foldCase := p.has 'i', squeeze := p.has 'b', blind := p.has 'w'
    trimEnd := p.has 'Z', skipEmpty := p.has 'B', skipped, asText := p.has 'a', deep := p.has 'r'
    missingEmpty := p.has 'N', labels := p.values 'L', excluded := p.values 'x', expand := p.has 't', tab := p.has 'T'
    dropReturn := p.has '\x04', words }

end Diff

/-- compares files line by line -/
def diff (c : Call) : Answer :=
  let misused (m : Raw) : Answer :=
    .fail (c.name ++ ": " ++ m ++ "\n" ++ c.name ++ ": Try '" ++ c.name ++ " --help' for more information.") 2
  match options Diff.known false c.arguments with
  | .error e => misused e
  | .ok p =>
    let words := c.arguments.filter fun a => !p.operands.contains a
    let read (t : Raw) : Except Raw Regex :=
      match Regex.read {} t with
      | .ok e => .ok e
      | .error f => .error (t ++ ": " ++ f.message)
    match (p.values 'I').mapM read with
    | .error e => c.fail e 2
    | .ok skipped =>
      match Diff.requestOf p skipped words with
      | .error e => misused e
      | .ok r =>
        match p.operands with
        | [a, b] =>
          let result := r.run c a b
          { Answer.buffered result.errors result.output result.status with taken := Call.takenBy [a, b] }
        | _ :: _ :: x :: _ => misused ("extra operand '" ++ x ++ ['\''])
        | _ => misused ("missing operand after '" ++ c.arguments.getLastD c.name ++ ['\''])

/-! ## Byte by byte -/

namespace Bytes

def shown (c : Char) : Raw :=
  let n := c.toNat
  let plain (n : Nat) : Raw :=
    if n < 32 then ['^', Char.ofNat (n + 64)] else if n = 127 then "^?" else [Char.ofNat n]
  if n < 128 then plain n else "M-" ++ plain (n - 128)

/-- a byte in base eight -/
def octal (n : Nat) : Raw :=
  Raw.pad 3 false (Nat.toDigits 8 n)

/-- a difference: its place, its line, and the two bytes -/
structure Difference where
  place : Nat
  line : Nat
  left : Char
  right : Char
  deriving DecidableEq, Repr

/-- differences from a place on, the latest first, and how many lines end in front of the shorter end -/
def differences (all : Bool) : (place line : Nat) → Raw → Raw → List Difference → List Difference
  | n, l, a :: r, b :: s, found =>
    let l' := if a = '\n' then l + 1 else l
    if a = b then differences all (n + 1) l' r s found
    else
      let found := { place := n, line := l, left := a, right := b } :: found
      if all then differences all (n + 1) l' r s found else found
  | _, _, _, _, found => found

/-- what of two files is compared: how many bytes at most, and how many are left out in front of each -/
def partsOf (p : Parsed) : Except Raw (Option Nat × Nat × Nat) := do
  let number (kind t : Raw) : Except Raw Nat :=
    match size? t with
    | some n => .ok n
    | none => .error ("invalid --" ++ kind ++ " value '" ++ t ++ ['\''])
  let skip (t : Raw) : Except Raw Nat := number "ignore-initial" t
  let most ← match p.value? 'n' with
    | some t => (number "bytes" t).map some
    | none => .ok none
  let both (a b : Raw) : Except Raw (Nat × Nat) := (skip a).bind fun i => (skip b).map fun j => (i, j)
  let (i, j) ← match p.value? 'i', p.operands with
    | some t, _ =>
      match Text.pieces ':' t with
      | [a, b] => both a b
      | _ => (skip t).map fun n => (n, n)
    | none, [_, _, a] => (skip a).map fun n => (n, 0)
    | none, _ :: _ :: a :: b :: _ => both a b
    | none, _ => .ok (0, 0)
  if p.has 's' ∧ p.has 'l' then throw ("options -l and -s are incompatible" : Raw)
  return (most, i, j)

/-- what is said of a file that ends too early; `counted` adds its lines -/
def endOf (counted : Bool) (name t : Raw) : Raw :=
  if t = [] then "EOF on " ++ name ++ " which is empty"
  else
    let lines := t.count '\n'
    let line : Raw :=
      if !counted then []
      else if t.getLast? = some '\n' then ", line " ++ Text.ofNat lines
      else ", in line " ++ Text.ofNat (lines + 1)
    "EOF on " ++ name ++ " after byte " ++ Text.ofNat t.length ++ line

def Difference.listed (width : Nat) (both : Bool) (d : Difference) : Raw :=
  let front := Raw.pad width false (Text.ofNat d.place) ++ ' ' :: octal d.left.toNat
  if both then
    front ++ ' ' :: Raw.pad 4 true (shown d.left) ++ ' ' :: octal d.right.toNat ++ ' ' :: shown d.right ++ ['\n']
  else front ++ ' ' :: octal d.right.toNat ++ ['\n']

/-- what is said of two texts -/
def compared (c : Call) (p : Parsed) (most : Option Nat) (a b s t : Raw) : Answer :=
  let taken := Call.takenBy [a, b]
  let both := p.has 'b'
  let ds := (differences (p.has 'l') 1 1 s t []).reverse
  let ended : Raw :=
    if s.length = t.length then []
    else if s.length < t.length then endOf (!p.has 'l') a s
    else endOf (!p.has 'l') b t
  if p.has 's' then { status := if ds = [] ∧ s.length = t.length then 0 else 1, taken }
  else if p.has 'l' then
    let width := (Text.ofNat (most.getD (max s.length t.length))).length
    let errors : Raw := if ended = [] then [] else c.name ++ ": " ++ ended ++ ['\n']
    let lines := ds.flatMap (Difference.listed width both)
    { Answer.buffered errors lines (if ds = [] ∧ ended = [] then 0 else 1) with taken }
  else
    match ds with
    | d :: _ =>
      let word : Raw := if both then "byte" else "char"
      let front := a ++ ' ' :: b ++ " differ: " ++ word ++ ' ' :: Text.ofNat d.place ++ ", line " ++ Text.ofNat d.line
      let bytes : Raw :=
        if both then
          " is " ++ octal d.left.toNat ++ ' ' :: shown d.left ++ ' ' :: octal d.right.toNat ++ ' ' :: shown d.right
        else []
      { Answer.print (front ++ bytes ++ ['\n']) with status := 1, taken }
    | [] => if ended = [] then { taken } else { c.fail ended 1 with taken }

end Bytes

/-- compares files byte by byte -/
def cmp (c : Call) : Answer :=
  let misused (m : Raw) : Answer :=
    .fail (c.name ++ ": " ++ m ++ "\n" ++ c.name ++ ": Try '" ++ c.name ++ " --help' for more information.") 2
  let known : List Option_ :=
    [option 'l' "verbose", option 's' "quiet", option 's' "silent", option 'b' "print-bytes", valuedOption 'n' "bytes",
     valuedOption 'i' "ignore-initial"]
  match options known false c.arguments with
  | .error e => misused e
  | .ok p =>
    match Bytes.partsOf p, p.operands with
    | .error e, _ => misused e
    | .ok _, [] => misused ("missing operand after '" ++ c.arguments.getLastD c.name ++ ['\''])
    | .ok _, _ :: _ :: _ :: _ :: x :: _ => misused ("extra operand '" ++ x ++ ['\''])
    | .ok (most, i, j), a :: rest =>
      let b : Raw := rest.headD ['-']
      let fault (n : Raw) (e : OsError) : Answer :=
        let taken := Call.takenBy [a, b]
        if p.has 's' ∧ e ≠ .isDirectory then { status := 2, taken }
        else { c.fail (n ++ ": " ++ e.words) 2 with taken }
      match c.readInput a, c.readInput b with
      | .error e, _ => fault a e
      | .ok _, .error e => fault b e
      | .ok s, .ok t =>
        let cut (k : Nat) (t : Raw) : Raw := (t.drop k).take (most.getD t.length)
        Bytes.compared c p most a b (cut i s) (cut j t)

end IncludeAudit.Tool
