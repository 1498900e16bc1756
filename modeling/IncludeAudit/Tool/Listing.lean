/-
Looking at the file tree: lists of names, and what is known of a file.
-/
import IncludeAudit.Shell.Pattern
import IncludeAudit.Tool.Format
import IncludeAudit.Tool.Places

namespace IncludeAudit.Tool

/-! ## Facts -/

def sizeOf : Node → Nat
  | .file bytes _ => bytes.length
  | .directory => 4096
  | .link target => Text.bytes target
  | .device _ => 0

def kindLetter : Node → Char
  | .file _ _ => '-'
  | .directory => 'd'
  | .link _ => 'l'
  | .device .pipe => 'p'
  | .device _ => 'c'

def modeLetters (n : Node) : Raw :=
  kindLetter n :: Mode.letters (modeOf n)

def blocksOf : Node → Nat
  | .file bytes _ => (bytes.length + 4095) / 4096 * 8
  | .directory => 8
  | _ => 0

/-! ## Lists -/

namespace Listing

structure Entry where
  name : Raw
  path : Raw
  node : Node
  /-- a link leads to a directory -/
  leadsToDirectory : Bool := false
  deriving DecidableEq, Repr

/-- how names are laid out -/
inductive Layout
  | single
  | down
  | across
  | commas
  | long
  deriving DecidableEq, Repr

/-- how names are written -/
inductive Style
  | plain
  | doubled
  | escaped
  | questioned
  deriving DecidableEq, Repr

structure Options where
  layout : Layout := .single
  style : Style := .plain
  all : Bool := false
  almostAll : Bool := false
  marks : Bool := false
  slashes : Bool := false
  reversed : Bool := false
  deep : Bool := false
  directories : Bool := false
  unsorted : Bool := false
  bySize : Bool := false
  byEnding : Bool := false
  directoriesFirst : Bool := false
  sizes : Bool := false
  owner : Bool := true
  group : Bool := true
  numbers : Bool := false
  backups : Bool := true
  ignored : List Raw := []
  hidden : List Raw := []
  follow : Bool := false
  followTop : Bool := false
  width : Nat := 80
  deriving DecidableEq, Repr

def written (s : Style) (n : Raw) : Raw :=
  let pieces := Quotation.pieces true n
  match s with
  | .plain => n
  | .doubled =>
    '"' :: pieces.flatMap (fun p => if p.2 = ['"'] ∨ p.2 = ['\\'] then '\\' :: p.2 else p.2) ++ ['"']
  | .escaped => pieces.flatMap fun p => if p.2 = [' '] ∨ p.2 = ['\\'] then '\\' :: p.2 else p.2
  | .questioned => pieces.flatMap fun p => if p.1 then ['?'] else p.2

/-- a name with the mark for its kind -/
def marked (o : Options) (e : Entry) : Raw :=
  let mark : Raw :=
    match e.node with
    | .directory => if o.marks ∨ o.slashes then ['/'] else []
    | .link _ => if o.marks then ['@'] else []
    | .file _ mode => if o.marks ∧ Node.startable mode then ['*'] else []
    | .device .pipe => if o.marks then ['|'] else []
    | .device _ => []
  written o.style e.name ++ mark

/-- the order of two entries -/
def before (o : Options) (a b : Entry) : Bool :=
  let isDirectory (e : Entry) : Bool := e.node = .directory || e.leadsToDirectory
  let ending (e : Entry) : Raw :=
    if '.' ∈ e.name then '.' :: (e.name.reverse.takeWhile (· ≠ '.')).reverse else []
  let plain : Bool :=
    if o.bySize ∧ sizeOf a.node ≠ sizeOf b.node then sizeOf b.node < sizeOf a.node
    else if o.byEnding ∧ ending a ≠ ending b then Raw.le (ending a) (ending b)
    else Raw.le a.name b.name
  let plain : Bool := if o.reversed then (!plain || (a.name = b.name)) else plain
  if o.directoriesFirst ∧ isDirectory a ≠ isDirectory b then isDirectory a else plain

def sorted (o : Options) (es : List Entry) : List Entry :=
  if o.unsorted then es else es.mergeSort (before o)

/-- the widths of columns when `rows` names stand below one another -/
def widths (rows : Nat) (across : Bool) (columns : Nat) (ls : List Nat) : List Nat :=
  (List.range columns).map fun k =>
    let own : List Nat :=
      if across then (List.range rows).filterMap fun i => ls[i * columns + k]?
      else (List.range rows).filterMap fun i => ls[k * rows + i]?
    own.foldl max 0

def columnsFor (width : Nat) (across : Bool) (ls : List Nat) : Nat :=
  let fits (k : Nat) : Bool :=
    let rows := (ls.length + k - 1) / k
    let ws := widths rows across k ls
    let used := (ws.filter (0 < ·)).length
    let total := ws.foldl (· + ·) 0 + 2 * (k - 1)
    total < width && used = k
  ((List.range (min ls.length (width / 3 + 1))).map (· + 1)).foldl (fun best k => if fits k then k else best) 1

/-- what brings a line from one column to another: tabs as far as they go -/
def gap : (fuel : Nat) → (from_ to_ : Nat) → Raw
  | 0, _, _ => []
  | fuel + 1, from_, to_ =>
    if to_ ≤ from_ then []
    else if (from_ + 1) / 8 < to_ / 8 then '\t' :: gap fuel (from_ + 8 - from_ % 8) to_
    else ' ' :: gap fuel (from_ + 1) to_

def inColumns (o : Options) (across : Bool) (names : List Raw) : Raw :=
  let ls := names.map List.length
  let columns := columnsFor o.width across ls
  let rows := (names.length + columns - 1) / columns
  let ws := widths rows across columns ls
  (List.range rows).flatMap fun i =>
    let own : List (Raw × Nat) :=
      (List.range columns).filterMap fun k =>
        (names[if across then i * columns + k else k * rows + i]?).map fun n => (n, (ws[k]?).getD 0)
    let line := own.foldl (fun (acc : Raw × Nat × Nat) p =>
      let (shown, column, start) := acc
      (shown ++ gap (start - column) column start ++ p.1, start + p.1.length, start + p.2 + 2)) ([], 0, 0)
    line.1 ++ ['\n']

def withCommas (o : Options) (names : List Raw) : Raw :=
  let n := names.length
  let (shown, _, _) := names.foldl (fun (acc : Raw × Nat × Nat) name =>
    let (shown, column, i) := acc
    let own := name ++ (if i + 1 < n then [','] else [])
    if i = 0 then (own, own.length, 1)
    else if column + 1 + own.length < o.width then (shown ++ ' ' :: own, column + 1 + own.length, i + 1)
    else (shown ++ '\n' :: own, own.length, i + 1)) ([], 0, 0)
  if names = [] then [] else shown ++ ['\n']

/-- one entry with all that is known of it; the time is that of no clock -/
def longLine (o : Options) (widest : Nat) (e : Entry) : Raw :=
  let owner : Raw := if o.owner then (if o.numbers then " 0" else " root") else []
  let group : Raw := if o.group then (if o.numbers then " 0" else " root") else []
  let behind : Raw :=
    match e.node with
    | .link target => " -> " ++ written o.style (Raw.ofText target)
    | _ => []
  modeLetters e.node ++ (if e.node = .directory then " 2" else " 1") ++ owner ++ group ++ ' ' ::
    Raw.pad widest false (Text.ofNat (sizeOf e.node)) ++ " Jan  1 00:00 " ++ marked { o with marks := false } e ++ behind

/-- entries as they are shown; `counted` puts the space they take in front -/
def shown (o : Options) (counted : Bool) (es : List Entry) : Raw :=
  let space (e : Entry) : Nat := blocksOf e.node / 2
  let total := es.foldl (fun n e => n + space e) 0
  let heading : Raw :=
    if counted ∧ (o.layout = .long ∨ o.sizes) then "total " ++ Text.ofNat total ++ ['\n'] else []
  let widest := es.foldl (fun n e => max n (Text.ofNat (space e)).length) 0
  let sized (e : Entry) (r : Raw) : Raw := if o.sizes then Raw.pad widest false (Text.ofNat (space e)) ++ ' ' :: r else r
  let names := es.map fun e => sized e (marked o e)
  heading ++
    match o.layout with
    | .single => names.flatMap fun n => n ++ ['\n']
    | .down => if names = [] then [] else inColumns o false names
    | .across => if names = [] then [] else inColumns o true names
    | .commas => withCommas o names
    | .long =>
      let w := es.foldl (fun n e => max n (Text.ofNat (sizeOf e.node)).length) 0
      es.flatMap fun e => sized e (longLine o w e) ++ ['\n']

def fitsAny (patterns : List Raw) (name : Raw) : Bool :=
  patterns.any fun g => Shell.Pattern.fitsName true false g name

def entry? (c : Call) (o : Options) (name path : Raw) : Option Entry :=
  let w : Work := { tree := c.tree }
  let leads := w.isDirectory c path
  let own := (w.lstat c path).toOption
  let node : Option Node := if o.follow then (w.stat c path).toOption.or own else own
  node.map fun node => { name, path, node, leadsToDirectory := leads }

def entries (c : Call) (o : Options) (dir : Raw) : List Entry :=
  let w : Work := { tree := c.tree }
  let names := w.names c dir
  let dots : List Raw := if o.all then [['.'], ['.', '.']] else []
  let kept := names.filter fun n =>
    (o.all || o.almostAll || n.head? ≠ some '.') && (o.backups || n.getLast? ≠ some '~') && !fitsAny o.ignored n &&
      (o.all || o.almostAll || !fitsAny o.hidden n)
  sorted o ((dots ++ kept).filterMap fun n => entry? c o n (joinPath dir n))

/-- a directory, and those below it if they are wanted; `titled` puts its name in front -/
def directory (c : Call) (o : Options) : (fuel : Nat) → (titled : Bool) → (first : Bool) → Raw → Raw
  | 0, _, _, _ => []
  | fuel + 1, titled, first, dir =>
    let es := entries c o dir
    let title : Raw := if titled then (if first then [] else ['\n']) ++ written o.style dir ++ ":\n" else []
    let below : Raw :=
      if o.deep then
        (es.filter fun e => e.node = .directory && e.name ≠ ['.'] && e.name ≠ ['.', '.']).flatMap fun e =>
          directory c o fuel true false (joinPath dir e.name)
      else []
    title ++ shown o true es ++ below

end Listing

/-- lists files and directories; `usual` is the layout without options -/
def ls (usual : Listing.Layout) (c : Call) : Answer :=
  let flags : List Option_ :=
    letters "aAbBcCdfFgGhHiklLmnNopqQrRsStuUvxXZ1"
  let known := flags ++
    [option 'a' "all", option 'A' "almost-all", option 'b' "escape", option 'B' "ignore-backups", option 'd' "directory",
     option 'F' "classify", option '\x01' "group-directories-first", option 'h' "human-readable", valuedOption 'I' "ignore",
     valuedOption '\x02' "hide", option 'L' "dereference", option 'n' "numeric-uid-gid", option 'N' "literal",
     option 'Q' "quote-name", option 'r' "reverse", option 'R' "recursive", option 's' "size", valuedOption 'w' "width",
     valuedOption 'T' "tabsize", option '\x03' "color", option 'q' "hide-control-chars", option '\x04' "show-control-chars",
     valuedOption '\x05' "sort", valuedOption '\x06' "format", option 'i' "inode", option 'o' [], option 'G' "no-group"]
  c.parse known 2 fun p =>
    let sort := p.value? '\x05'
    let last (ls : List Char) : Option Char := ((p.given.filter fun g => ls.contains g.1).getLast?).map (·.1)
    let layout : Listing.Layout :=
      match last ['C', 'x', 'm', 'l', '1', 'n', 'o', 'g'] with
      | some 'C' => .down
      | some 'x' => .across
      | some 'm' => .commas
      | some '1' => if (p.has 'l' || p.has 'n' || p.has 'o' || p.has 'g') then .long else .single
      | some _ => .long
      | none => usual
    let layout : Listing.Layout :=
      match p.value? '\x06' with
      | some f =>
        if f = "commas" then .commas
        else if f = "long" ∨ f = "verbose" then .long
        else if f = "vertical" then .down
        else if f = "horizontal" ∨ f = "across" then .across
        else .single
      | none => layout
    let style : Listing.Style :=
      match last ['b', 'Q', 'N', 'q'] with
      | some 'b' => .escaped
      | some 'Q' => .doubled
      | some 'q' => .questioned
      | _ => if usual = .single then .plain else .escaped
    let o : Listing.Options :=
      { layout, style, all := p.has 'a' || p.has 'f', almostAll := p.has 'A', marks := p.has 'F', slashes := p.has 'p'
        reversed := p.has 'r', deep := p.has 'R' && !p.has 'd', directories := p.has 'd'
        unsorted := p.has 'U' || p.has 'f' || sort = some "none", bySize := p.has 'S' || sort = some "size"
        byEnding := p.has 'X' || sort = some "extension", directoriesFirst := p.has '\x01', sizes := p.has 's'
        owner := !p.has 'g', group := !p.has 'o' && !p.has 'G', numbers := p.has 'n', backups := !p.has 'B'
        ignored := p.values 'I', hidden := p.values '\x02', follow := p.has 'L', followTop := p.has 'H'
        width := ((p.value? 'w').bind Raw.nat?).getD 80 }
    let operands := if p.operands = [] then [['.']] else p.operands
    let w : Work := { tree := c.tree }
    let opensLinks := o.follow || o.followTop || !(o.layout = .long || o.directories || o.marks)
    let found := operands.map fun f =>
      let isDirectory : Bool :=
        !o.directories && (if opensLinks || endsInSlash f then w.isDirectory c f else (w.lstat c f).toOption = some .directory)
      let e : Except OsError Listing.Entry :=
        match (if o.follow then w.stat c f else w.lstat c f) with
        | .error e => .error e
        | .ok _ => (Listing.entry? c o f f).elim (.error .noEntry) .ok
      (f, isDirectory, e)
    let errors : Raw := found.flatMap fun x =>
      match x.2.2 with
      | .error e => c.name ++ ": cannot access " ++ quoteName x.1 ++ ": " ++ e.words ++ ['\n']
      | .ok _ => []
    let es := found.filterMap fun x => x.2.2.toOption.map fun e => (x.2.1, e)
    let files := Listing.sorted o ((es.filter fun x => !x.1).map (·.2))
    let dirs := Listing.sorted o ((es.filter fun x => x.1).map (·.2))
    let titled := o.deep || 1 < operands.length
    let front := if files = [] then [] else Listing.shown o false files
    let (out, _) := dirs.foldl (fun (acc : Raw × Bool) e =>
      (acc.1 ++ Listing.directory c o maxDepth titled acc.2 e.path, false)) (front, files = [])
    .buffered errors out (if errors = [] then 0 else 2)

/-! ## What is known of a file -/

namespace Status

def kindWords : Node → Raw
  | .file bytes _ => if bytes = [] then "regular empty file" else "regular file"
  | .directory => "directory"
  | .link _ => "symbolic link"
  | .device .pipe => "fifo"
  | .device _ => "character special file"

def modeNumber (n : Node) : Nat :=
  modeOf n +
    match n with
    | .file _ _ => 0o100000
    | .directory => 0o40000
    | .link _ => 0o120000
    | .device .pipe => 0o10000
    | .device _ => 0o20000

/-- what a directive stands for -/
def value (n : Node) (path : Raw) (letter : Char) : Raw :=
  match letter with
  | 'n' => path
  | 's' => Text.ofNat (sizeOf n)
  | 'a' => Mode.octal (modeOf n)
  | 'A' => modeLetters n
  | 'F' => kindWords n
  | 'f' => (Nat.toDigits 16 (modeNumber n))
  | 'u' | 'g' | 't' | 'T' => ['0']
  | 'U' | 'G' => "root"
  | 'h' => if n = .directory then ['2'] else ['1']
  | 'b' => Text.ofNat (blocksOf n)
  | 'B' => "512"
  | 'o' => "4096"
  | 'm' => ['/']
  | 'N' =>
    match n with
    | .link target => quoteName path ++ " -> " ++ quoteName (Raw.ofText target)
    | _ => quoteName path
  | 'X' | 'Y' | 'Z' | 'W' | 'i' | 'd' => ['0']
  | _ => ['?']

def show_ (n : Node) (path : Raw) (f : Raw) (escapes : Bool) : Raw :=
  let known : Raw := "abcdefghijklmnopqrstuvwxyzABCDEFGHIJKLMNOPQRSTUVWXYZ"
  let e : Option Escapes := if escapes then some { hex := true, stops := false, quotes := true } else none
  (Format.pieces e known [] (f.length + 1) f).flatMap fun p =>
    match p with
    | .text t => t
    | .directive d =>
      let v := value n path d.letter
      let numeric : Bool := d.letter ∈ ("sabBohugf" : Raw)
      d.fill numeric [] v
    | .unknown t => t
    | .dangling _ => ['%']
    | _ => []

end Status

/-- prints what is known of files -/
def stat (c : Call) : Answer :=
  let known :=
    [valuedOption 'c' "format", valuedOption '\x01' "printf", option 'L' "dereference", option 't' "terse",
     option 'f' "file-system"]
  c.parse known 1 fun p =>
    if p.operands = [] then c.misused "missing operand" 1
    else
      let w : Work := { tree := c.tree }
      let (format, escapes) : Raw × Bool :=
        match (p.given.filter fun g => g.1 = 'c' || g.1 = '\x01').getLast? with
        | some ('c', f) => (f ++ ['\n'], false)
        | some (_, f) => (f, true)
        | none =>
          ("  File: %N\n  Size: %-10s\tBlocks: %-10b IO Block: %-6o %F\nAccess: (%04a/%10.10A)  Uid: (%5u/%8U)   Gid: (%5g/%8G)\n",
            false)
      let w := p.operands.foldl (fun (w : Work) f =>
        match (if p.has 'L' then w.stat c f else w.lstat c f) with
        | .error e => w.complain c ("cannot statx " ++ quoteName f ++ ": " ++ e.words)
        | .ok n => { w with out := w.out ++ Status.show_ n f format escapes }) w
      w.answer

end IncludeAudit.Tool
