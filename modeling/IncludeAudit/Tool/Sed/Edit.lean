/-
Editing text line by line with a script. The pattern space holds a line while commands change it; at the end of the
script it is printed, and the next line takes its place.

- `Edit.run`: the script on all lines, `sed`: the tool.
-/
import IncludeAudit.Tool.Basic
import IncludeAudit.Tool.Sed.Reader

namespace IncludeAudit.Tool.Sed

structure Line where
  text : Raw
  /-- a line feed ends it -/
  ended : Bool := true
  number : Nat
  /-- no line follows -/
  last : Bool := false
  file : Raw
  /-- it starts a file of its own -/
  fresh : Bool := false
  deriving DecidableEq, Repr

/-- text that is printed, the latest part first -/
structure Output where
  parts : List Raw := []
  /-- the last line has no end yet -/
  unended : Bool := false
  deriving DecidableEq, Repr

/-- what is printed when a line is done -/
inductive Addition
  | text (t : Raw)
  | file (f : Raw)
  | line (t : Raw)
  deriving DecidableEq, Repr

/-- where a range of lines stands -/
inductive Range
  | outside
  | upTo (line : Nat)
  | open_
  deriving DecidableEq, Repr

/-- where the ranges of all commands stand in front of the first line -/
def Script.ranges (s : Script) : Array Range :=
  s.commands.map fun k => if k.first = some (.line 0) then .open_ else .outside

/-- how scripts run -/
structure Setting where
  script : Script
  silent : Bool := false
  zeros : Bool := false
  inPlace : Bool := false
  width : Nat := 70
  /-- text goes by characters -/
  wide : Bool := false
  /-- what a file holds -/
  contents : Raw → Option Raw

/-- editing under way -/
structure State where
  pattern : Raw := []
  ended : Bool := true
  hold : Raw := []
  holdEnded : Bool := true
  number : Nat := 0
  isLast : Bool := false
  file : Raw := ['-']
  lines : List Line
  additions : List Addition := []
  out : Output := {}
  /-- what goes to the output of the tool when files are edited in place -/
  console : Output := {}
  /-- edited files, the latest first -/
  edited : List (Raw × Raw) := []
  written : List (Raw × Output) := []
  /-- lines of files that are read line by line -/
  sources : List (Raw × List Raw) := []
  replaced : Bool := false
  ranges : Array Range := #[]
  lastSearch : Option (Regex × Regex.Mode) := none
  status : Nat := 0
  /-- a fault that has stopped the script -/
  fault : Option Raw := none

/-- what comes after a command -/
inductive Flow
  | go (place : Nat)
  /-- the line is done and is printed -/
  | done
  /-- the line is done and is not printed -/
  | dropped
  /-- the script starts again with what is there -/
  | again
  | stop
  deriving DecidableEq, Repr

namespace Output

def text (o : Output) : Raw :=
  o.parts.reverse.flatten

/-- ends a line that has no end -/
def close (o : Output) (mark : Char) : Output :=
  if o.unended then { parts := [mark] :: o.parts, unended := false } else o

/-- prints text as it is -/
def add (o : Output) (mark : Char) (t : Raw) : Output :=
  let o := o.close mark
  { o with parts := t :: o.parts }

def addLine (o : Output) (mark : Char) (t : Raw) (ended : Bool) : Output :=
  let o := o.close mark
  { parts := (if ended then t ++ [mark] else t) :: o.parts, unended := !ended }

end Output

namespace Setting

/-- what ends a line -/
def mark (c : Setting) : Char :=
  if c.zeros then '\x00' else '\n'

end Setting

namespace State

/-- prints text on a file that the script names, or on the output -/
def printOn (s : State) (c : Setting) (f : Raw) (t : Raw) (ended : Bool) : State :=
  if f = ("/dev/stdout" : Raw) then
    if c.inPlace then { s with console := s.console.addLine c.mark t ended }
    else { s with out := s.out.addLine c.mark t ended }
  else
    let written := s.written.map fun w => if w.1 = f then (f, w.2.addLine c.mark t ended) else w
    { s with written }

/-- prints the pattern space -/
def print (s : State) (c : Setting) : State :=
  { s with out := s.out.addLine c.mark s.pattern s.ended }

/-- prints text as it is -/
def say (s : State) (c : Setting) (t : Raw) : State :=
  { s with out := s.out.add c.mark t }

/-- what a file holds by now -/
def contents? (s : State) (c : Setting) (f : Raw) : Option Raw :=
  ((s.edited.find? (·.1 = f)).map (·.2)).or (c.contents f)

/-- prints what was to be added behind the line -/
def flush (s : State) (c : Setting) : State :=
  let out := s.additions.reverse.foldl (fun (o : Output) a =>
    match a with
    | .text t => o.add c.mark t
    | .line t => o.addLine c.mark t true
    | .file f => o.add c.mark ((s.contents? c f).getD [])) s.out
  { s with out, additions := [] }

/-- the next line takes the place of the pattern space, or is added to it -/
def advance (s : State) (c : Setting) (adding : Bool) : Option State :=
  match s.lines with
  | [] => none
  | l :: rest =>
    let s := s.flush c
    let s :=
      if l.fresh ∧ s.number ≠ 0 then
        let s := { s with ranges := c.script.ranges, sources := [], hold := [], holdEnded := true }
        if c.inPlace then { s with edited := (s.file, s.out.text) :: s.edited, out := {} }
        else { s with out := s.out.close c.mark }
      else s
    some
      { s with
        pattern := if adding then s.pattern ++ c.mark :: l.text else l.text
        ended := l.ended, number := l.number, isLast := l.last, file := l.file, lines := rest }

/-- the expression that is searched for: the last one for an empty one -/
def search? (s : State) (e : Search) : Option (Regex × Regex.Mode) :=
  match e.regex with
  | some r => some (r, e.mode)
  | none => s.lastSearch

/-- stops since there is no expression to search for -/
def unsearched (s : State) : State :=
  { s with fault := some "-e expression #1, char 0: no previous regular expression", status := 1 }

/-- an address fits the line; the expression of the address is the last one then -/
def fits (s : State) (a : Address) : Bool × State :=
  match a with
  | .line n => (s.number = n, s)
  | .last => (s.isLast, s)
  | .step first by_ => (first ≤ s.number ∧ (s.number - first) % by_ = 0, s)
  | .found e =>
    match s.search? e with
    | some (r, m) => (Regex.occursIn m r s.pattern, { s with lastSearch := some (r, m) })
    | none => (false, s.unsearched)
  | .further _ | .multiple _ => (false, s)

/-- notes where the range of a command stands -/
def setRange (s : State) (place : Nat) (r : Range) : State :=
  { s with ranges := s.ranges.setIfInBounds place r }

/-- a range starts with this line -/
def start (s : State) (place : Nat) (second : Address) : Bool × State :=
  let upTo (n : Nat) : Bool × State := (true, if n ≤ s.number then s else s.setRange place (.upTo n))
  match second with
  | .line n => upTo n
  | .further n => upTo (s.number + n)
  | .multiple n => upTo (if n = 0 then 0 else s.number + n - s.number % n)
  | _ => (true, s.setRange place .open_)

/-- the addresses of a command fit the line -/
def selects (s : State) (place : Nat) (c : Command) : Bool × State :=
  match c.first, c.second with
  | none, _ => (true, s)
  | some a, none => s.fits a
  | some a, some b =>
    match (s.ranges[place]?).getD .outside with
    | .outside =>
      let (yes, s) := s.fits a
      if yes then s.start place b else (false, s)
    | .upTo n =>
      if s.number < n then (true, s)
      else
        -- a line behind the end is not looked at once more
        (s.number = n, s.setRange place .outside)
    | .open_ =>
      let (yes, s) := s.fits b
      (true, if yes then s.setRange place .outside else s)

/-- the range of a command goes on behind this line -/
def inRange (s : State) (place : Nat) : Bool :=
  (s.ranges[place]?).getD .outside ≠ .outside

end State

/-! ## Replacements -/

/-- text with its letters changed: all of them, and the first one in a way of its own -/
def recase (wide : Bool) (all : Letters) (first : Letters) (t : Text) : Text :=
  let change (l : Letters) (c : Char) : Char :=
    match l with
    | .asTheyAre => c
    | .small => if wide then Raw.smallChar c else c.toLower
    | .capital => if wide then Raw.capitalChar c else c.toUpper
  match t with
  | c :: r => (if first = .asTheyAre then change all c else change first c) :: r.map (change all)
  | [] => []

/-- what stands for a match -/
def replacement (wide : Bool) (parts : List Part) (from_ to_ : Regex.Spot) : Raw :=
  let whole := from_.rest.take (to_.position - from_.position)
  let (shown, _, _) := parts.foldl (fun (acc : List Raw × Letters × Letters) p =>
    let (shown, all, first) := acc
    let add (t : Raw) : List Raw × Letters × Letters :=
      (recase wide all first t :: shown, all, if t = [] then first else .asTheyAre)
    match p with
    | .text t => add t
    | .group 0 => add whole
    | .group n => add ((to_.group? n).getD [])
    | .letters l => (shown, l, first)
    | .letter l => (shown, all, l)) ([], .asTheyAre, .asTheyAre)
  shown.reverse.flatten

/-- a text with matches replaced; none when there is no match that counts -/
def replaceIn (r : Replacing) (e : Regex) (m : Regex.Mode) (t : Raw) : Option Raw :=
  let found :=
    if r.all ∨ 1 < r.number then (Regex.findAll m e t).drop (r.number - 1) else (Regex.find? m e t).toList
  let found := if r.all then found else found.take 1
  if found = [] then none
  else
    let (shown, rest, _) := found.foldl (fun (acc : List Raw × Raw × Nat) p =>
      let (shown, rest, position) := acc
      let before := rest.take (p.1.position - position)
      (replacement m.wide r.parts p.1 p.2 :: before :: shown, p.2.rest, p.2.position)) ([], t, 0)
    some ((rest :: shown).reverse.flatten)

def listedByte (c : Char) : Raw :=
  if c = '\\' then "\\\\"
  else
    match escapeOf? c with
    | some e => e
    | none => [c]

def listing (width : Nat) (t : Raw) : Raw :=
  let (shown, _) := t.foldl (fun (acc : List Raw × Nat) c =>
    let b := listedByte c
    if 0 < width ∧ width - 1 < acc.2 + b.length then (b :: "\\\n" :: acc.1, b.length)
    else (b :: acc.1, acc.2 + b.length)) ([], 0)
  shown.reverse.flatten ++ "$\n"

/-! ## Commands -/

/-- the end of what is done when no line follows -/
def atEnd (s : State) (c : Setting) : State × Flow :=
  (if c.silent then s else s.print c, .dropped)

/-- the first line of the pattern space, and whether a line feed ends it -/
def firstLine (s : State) (c : Setting) : Raw × Bool :=
  (s.pattern.takeWhile (· ≠ c.mark), s.ended || c.mark ∈ s.pattern)

/-- does what a command says; `next` is the place behind it -/
def act (c : Setting) (place next : Nat) (negated : Bool) (s : State) : Action → State × Flow
  | .enter _ | .nothing => (s, .go next)
  | .jump when_ label =>
    let target := ((c.script.labels.find? (·.1 = label)).map (·.2)).getD c.script.commands.size
    match when_, s.replaced with
    | .always, _ => (s, .go target)
    | .replaced, true => ({ s with replaced := false }, .go target)
    | .replaced, false => (s, .go next)
    | .unreplaced, true => ({ s with replaced := false }, .go next)
    | .unreplaced, false => (s, .go target)
  | .append t => ({ s with additions := .text t :: s.additions }, .go next)
  | .insert t => (s.say c t, .go next)
  | .change t => (if negated ∨ !s.inRange place then s.say c t else s, .dropped)
  | .number => (s.say c (Text.ofNat s.number ++ ['\n']), .go next)
  | .delete => (s, .dropped)
  | .deleteFirst =>
    if c.mark ∈ s.pattern then
      ({ s with pattern := (s.pattern.dropWhile (· ≠ c.mark)).tail }, .again)
    else (s, .dropped)
  | .get => ({ s with pattern := s.hold, ended := s.holdEnded }, .go next)
  | .getMore => ({ s with pattern := s.pattern ++ c.mark :: s.hold, ended := s.holdEnded }, .go next)
  | .hold => ({ s with hold := s.pattern, holdEnded := s.ended }, .go next)
  | .holdMore => ({ s with hold := s.hold ++ c.mark :: s.pattern, holdEnded := s.ended }, .go next)
  | .exchange =>
    ({ s with pattern := s.hold, ended := s.holdEnded, hold := s.pattern, holdEnded := s.ended }, .go next)
  | .next =>
    if s.isLast then atEnd s c
    else
      let s := if c.silent then s else s.print c
      match s.advance c false with
      | some s => (s, .go next)
      | none => (s, .stop)
  | .nextMore =>
    if s.isLast then atEnd s c
    else
      match s.advance c true with
      | some s => (s, .go next)
      | none => (s, .stop)
  | .print => (s.print c, .go next)
  | .printFirst =>
    let (line, ended) := firstLine s c
    ({ s with out := s.out.addLine c.mark line ended }, .go next)
  | .quit status => (if c.silent then { s with status } else { s.print c with status }, .stop)
  | .leave status => ({ s with status, additions := [] }, .stop)
  | .list width => (s.say c (listing (width.getD c.width) (if c.wide then Raw.ofCharacters s.pattern else s.pattern)), .go next)
  | .readFile f => ({ s with additions := .file f :: s.additions }, .go next)
  | .readLine f =>
    let sources :=
      if s.sources.any (·.1 = f) then s.sources else (f, ((c.contents f).map Raw.lines).getD []) :: s.sources
    match (sources.find? (·.1 = f)).map (·.2) with
    | some (l :: rest) =>
      let sources := sources.map fun p => if p.1 = f then (f, rest) else p
      ({ s with sources, additions := .line l :: s.additions }, .go next)
    | _ => ({ s with sources }, .go next)
  | .write f => (s.printOn c f s.pattern s.ended, .go next)
  | .writeFirst f =>
    let (line, ended) := firstLine s c
    (s.printOn c f line ended, .go next)
  | .replace r =>
    match s.search? r.search with
    | none => (s.unsearched, .stop)
    | some (e, m) =>
      let s := { s with lastSearch := some (e, m) }
      match replaceIn r e m s.pattern with
      | none => (s, .go next)
      | some t =>
        let s := { s with pattern := t, replaced := true }
        let s := if r.print then s.print c else s
        match r.file with
        | some f => (s.printOn c f s.pattern s.ended, .go next)
        | none => (s, .go next)
  | .translate pairs =>
    let change (ch : Char) : Char := ((pairs.find? (·.1 = ch)).map (·.2)).getD ch
    ({ s with pattern := s.pattern.map change }, .go next)
  | .clear => ({ s with pattern := [] }, .go next)
  | .fileName => (s.say c (s.file ++ ['\n']), .go next)

/-- one command at a place, if its addresses fit; behind the last one the line is done -/
def step (c : Setting) (place : Nat) (s : State) : State × Flow :=
  match c.script.commands[place]? with
  | none => (s, .done)
  | some k =>
    let (yes, s) := s.selects place k
    if s.fault.isSome then (s, .stop)
    else if yes != k.negated then act c place (place + 1) k.negated s k.action
    else
      match k.action with
      | .enter stop => (s, .go stop)
      | _ => (s, .go (place + 1))

/-- the script on all lines, as far as the steps go -/
def Edit.run (c : Setting) : (steps : Nat) → (place : Nat) → State → State
  | 0, _, s => s
  | steps + 1, place, s =>
    match step c place s with
    | (s, .go next) => Edit.run c steps next s
    | (s, .stop) => s.flush c
    | (s, .again) => Edit.run c steps 0 (s.flush c)
    | (s, .done) =>
      let s := (if c.silent then s else s.print c).flush c
      match s.advance c false with
      | some s => Edit.run c steps 0 { s with replaced := false }
      | none => s
    | (s, .dropped) =>
      let s := s.flush c
      match s.advance c false with
      | some s => Edit.run c steps 0 { s with replaced := false }
      | none => s

/-- more steps than a script takes that ends -/
def maxSteps : Nat := 1000000000000

/-! ## The tool -/

def linesOf (zeros : Bool) (t : Raw) : List (Raw × Bool) :=
  let mark := if zeros then '\x00' else '\n'
  let (done, last) := t.foldl (fun (acc : List (Raw × Bool) × Raw) ch =>
    if ch = mark then ((acc.2.reverse, true) :: acc.1, []) else (acc.1, ch :: acc.2)) ([], [])
  (if last = [] then done else (last.reverse, false) :: done).reverse

/-- the lines of several files in a row; with `apart` every file is counted by itself -/
def linesOfAll (zeros apart : Bool) (files : List (Raw × Raw)) : List Line :=
  let (all, _) := files.foldl (fun (acc : List Line × Nat) f =>
    let (done, n, _) := (linesOf zeros f.2).foldl (fun (acc : List Line × Nat × Bool) l =>
      let (done, n, first) := acc
      (({ text := l.1, ended := l.2, number := n, file := f.1, fresh := apart && first } : Line) :: done, n + 1, false))
      (acc.1, if apart then 1 else acc.2, true)
    (done, n)) ([], 1)
  -- from the end on: the last line, and lines that are ended since others follow
  let (ls, _) := all.foldl (fun (acc : List Line × Option Line) l =>
    let closes : Bool :=
      match acc.2 with
      | none => true
      | some after => apart && after.fresh
    let ended : Bool := l.ended || (!apart && !closes)
    ({ l with last := closes, ended } :: acc.1, some l)) ([], none)
  ls

def known : List Option_ :=
  [option 'n' "quiet", option 'n' "silent", valuedOption 'e' "expression", valuedOption 'f' "file",
   option 'E' "regexp-extended", option 'r' [], option 's' "separate", option 'u' "unbuffered", option 'z' "null-data",
   { letter := 'i', long := "in-place", attached := true }, valuedOption 'l' "line-length", option '\x01' "posix",
   option '\x02' "debug", option '\x03' "sandbox", option '\x04' "follow-symlinks",
   option 'b' "binary"]

def backupName (suffix file : Raw) : Raw :=
  let base := (file.reverse.takeWhile (· ≠ '/')).reverse
  let front := file.take (file.length - base.length)
  let name := if '*' ∈ suffix then suffix.flatMap fun c => if c = '*' then base else [c] else base ++ suffix
  if '/' ∈ name then name else front ++ name

end Sed

/-- edits lines with a script -/
def sed (c : Call) : Answer :=
  match options Sed.known false c.arguments with
  | .error e => .fail ("sed: " ++ e) 1
  | .ok p =>
    let wide := c.isWide
    let inward : Raw → Text := if wide then Raw.characters else fun t => t
    let outward : Text → Raw := if wide then Raw.ofCharacters else fun t => t
    let scripts := p.given.filter fun g => g.1 = 'e' || g.1 = 'f'
    let scripts : List (Char × Raw) := if scripts = [] then (p.operands.take 1).map fun o => ('e', o) else scripts
    let files := if p.has 'e' || p.has 'f' then p.operands else p.operands.drop 1
    let pieces : Except Raw (List Sed.Piece) := scripts.mapM fun g =>
      if g.1 = 'e' then .ok { text := inward g.2 }
      else
        match c.readInput g.2 with
        | .ok t => .ok { text := inward t, file := some g.2 }
        | .error e => .error ("couldn't open file " ++ g.2 ++ ": " ++ e.words)
    if scripts = [] then .fail "Usage: sed [OPTION]... \x7bscript-only-if-no-other-script\x7d [input-file]..." 1
    else
      match pieces.bind fun ps => Sed.read { extended := p.has 'E' || p.has 'r', zeros := p.has 'z', wide } ps with
      | .error e => .fail ("sed: " ++ outward e) (if ("c" : Raw).isPrefixOf e then 4 else 1)
      | .ok script =>
        let inPlace := p.has 'i'
        let apart := inPlace || p.has 's'
        if inPlace ∧ files = [] then .fail "sed: no input files" 4
        else
        let files := if files = [] then [['-']] else files
        let (texts, complaints, status, _) := files.foldl (fun (acc : List (Raw × Raw) × Raw × Nat × Bool) f =>
          let (texts, complaints, status, used) := acc
          let isInput := f = ['-'] || Call.isInputName f
          if status = 4 ∧ !inPlace then acc
          else if inPlace ∧ f = ['-'] then (texts, complaints ++ "sed: couldn't edit -: not a regular file\n", 4, used)
          else if isInput ∧ used then (texts ++ [(f, [])], complaints, status, used)
          else
            match c.readInput f with
            | .ok t =>
              let isFile : Bool :=
                match c.stat f with
                | .ok (.file _ _) => true
                | _ => false
              if inPlace ∧ !isFile then
                (texts, complaints ++ "sed: couldn't edit " ++ f ++ ": not a regular file\n", 4, used)
              else (texts ++ [(inward f, inward t)], complaints, status, used || isInput)
            | .error .isDirectory =>
              if inPlace then (texts, complaints ++ "sed: couldn't edit " ++ f ++ ": not a regular file\n", 4, used)
              else (texts, complaints ++ "sed: read error on " ++ f ++ ": Is a directory\n", 4, used)
            | .error e =>
              (texts, complaints ++ "sed: can't read " ++ f ++ ": " ++ e.words ++ ['\n'], max status 2, used))
          ([], [], 0, false)
        let setting : Sed.Setting :=
          { script, silent := p.has 'n' || script.silent, zeros := p.has 'z', inPlace, wide
            width := ((p.value? 'l').bind Raw.nat?).getD 70
            contents := fun f =>
              match c.read (outward f) with
              | .ok t => some (inward t)
              | .error _ => none }
        let targets := (script.commands.toList.flatMap fun k => k.action.files).eraseDups.filter (· ≠ ("/dev/stdout" : Raw))
        let state : Sed.State :=
          { lines := Sed.linesOfAll (p.has 'z') apart texts, written := targets.map fun f => (f, {})
            ranges := script.ranges }
        let state : Sed.State :=
          match state.advance setting false with
          | some s => Sed.Edit.run setting Sed.maxSteps 0 s
          | none => state
        let edited := if inPlace ∧ state.number ≠ 0 ∧ state.fault.isNone then (state.file, state.out.text) :: state.edited else state.edited
        let put (t : Tree) (f text : Raw) : Tree :=
          match t.write c.here (Raw.toText f) (Raw.toBytes (outward text)) false with
          | .ok (t, _) => t
          | .error _ => t
        let tree := edited.reverse.foldl (fun t e =>
          let suffix := (p.value? 'i').getD []
          let t :=
            if suffix = [] then t
            else
              match c.read (outward e.1) with
              | .ok old => put t (Sed.backupName suffix (outward e.1)) (inward old)
              | .error _ => t
          put t (outward e.1) e.2) c.tree
        let errors := state.written.filter (·.1 = ("/dev/stderr" : Raw))
        let tree := (state.written.filter (·.1 ≠ ("/dev/stderr" : Raw))).foldl (fun t w => put t (outward w.1) w.2.text) tree
        let shown := outward (if inPlace then state.console.text else state.out.text)
        let fault : Raw := (state.fault.map fun f => "sed: " ++ outward f ++ ['\n']).getD []
        let complaints := complaints ++ (errors.flatMap fun w => outward w.2.text) ++ fault
        let status : Nat := if state.status ≠ 0 then state.status else status
        let left := state.lines.foldl (fun n l => if l.file = ['-'] then n + (outward l.text).length + 1 else n) 0
        let taken : Taken :=
          if Call.takenBy files = .everything ∧ state.lines ≠ [] then .blocks (c.input.length - left)
          else Call.takenBy files
        { Answer.buffered complaints shown status with
          tree := some tree
          taken }

end IncludeAudit.Tool
