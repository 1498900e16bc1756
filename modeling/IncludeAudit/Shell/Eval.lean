/-
Carrying out scripts. Words are expanded, redirections are made, and commands are run one after another: those of the
shell itself, functions, and programs, which are tools of the system or scripts again. Parts of a script that run by
themselves share the world with it, and nothing else. Every function takes the depth that is still allowed.

- `eval`: one command, `runText`: the commands of a text, `runImage`: a program in a process of its own.
-/
import IncludeAudit.Shell.Braces
import IncludeAudit.Shell.Describe
import IncludeAudit.Shell.Double
import IncludeAudit.Shell.Startup
import IncludeAudit.Tool.Table

namespace IncludeAudit.Shell

namespace St

/-- a part of the script that runs by itself; it forgets what is to be done at signals, but not which are ignored -/
def part (s : St) (keepsJobs : Bool) : St :=
  let isKept (t : Raw × Raw) : Bool :=
    t.2 = [] || (s.wide && ((s.has 'E' && t.1 = "ERR") || (s.has 'T' && (t.1 = "DEBUG" || t.1 = "RETURN"))))
  let n := s.world.processes + 1
  { s with
    world := { s.world with processes := n }
    self := n
    isPart := true
    traps := s.traps.filter isKept
    outerTraps := if s.wide then s.traps.filter fun t => !isKept t else []
    shells := s.shells + 1
    readers := []
    jobs := s.jobs.map fun j => { j with ours := false, listed := j.listed && s.wide && keepsJobs }
    flow := .on }

/-- takes in what a process has done, and how it has ended; `tells` says that this may be worth a word -/
def absorb (s child : St) (tells : Bool) : St :=
  -- it may have ended processes in the background
  let jobs := s.jobs.map fun j =>
    match child.jobs.find? (·.process = j.process) with
    | some k => { k with waited := j.waited, listed := j.listed, ours := j.ours }
    | none => j
  let s := { s with world := child.world, status := child.exit.status, jobs }
  match child.exit with
  | .signal _ => if tells then s.sayEnd child.exit true (processText child.self) s.current.shown else s
  | .code _ => s

def leaveLoop (s : St) (status : Nat) : St :=
  match s.flow with
  | .breaking n => if n ≤ 1 then { s with flow := .on, status } else { s with flow := .breaking (n - 1) }
  | .continuing n => if n ≤ 1 then { s with flow := .on, status } else { s with flow := .continuing (n - 1) }
  | _ => s

/-- a text names a parameter: a variable, an element of an array, an argument or a sign -/
def namesParameter (t : Raw) : Bool :=
  let name := t.takeWhile (· ≠ '[')
  let isElement : Bool := isName name && name.length < t.length && t.getLast? = some ']'
  isName t || isElement || (t ≠ [] && t.all Char.isDigit) || (t.length = 1 && t.all isSpecial)

def shownWord (wide : Bool) (w : Raw) : Raw :=
  if wide = false then w
  else if w = [] then "''"
  else if Quoting.isSpecial w then Quoting.plain w
  else if Quoting.isUnseen w then Quoting.dollar w
  else w

def shownAssignment (name value : Raw) : Raw :=
  name ++ '=' :: if value = [] then [] else shownWord true value

def putBack (s : St) (old : List (Raw × Option Variable)) : St :=
  old.foldl (fun s p =>
    match p.2 with
    | some v => s.put p.1 v
    | none => s.unset p.1) s

def shownTransform (s : St) (form : Char) (name : Raw) (v : Option Variable) (t : Raw) : Raw :=
  let inCase (upper all : Bool) : Raw := s.outward (recase s.byCharacters upper all (fun _ => true) (s.inward t))
  if form = 'Q' then Quoting.single t
  else if form = 'U' then inCase true true
  else if form = 'u' then inCase true false
  else if form = 'L' then inCase false true
  else if form = 'E' then
    let quote : Raw := t.flatMap fun c => if c = '\'' then "\\'" else [c]
    ((escapedQuote s.byCharacters (2 * t.length + 4) (quote ++ ['\''])).map (·.1)).getD t
  else if form = 'a' then (v.map fun x => (attributes x).filter (· ≠ '-')).getD []
  else if form = 'A' then
    match v with
    | some x =>
      if attributes x = "--" then name ++ '=' :: Quoting.single t
      else "declare " ++ attributes x ++ ' ' :: name ++ '=' :: Quoting.single t
    | none => []
  else if form = 'K' ∨ form = 'k' then Quoting.single t
  else t

def menu (values : List Raw) : Raw :=
  let digits (n : Nat) : Nat := (Text.ofNat n).length
  let size := values.length
  let longest := (values.map fun v => (Raw.toText v).length).foldl max 0
  let width := longest + digits size + 4
  let columns := max 1 (80 / width)
  let rows := (size + columns - 1) / columns
  let columns := if rows = 0 then 1 else (size + rows - 1) / rows
  let (rows, _) : Nat × Nat := if rows = 1 then (columns, 1) else (rows, columns)
  let indent (start stop : Nat) : Raw :=
    (List.range (stop - start)).foldl (fun (acc : Raw × Nat) _ =>
      if stop ≤ acc.2 then acc
      else if acc.2 / 8 < stop / 8 then (acc.1 ++ ['\t'], acc.2 + (8 - acc.2 % 8))
      else (acc.1 ++ [' '], acc.2 + 1)) ([], start) |>.1
  let cells := (List.range size).zip values
  (List.range rows).flatMap fun row =>
    let line := (cells.filter fun c => c.1 % rows = row).foldl (fun (acc : Raw × Nat × Nat) c =>
      let (text, start, stop) := acc
      let number := Raw.pad (digits (if c.1 < rows then rows else size)) false (Text.ofNat (c.1 + 1))
      let cell := number ++ ") " ++ c.2
      let next := stop + (if text = [] then 0 else width)
      (text ++ indent start next ++ cell, next + cell.length, next)) ([], 0, 0)
    line.1 ++ ['\n']

/-- a name that is neither a command nor a file; `replacing` says that the shell itself was to become it -/
def notFound (s : St) (name : Raw) (e : OsError) (atPath replacing : Bool) : St :=
  let isMissing : Bool := e = .noEntry || e = .notDirectory
  if s.wide then
    if atPath then
      let isDirectory := s.world.tree.isDirectory s.here (Raw.toText name)
      let words : Raw := if isDirectory then "Is a directory" else e.words
      let status := if e = .noEntry then 127 else 126
      let told := { s with command := none }.complain (name ++ ": " ++ words) status
      if replacing ∧ e ≠ .noEntry then told.complain ("exec: " ++ name ++ ": cannot execute: " ++ words) 126 else told
    else if replacing then { s with command := none }.complain ("exec: " ++ name ++ ": not found") 127
    else { s with command := none }.complain (name ++ ": command not found") 127
  else
    let words : Raw := if isMissing then "not found" else e.words
    let elsewhere : Bool := isMissing || e = .linkLoop || e = .nameTooLong
    s.complain (name ++ ": " ++ words) (if atPath = false ∨ elsewhere then 127 else 126)

def startFault (s : St) (wide : Bool) (tool command : Raw) (e : OsError) : St :=
  let lead := tool ++ ": "
  let short := (tool.reverse.takeWhile (· ≠ '/')).reverse
  let message :=
    if short = "xargs" then lead ++ command
    else if short = "timeout" ∨ short = "nohup" ∨ short = "stdbuf" then
      lead ++ "failed to run command " ++ Tool.quote command
    else lead ++ Tool.quote command
  let hint : Raw :=
    if short = "env" ∧ ' ' ∈ command then "\nenv: use -[v]S to pass options in shebang lines" else []
  { s.write 2 (Tool.Quotation.spoken wide (message ++ ": " ++ e.words ++ hint ++ ['\n'])) with
    status := if e = .noEntry then 127 else 126 }

/-- what a tool says of a command that has ended in a way that stops it -/
def reportEnd (s : St) (command : Raw) (e : Exit) : St :=
  let said (words : Raw) : St := s.write 2 (s.name ++ ": " ++ command ++ ": " ++ words ++ ['\n'])
  match e with
  | .code 255 => said "exited with status 255; aborting"
  | .code _ => s
  | .signal n => said ("terminated by signal " ++ Text.ofNat n)

/-- the status of a tool for the commands that it has run -/
def gathered (status : Nat) (exits : List Exit) : Nat :=
  exits.foldl (fun n e =>
    match e with
    | .code 0 => n
    | .code 255 => 124
    | .code _ => if n = 0 then 123 else n
    | .signal _ => 125) status

/-- takes `command` away, unless its options ask for something else; whether it was there, and whether it asks for the
usual path -/
def withoutPrefix : (fuel : Nat) → List Raw → List Raw × Bool × Bool
  | 0, args => (args, false, false)
  | fuel + 1, args =>
    match args with
    | c :: n :: r =>
      if c = "command" then
        let rest := if n = "-p" ∨ n = "--" then (if n = "-p" ∧ r.head? = some "--" then r.tail else r) else n :: r
        match rest with
        | o :: _ =>
          if o.head? = some '-' ∧ n ≠ "--" then (args, false, false)
          else
            let (args, _, usual) := withoutPrefix fuel rest
            (args, true, usual || n = "-p")
        | [] => (args, false, false)
      else (args, false, false)
    | _ => (args, false, false)

/-- sets a trap again that has been put aside, unless there is another one by now -/
def putTrapsBack (s : St) (aside : List (Raw × Raw)) : St :=
  { s with traps := s.traps ++ aside.filter fun t => !s.traps.any fun u => u.1 = t.1 }

/-- the descriptor for a variable that is to hold one -/
def freeDescriptor (s : St) : Nat :=
  ((List.range 200).find? fun n => 10 ≤ n && (s.stream? n).isNone).getD 255

/-- the file with a list of all time that a command has taken -/
def shownTime (plainly : Bool) (span : Nat) : Raw :=
  let digits (n k : Nat) : Raw :=
    let t := Text.ofNat n
    List.replicate (k - t.length) '0' ++ t
  if plainly then
    "real " ++ Text.ofNat (span / 1000) ++ '.' :: digits (span % 1000 / 10) 2 ++ "\nuser 0.00\nsys 0.00\n"
  else
    "\nreal\t" ++ Text.ofNat (span / 60000) ++ 'm' :: Text.ofNat (span / 1000 % 60) ++ '.' :: digits (span % 1000) 3 ++
      "s\nuser\t0m0.000s\nsys\t0m0.000s\n"

end St

namespace St

/-- the variables of assignments that are only to be read, made so or made free -/
def locked (before : St) (on : Bool) (as : List Assignment) (s : St) : St :=
  as.foldl (fun s a =>
    match before.variable_ a.name with
    | some v => if v.readonly then s.put a.name { (s.variable_ a.name).getD {} with readonly := on } else s
    | none => s) s

/-- the operands of comparisons of integers worked out, one comparison after another -/
def operandNumbers (s : St) : (fuel : Nat) → List Double.Operand → List Double.Operand × St
  | 0, os => (os, s)
  | fuel + 1, os =>
    match os with
    | a :: o :: b :: rest =>
      if (o.plain.map Double.ofIntegers.contains).getD false then
        match s.compute a.field.text with
        | (s, some x) =>
          match s.compute b.field.text with
          | (s, some y) =>
            let number (n : Int) : Double.Operand := { plain := none, field := (Text.ofInt n).map fun c => (c, true) }
            let (more, s) := operandNumbers s fuel rest
            (number x :: o :: number y :: more, s)
          | (s, none) => (os, s)
        | (s, none) => (os, s)
      else
        let (more, s) := operandNumbers s fuel (o :: b :: rest)
        (a :: more, s)
    | os => (os, s)

/-- keeps what the last comparison with a regular expression has found -/
def keepMatch (s : St) : List Double.Operand → St
  | a :: o :: b :: rest =>
    if o.is "=~" then
      let m : Double.Manner := { pattern := { s.foldingManner with groups := true } }
      let found := ((Double.regex? m b.field).bind (Double.parts? m a.field.text)).getD []
      let es := (List.range found.length).zip found |>.map fun p => (Text.ofNat p.1, p.2)
      keepMatch (s.put "BASH_REMATCH" { elements := some es }) rest
    else keepMatch s (o :: b :: rest)
  | _ => s

end St

def pipeline : Script → List Script
  | .pipe a b => a :: pipeline b
  | s => [s]

/-- commands whose arguments may be assignments -/
def isDeclaring (wide : Bool) (name : Raw) : Bool :=
  let names : List Raw := ["export", "readonly", "local", "alias"]
  let more : List Raw := ["declare", "typeset"]
  names.contains name || (wide && more.contains name)

/-- commands whose arguments may be lists of elements -/
def takesLists (name : Raw) : Bool :=
  name ∈ ([("declare" : Raw), "typeset", "local", "export", "readonly"] : List Raw)

/-- texts two by two -/
def pairs : List Raw → List (Raw × Raw)
  | a :: b :: r => (a, b) :: pairs r
  | [a] => [(a, [])]
  | [] => []

/-- the directories that hold the usual programs, whatever the search path is -/
def usualSearch (wide : Bool) : Raw :=
  if wide then "/bin:/usr/bin" else "/usr/local/sbin:/usr/local/bin:/usr/sbin:/usr/bin:/sbin:/bin"

/-- how many characters stand in the lines that reading a command has taken; `behind` is the place behind it -/
def Pos.touched (p behind : Pos) : Nat :=
  let consumed := p.rest.length - behind.rest.length
  let atStart : Bool := behind.taken = 0 && (p.rest.take consumed).getLast? = some '\n'
  if atStart then consumed
  else consumed + min behind.rest.length ((behind.rest.takeWhile (· ≠ '\n')).length + 1 + behind.taken)

/-- how many characters stand in the lines up to one -/
def Pos.linesUpTo (p : Pos) (line : Nat) : Nat :=
  ((Text.pieces '\n' p.rest).take (line + 1 - p.line)).foldl (fun n l => n + l.length + 1) 0

/-- shows the lines that have been read, if they are to be shown, as far as this has not been done -/
def St.echo (s : St) (p : Pos) (size : Nat) : St :=
  if s.has 'v' ∧ !p.silent ∧ p.echoed < size then s.write 2 ((p.rest.take size).drop p.echoed) else s

/-- how far a process in the background is carried out ahead of time, in milliseconds -/
def maxAhead : Nat := 3600000

set_option maxHeartbeats 400000 in
mutual

/-- the pieces of the parts of a word. With `fields` the word may become several; with `cuts` its plain text is cut
as well -/
def expandParts : (fuel : Nat) → (fields cuts : Bool) → Word → St → List Piece × St
  | 0, _, _, _, s => ([], s)
  | fuel + 1, fields, cuts, w, s =>
    let r := w.foldl (fun (acc : List (List Piece) × St) p =>
      if acc.2.isOn then
        let (ps, s) := expandPart fuel fields cuts p acc.2
        (ps :: acc.1, s)
      else acc) ([], s)
    (r.1.reverse.flatten, r.2)

def expandPart : (fuel : Nat) → (fields cuts : Bool) → Part → St → List Piece × St
  | 0, _, _, _, s => ([], s)
  | fuel + 1, fields, cuts, p, s =>
    match p with
    | .text t quoted => ([.text t quoted (cuts && !quoted)], s)
    | .command source line quoted =>
      let (out, s) := capture fuel source line s
      ([.text out quoted (!quoted)], s)
    | .arithmetic e quoted =>
      let (t, s) := expandText fuel e s
      if s.isOn then
        match s.compute t with
        | (s, some n) => ([.text (Text.ofInt n) quoted (!quoted)], s)
        | (s, none) => ([], s)
      else ([], s)
    | .process source line output =>
      let fd := 63 - (s.fds.filter (32 ≤ ·.1)).length
      let opened (s : St) : List Piece × St := ([.text ("/dev/fd/" ++ Text.ofNat fd) true false], s)
      if output then
        let status := s.status
        let (text, s) := gather fuel source line s
        opened ({ s with status }.openText fd text)
      else
        -- what is written there is read later
        let (world, n) := s.world.add (.gathered [])
        opened ({ s with world, readers := (n, source, line) :: s.readers }.setStream fd n)
    | .parameter name index use word quoted =>
      let (index, s) := expandIndex fuel name index s
      if s.isOn then expandUse fuel fields name index use word quoted s else ([], s)

/-- the index of an element: `@` or `*` for all, a text for a table, a number otherwise -/
def expandIndex : (fuel : Nat) → Raw → Option Word → St → Option Raw × St
  | 0, _, _, s => (none, s)
  | _, _, none, s => (none, s)
  | fuel + 1, name, some w, s =>
    let (t, s) := expandText fuel w s
    let name := if name.head? = some '!' then name.tail else name
    if t = ['@'] ∨ t = ['*'] ∨ s.isKeyed name then (some t, s)
    else
      match s.compute t with
      | (s, some n) => (some (St.placeIn (s.elements name) n), s)
      | (s, none) => (none, s)

def expandUse : (fuel : Nat) → (fields : Bool) → Raw → Option Raw → Use → Word → Bool → St → List Piece × St
  | 0, _, _, _, _, _, _, s => ([], s)
  | fuel + 1, fields, name, index, use, word, quoted, s =>
    let s := if s.wide ∧ name = "RANDOM" then s.roll else s
    let indirect := s.wide && 1 < name.length && name.head? = some '!'
    let listed : Bool := indirect && index.any fun i => i = ['@'] || i = ['*']
    let pointer : Value := if indirect ∧ !listed ∧ use ≠ .names then s.value name.tail index else .missing
    let standsFor : Option Raw :=
      if indirect ∧ index.isNone then (s.variable_ name.tail).bind fun v => if v.refers then v.value else none else none
    let wrong : Option Raw :=
      if !indirect ∨ listed ∨ use = .names ∨ isName name.tail = false ∨ standsFor.isSome then none
      else
        match pointer with
        | .missing => some (name.tail ++ ": invalid indirect expansion")
        | .one other => if St.namesParameter other then none else some (other ++ ": invalid variable name")
        | .many _ => none
    let (name, index) : Raw × Option Raw :=
      if indirect ∧ !listed ∧ use ≠ .names then
        match pointer with
        | .one other =>
          let plain := other.takeWhile (· ≠ '[')
          if plain.length < other.length then (plain, some ((other.drop (plain.length + 1)).dropLast)) else (other, none)
        | .many (other :: _) => (other, none)
        | _ => ([], none)
      else (if indirect then name.tail else name, index)
    let v : Value :=
      if listed then .many ((s.elements name).map (·.1))
      else if use = .names then
        let hasValue (p : Raw × Variable) : Bool :=
          p.2.value.isSome || p.2.elements.isSome || (s.ownValue? p.1).isSome
        .many ((s.sortedBindings.filter fun p => name.isPrefixOf p.1 && hasValue p).map (·.1))
      else
        match standsFor with
        | some other => .one other
        | none => s.value name index
    let star := name = ['*'] || index = some ['*']
    let joined := !fields || (star && quoted)
    let shown (v : Value) (s : St) : List Piece × St := (v.pieces joined quoted s.joiner, s)
    let isMissing : Bool := s.has 'u' && v = .missing
    let full : Raw :=
      match index with
      | some i => name ++ '[' :: i ++ [']']
      | none => name
    if let some message := wrong then ([], s.discard message)
    else
    match use with
    | .value =>
      if isMissing then
        let spelled : Raw := word.flatMap fun p =>
          match p with
          | .text t _ => t
          | _ => []
        ([], s.unsetFault (if s.wide then spelled else name))
      else shown v s
    | .length =>
      let isAbsent : Bool := s.wide && s.has 'u' && (v matches .many _) && index.isSome && (s.meant name).isNone
      if isMissing ∧ index.isNone then ([], s.unsetFault name)
      else if isAbsent then ([], { s.unsetFault name with flow := .ended (.code 1) })
      else
        let n :=
          match v with
          | .missing => 0
          | .one t => (s.inward t).length
          | .many ts => if s.wide then ts.length else (Text.paste s.joiner ts).length
        shown (.one (Text.ofNat n)) s
    | .orElse e => if v.lacks e then expandParts fuel fields (!quoted) word s else shown v s
    | .ifSet e => if v.lacks e then ([], s) else expandParts fuel fields (!quoted) word s
    | .orAssign e =>
      if v.lacks e then
        let (t, s) := expandText fuel word s
        if s.isOn = false then ([], s)
        else if isName name then
          let s :=
            match index with
            | some i => s.assignElement name i t
            | none => s.assign name t
          shown (.one t) s
        else ([], s.die (name ++ ": bad variable name"))
      else shown v s
    | .orFail e =>
      if v.lacks e then
        let (t, s) := expandText fuel word s
        let usual : Raw := if e then "parameter not set or null" else "parameter not set"
        let usual : Raw := if s.wide then (if e then "parameter null or not set" else "parameter not set") else usual
        let message := full ++ ": " ++ if t = [] then usual else t
        let status := if s.given ∧ !s.sheltered then 127 else 1
        ([], if s.wide then { s.complain message status with flow := .ended (.code status) } else s.die message)
      else shown v s
    | .cutFront longest =>
      let (f, s) := expandField fuel word s
      let p := s.patternOf s.manner f
      if isMissing then ([], s.unsetFault full) else shown (v.map fun t => s.outward (p.cutFront longest (s.inward t))) s
    | .cutBack longest =>
      let (f, s) := expandField fuel word s
      let p := s.patternOf s.manner f
      if isMissing then ([], s.unsetFault full) else shown (v.map fun t => s.outward (p.cutBack longest (s.inward t))) s
    | .replace all =>
      let (a, b) := splitWord '/' word
      let (f, s) := expandField fuel a s
      let (new, s) := expandField fuel (b.getD []) s
      let new := if s.byCharacters then markedCharacters new else new
      let (anchor, f) : Char × Field :=
        match f with
        | ('#', false) :: r => if all then (' ', f) else ('#', r)
        | ('%', false) :: r => if all then (' ', f) else ('%', r)
        | f => (' ', f)
      let p := s.patternOf s.foldingManner f
      -- an ampersand stands for what is replaced
      let put (t : Text) : Text := new.flatMap fun m => if m.1 = '&' ∧ !m.2 then t else [m.1]
      let change (t : Text) : Text :=
        if anchor = '#' then
          match p.longestFit? t with
          | some n => put (t.take n) ++ t.drop n
          | none => t
        else if anchor = '%' then
          match (List.range (t.length + 1)).find? fun n => p.accepts (t.drop n) with
          | some n => t.take n ++ put (t.drop n)
          | none => t
        else p.replace all put (t.length + 1) t
      if isMissing then ([], s.unsetFault full) else shown (v.map fun t => s.outward (change (s.inward t))) s
    | .slice =>
      if isMissing then ([], s.unsetFault full)
      else
      let (a, b) := splitWord ':' word
      let (x, s) := expandText fuel a s
      let (y, s) := expandText fuel (b.getD []) s
      match s.compute x with
      | (s, none) => ([], s)
      | (s, some offset) =>
        let (s, length) : St × Option Int := if b.isSome then s.compute y else (s, none)
        let cut : Value :=
          match v with
          | .missing => .missing
          | .one t => .one (s.outward (Value.cut offset length (s.inward t)))
          | .many ts => .many (Value.cut offset length (if name = ['@'] ∨ name = ['*'] then s.name :: ts else ts))
        if s.isOn then shown cut s else ([], s)
    | .recase upper all =>
      let (f, s) := expandField fuel word s
      let p := s.patternOf s.manner f
      let fits (c : Char) : Bool := f = [] || p.accepts [c]
      if isMissing then ([], s.unsetFault full)
      else shown (v.map fun t => s.outward (recase s.byCharacters upper all fits (s.inward t))) s
    | .shown form =>
      if isMissing then ([], s.unsetFault full)
      else if v = .missing then ([], s) else shown (v.map (s.shownTransform form name (s.meant name))) s
    | .names => shown v s
    | .unknown =>
      let source := word.flatMap fun p =>
        match p with
        | .text t _ => t
        | _ => []
      ([], if s.wide then s.discard ('$' :: source ++ ": bad substitution") else s.die "Bad substitution")

def expandText : (fuel : Nat) → Word → St → Raw × St
  | 0, _, s => ([], s)
  | fuel + 1, w, s =>
    let (ps, s) := expandParts fuel false false w s
    (Field.text (Piece.whole ps), s)

/-- the word as one text with a mark on each character that stands for itself -/
def expandField : (fuel : Nat) → Word → St → Field × St
  | 0, _, s => ([], s)
  | fuel + 1, w, s =>
    let (ps, s) := expandParts fuel false false w s
    (Piece.whole ps, s)

/-- the fields of a word, with pathnames in place of patterns -/
def expandWord : (fuel : Nat) → Word → St → List Raw × St
  | 0, _, s => ([], s)
  | fuel + 1, w, s =>
    let words := if s.wide ∧ s.has 'B' then braceWords w else [w]
    words.foldl (fun (acc : List Raw × St) w =>
      let w := acc.2.tildes false true w
      let (ps, s) := expandParts fuel true false w acc.2
      let vanishes := isAllArguments w && ps.all fun p => p matches .text [] _ _
      let fields := if vanishes then [] else Piece.fields s.separators ps
      fields.foldl (fun (acc : List Raw × St) f =>
        let (found, s) := acc
        if Glob.isSpecial s.manner.groups f ∧ !s.has 'f' then
          match Glob.paths s.globbing s.world.tree s.here f with
          | [] =>
            if s.isSet "failglob" then
              (found, if s.isOn then s.discard ("no match: " ++ Field.text f) else s)
            else (if s.isSet "nullglob" then found else found ++ [Field.text f], s)
          | ps => (found ++ ps, s)
        else (found ++ [Field.text f], s)) (acc.1, s)) ([], s)

/-- the arguments of a command; for some commands what looks like an assignment stays in one -/
def expandArguments : (fuel : Nat) → List Word → St → List Raw × St
  | 0, _, s => ([], s)
  | fuel + 1, ws, s =>
    ws.foldl (fun (acc : List Raw × St) w =>
      let (args, s) := acc
      if s.isOn = false then acc
      else
        match (if (args.head?.map (isDeclaring s.wide)).getD false then assignment? s.wide w else none) with
        | some a =>
          if a.index.isSome ∨ a.added then
            let (more, s) := expandWord fuel w s
            (args ++ more, s)
          else
            let (t, s) := expandText fuel (s.tildes true true a.value) s
            (args ++ [a.name ++ '=' :: t], s)
        | none =>
          let w : Word :=
            match (if s.wide then assignment? true w else none) with
            | some a =>
              if a.index.isSome ∨ a.added then w
              else consText (a.name ++ ['=']) false (s.tildes true true a.value)
            | none => w
          let (more, s) := expandWord fuel w s
          (args ++ more, s)) ([], s)

/-- all that the commands of a text print -/
def gather : (fuel : Nat) → Raw → (line : Nat) → St → Raw × St
  | 0, _, _, s => ([], s)
  | fuel + 1, source, line, s =>
    let s := s.takeIndex.1
    let child := s.part true
    let (world, n) := child.world.add (.gathered [])
    let child := { child with world, texts := s.texts + 1, sheltered := true }.setStream 1 n
    -- a failure inside need not end the commands
    let child : St :=
      if s.wide ∧ !s.isSet "inherit_errexit" ∧ !s.has '6' then { child with options := child.options.filter (· ≠ 'e') }
      else child
    let text : Pos := { rest := source, line, wide := s.wide, title := "command substitution: ", silent := true }
    let child := finish fuel (runText fuel false false text child)
    let out := child.world.gathered n
    (out, s.absorb { child with world := child.world.set n (.gathered []) } (!s.wide))

/-- what commands print, without line feeds at its end -/
def capture : (fuel : Nat) → Raw → (line : Nat) → St → Raw × St
  | 0, _, _, s => ([], s)
  | fuel + 1, source, line, s =>
    let source : Raw :=
      if s.wide ∧ (source.dropWhile Raw.isSpace).head? = some '<' ∧ ('<' ∉ (source.dropWhile Raw.isSpace).tail) then
        "cat " ++ source
      else source
    let status := s.status
    let (out, s) := gather fuel source line s
    let out := if '\x00' ∈ out then out.filter (· ≠ '\x00') else out
    ((out.reverse.dropWhile (· = '\n')).reverse, { s with inner := s.status, status })

/-- runs the commands that read what has been written, once nobody writes to them any more -/
def runReaders : (fuel : Nat) → (all : Bool) → St → St
  | 0, _, s => s
  | fuel + 1, all, s =>
    if s.readers.isEmpty then s
    else
      let isOpen (n : Nat) : Bool := !all && s.fds.any fun f => f.2 = n
      let ready := s.readers.filter fun r => !isOpen r.1
      let s := { s with readers := s.readers.filter fun r => isOpen r.1 }
      ready.reverse.foldl (fun s r =>
        let (n, source, line) := r
        let text := s.world.gathered n
        let child := (s.part true).openText 0 text
        let child := finish fuel (runText fuel false false { rest := source, line, wide := true } child)
        { s with world := child.world.set n (.gathered []) }) s

/-- what stands in front of a command that is traced -/
def traceMark : (fuel : Nat) → St → Raw × St
  | 0, s => ([], s)
  | fuel + 1, s =>
    let mark := (s.lookup? "PS4").getD (if s.wide then [] else "+ ")
    let isPlain : Bool := mark.all fun c => c ≠ '$' && c ≠ '\\' && c ≠ '\x60'
    let (mark, s) : Raw × St :=
      if isPlain then (mark, s)
      else
        match readText s.wide s.byCharacters s.line mark with
        | .error _ => (mark, s)
        | .ok w =>
          let options := s.options
          let status := s.status
          let (t, s) := expandText fuel w { s with options := options.filter (· ≠ 'x') }
          (t, { s with options, status })
    if s.wide then (List.replicate s.texts (mark.headD ' ') ++ mark, s) else (mark, s)

/-- shows a command before it runs, on a stream or where complaints go -/
def trace : (fuel : Nat) → (stream : Option Nat) → Raw → St → St
  | 0, _, _, s => s
  | fuel + 1, stream, text, s =>
    if s.has 'x' then
      let (mark, s) := traceMark fuel s
      let own := if s.wide then ((s.lookup? "BASH_XTRACEFD").bind Raw.nat?).bind s.stream? else none
      match (own.or stream).or (s.stream? 2) with
      | some n => { s with world := s.world.write n (mark ++ text ++ ['\n']) }
      | none => s
    else s

/-- does what is to be done at an event that is no signal: before a command, at a failure, at the end of a function -/
def runTrap : (fuel : Nat) → (event : Raw) → St → St
  | 0, _, s => s
  | fuel + 1, event, s =>
    if s.traps.isEmpty ∨ s.trapped ∨ s.isOn = false then s
    else
      match s.traps.find? (·.1 = event) with
      | none => s
      | some (_, action) =>
        let (status, line) := (s.status, s.line)
        let text : Pos := { rest := action, line, wide := s.wide }
        let after := runText fuel false true text { s with trapped := true, texts := s.texts + 1 }
        let after := { after with trapped := s.trapped, texts := s.texts }
        if after.isOn then { after with status, line } else after

/-- redirections one after another, as long as they succeed -/
def redirectAll : (fuel : Nat) → List Redirection → St → St × Bool
  | 0, _, s => (s, true)
  | fuel + 1, rs, s =>
    rs.foldl (fun (acc : St × Bool) r =>
      let (s, ok) := acc
      if ok = false ∨ s.isOn = false then acc
      else
        let isText : Bool := r.direction = .here || r.direction = .hereWord
        let (ts, s) : List Raw × St :=
          if s.wide ∧ !isText then expandWord fuel r.target s
          else
            let (t, s) := expandText fuel (if r.direction = .here then r.target else s.tildes false true r.target) s
            ([t], s)
        if s.isOn = false then (s, false)
        else
          match ts with
          | [t] =>
            match r.holder with
            | none => s.redirect r t
            | some name =>
              if t = "-" then
                match (s.lookup? name).bind Raw.nat? with
                | some n => s.redirect { r with fd := n } t
                | none => (s.complain (name ++ ": ambiguous redirect") 1, false)
              else
                let fd := s.freeDescriptor
                let (s, ok) := s.redirect { r with fd } t
                if ok then (({ s with held := fd :: s.held }).bindReference name (Text.ofNat fd), s.isOn) else (s, false)
          | _ => (s.complain (r.spelled ++ ": ambiguous redirect") 1, false)) (s, true)

/-- assignments one after another; the wider shell shows each of them on a stream -/
def assignAll : (fuel : Nat) → (stream : Option Nat) → List Assignment → St → St
  | 0, _, _, s => s
  | fuel + 1, stream, as, s =>
    as.foldl (fun s a =>
      if s.isOn = false then s
      else
        let sign : Raw := if a.added then ['+'] else []
        match a.elements with
        | some ws =>
          let s := if s.wide then trace fuel stream (a.name ++ sign ++ '=' :: a.spelled) s else s
          let name := s.resolve St.maxReferences a.name
          let v := (s.variable_ name).getD {}
          if v.readonly then s.readonlyFault name
          else
            let old := if a.added then s.elements a.name else []
            let next := (old.getLast?.map fun e => Raw.toNat e.1 + 1).getD 0
            let put (s : St) (es : List (Raw × Raw)) : St :=
              let v := (s.variable_ name).getD {}
              s.put name { v with elements := some es, value := none }
            let pairsUp : Bool := v.keyed && (ws.head?.map fun w => (element? w).isNone).getD false
            if pairsUp then
              let (ts, s) := ws.foldl (fun (acc : List Raw × St) w =>
                let (t, s) := expandText fuel w acc.2
                (acc.1 ++ [t], s)) ([], s)
              put s (pairs ts |>.foldl (fun es p => St.setElement true es p.1 p.2) old)
            else
              let (es, _, s) := ws.foldl (fun (acc : List (Raw × Raw) × Nat × St) w =>
                let (es, n, s) := acc
                if s.isOn = false then acc
                else
                  match element? w with
                  | some (index, isAdded, value) =>
                    let (t, s) := expandText fuel value s
                    let (i, s) := expandText fuel index s
                    let old (i : Raw) : Raw := if isAdded then ((es.find? (·.1 = i)).map (·.2)).getD [] else []
                    if v.keyed then (St.setElement true es i (St.cased v (old i ++ t)), n, s)
                    else
                      match s.compute i with
                      | (s, some k) =>
                        let place := St.placeIn es k
                        (St.setElement false es place (St.cased v (old place ++ t)), Raw.toNat place + 1, s)
                      | (s, none) => (es, n, s)
                  | none =>
                    let (ts, s) := expandWord fuel w s
                    if v.keyed then
                      (es, n, s.complain (a.name ++ ": " ++ ts.headD [] ++
                        ": must use subscript when assigning associative array") 1)
                    else
                      let (ts, s) : List Raw × St :=
                        if v.integer then
                          ts.foldl (fun (acc : List Raw × St) t =>
                            match acc.2.compute t with
                            | (s, some k) => (acc.1 ++ [Text.ofInt k], s)
                            | (s, none) => (acc.1, s)) ([], s)
                        else (ts, s)
                      ((List.range ts.length).zip ts |>.foldl (fun es p =>
                        St.setElement false es (Text.ofNat (n + p.1)) (St.cased v p.2)) es, n + ts.length, s)) (old, next, s)
              if s.isOn then put s es else s
        | none =>
          let (index, s) := expandIndex fuel a.name a.index s
          let (t, s) := expandText fuel (s.tildes true true a.value) s
          if s.isOn = false then s
          else
            let place : Raw := (index.map fun i => '[' :: i ++ [']']).getD []
            let s := if s.wide then trace fuel stream (St.shownAssignment (a.name ++ place ++ sign) t) s else s
            let old : Raw :=
              if a.added then
                match s.value a.name index with
                | .one t => t
                | _ => []
              else []
            let v := s.meant a.name
            let isNumber : Bool := (v.map (·.integer)).getD false
            let t := if isNumber ∧ a.added then (if old = [] then ['0'] else old) ++ '+' :: t else old ++ t
            let index := if index.isNone ∧ (v.bind (·.elements)).isSome then some ['0'] else index
            match index with
            | some i =>
              if isNumber then
                match s.compute t with
                | (s, some n) => s.assignElement a.name i (Text.ofInt n)
                | (s, none) => s
              else s.assignElement a.name i t
            | none => s.bind a.name t) s

/-- a command is about to run: its line and its text are known, and what waits for it is done -/
def announce : (fuel : Nat) → (line : Nat) → Script → St → St
  | 0, _, _, s => s
  | fuel + 1, line, c, s =>
    let s := { s with line }
    if s.wide then runTrap fuel "DEBUG" (if s.trapped then s else { s with current := c }) else s

/-- a sum on its own; none when it cannot be worked out -/
def evalSum : (fuel : Nat) → (line : Nat) → Word → (spelled : Raw) → St → Option Int × St
  | 0, _, _, _, s => (none, s)
  | fuel + 1, line, w, spelled, s =>
    let s := announce fuel line (.compute line w spelled) s
    let (t, s) := expandText fuel w s
    if s.isOn = false then (none, s)
    else
      let s := trace fuel none ("(( " ++ t ++ " ))") s
      let command := s.command
      match { s with command := some "((" }.compute t with
      | (s, some n) => (some n, { s with command })
      | (s, none) => (none, { s with command, flow := if s.flow = .discarded then .on else s.flow, status := 1 })

/-- conditions in double brackets; those behind a decision are left alone -/
def evalTest : (fuel : Nat) → (inverted : Bool) → Double.Test → St → St
  | 0, _, _, s => s
  | fuel + 1, inverted, t, s =>
    match t with
    | .both a b =>
      let s := evalTest fuel false a s
      if s.isOn ∧ s.status = 0 then evalTest fuel false b s else s
    | .either a b =>
      let s := evalTest fuel false a s
      if s.isOn ∧ s.status ≠ 0 then evalTest fuel false b s else s
    | .opposite a =>
      let s := evalTest fuel true a s
      if s.isOn then { s with status := if s.status = 0 then 1 else 0 } else s
    | .term ws =>
      let (os, s) := ws.foldl (fun (acc : List Double.Operand × St) w =>
        if acc.2.isOn then
          let (f, s) := expandField fuel (acc.2.tildes false true w) acc.2
          (acc.1 ++ [{ plain := plain? w, field := f }], s)
        else acc) ([], s)
      if s.isOn = false then s
      else
        let s := trace fuel none (Double.shown inverted os) s
        let command := s.command
        let (os, s) := { s with command := some "[[" }.operandNumbers (os.length + 1) os
        let failed : Bool := s.flow = .discarded
        let s := { s with command, flow := if failed then .on else s.flow }
        if failed then { s with status := 1 }
        else
          let m : Double.Manner := { pattern := { s.foldingManner with groups := true } }
          let fits (t : Raw) (f : Field) : Bool := ((Double.regex? m f).bind (Double.parts? m t)).isSome
          let holds := Double.holds m (s.call [] [] []) s.facts fits os
          let s := s.keepMatch os
          { s with status := if Double.misspelled m os then 2 else if holds then 0 else 1 }

/-- one command. When it is `tested`, a failure does not end the shell -/
def eval : (fuel : Nat) → (tested : Bool) → Script → St → St
  | 0, _, _, s => { s with flow := .ended (.code 2) }
  | fuel + 1, tested, c, s =>
    if s.isOn = false ∨ s.has 'n' then s
    else
      let checked (s : St) : St :=
        if tested = false ∧ s.isOn ∧ s.status ≠ 0 then
          let s := if s.wide then runTrap fuel "ERR" s else s
          if s.has 'e' ∧ s.isOn then { s with flow := .ended (.code s.status) } else s
        else s
      let single (s : St) : St := { s with statuses := [s.status] }
      match c with
      | .nothing => { s with status := 0 }
      | .sequence a b => eval fuel tested b (eval fuel tested a s)
      | .both a b =>
        let s := eval fuel true a s
        if s.isOn ∧ s.status = 0 then eval fuel tested b s else s
      | .either a b =>
        let s := eval fuel true a s
        if s.isOn ∧ s.status ≠ 0 then eval fuel tested b s else s
      | .negated b =>
        let s := eval fuel true b s
        if s.isOn then { s with status := if s.status = 0 then 1 else 0 } else s
      | .choice a b d =>
        let s := eval fuel true a s
        if s.isOn = false then s
        else if s.status = 0 then eval fuel tested b s
        else eval fuel tested d s
      | .background b => evalBehind fuel b s
      | .pipe _ _ => heed fuel (checked (evalPipe fuel tested (pipeline c) s))
      | .apart b rs =>
        let s := if s.wide ∧ !s.trapped then { s with current := c } else s
        let s := s.takeIndex.1
        let (child, ok) := redirectAll fuel rs { s.part false with sheltered := true }
        let child := if ok then eval fuel tested b child else child
        heed fuel (checked (single (s.absorb (finish fuel child) true)))
      | .redirected line b rs =>
        let fds := s.fds
        let (s, ok) := redirectAll fuel rs (if line = 0 then s else { s with line })
        if s.isOn = false then s
        else if ok then runReaders fuel false ((eval fuel tested b s).restore fds)
        else checked (s.restore fds)
      | .loop until_ a b =>
        let s := evalLoop fuel tested until_ a b 0 { s with loops := s.loops + 1 }
        { s with loops := s.loops - 1 }
      | .forEach line name ws b shown =>
        if s.wide ∧ isName name = false then
          checked ({ s with line }.complain ('\x60' :: name ++ "': not a valid identifier") 1)
        else
          let (values, s) := expandArguments fuel ws { s with line }
          if s.isOn = false then s
          else
            let s := evalEach fuel tested line name values b shown { s with status := 0, loops := s.loops + 1 }
            let s := s.leaveLoop s.status
            { s with loops := s.loops - 1 }
      | .count line a b d body shown =>
        let sum (w : Word) (t : Raw) : Word × Raw :=
          if t.all Raw.isSpace then ([.text ['1'] true], ['1']) else (w, t)
        let start := sum a (shown.headD [])
        let (n, s) := evalSum fuel line start.1 start.2 s
        if n.isNone ∨ s.isOn = false then s
        else
          let condition := sum b (shown.getD 1 [])
          let step := sum d (shown.getD 2 [])
          let s := evalCount fuel tested line condition step body { s with status := 0, loops := s.loops + 1 }
          { s with loops := s.loops - 1 }
      | .select line w cases shown =>
        let s := announce fuel line c s
        let s := if s.wide then trace fuel none ("case " ++ shown ++ " in") s else s
        let (t, s) := expandText fuel (s.tildes false true w) s
        if s.isOn then evalCases fuel tested t cases { s with status := 0 } else s
      | .menu line name ws b shown =>
        if isName name = false then
          checked ({ s with line }.complain ('\x60' :: name ++ "': not a valid identifier") 1)
        else
          let (values, s) := expandArguments fuel ws { s with line }
          if s.isOn = false ∨ values = [] then s
          else
            let s := trace fuel none ("select " ++ name ++ " in " ++ shown) (announce fuel line c s)
            let s := evalMenu fuel tested true name values b 0 { s with loops := s.loops + 1 }
            { s with loops := s.loops - 1 }
      | .define name line b =>
        if s.wide ∧ isName name = false ∧ '/' ∈ name ∧ s.has '6' then s.complain ('\x60' :: name ++ "': not a valid identifier") 1
        else { s with functions := (name, line, b) :: s.functions.filter (·.1 ≠ name), status := 0 }
      | .group b => eval fuel tested b s
      | .timed plainly b =>
        let begun := s.world.clock
        let s := eval fuel tested b s
        let isShown : Bool := s.isOn || s.flow matches .ended (.code _)
        if isShown ∧ s.lookup? "TIMEFORMAT" ≠ some [] then
          s.write 2 (St.shownTime (plainly || s.has '6') (s.world.clock - begun))
        else s
      | .partner line name b =>
        -- it runs ahead of time: its input is empty, and what it prints can be read
        let (world, output) := s.world.add (.gathered [])
        let (world, input) := world.add (.device .null)
        let own := evalBehind fuel b ({ s with world, line }.setStream 1 output)
        let text := own.world.gathered output
        let world := own.world.set output (.supply text)
        let es : List (Raw × Raw) := [(['0'], "63"), (['1'], "60")]
        let number := (own.jobs.head?.map (·.number)).getD []
        let s := ({ own with world, fds := s.fds }.setStream 63 output).setStream 60 input
        let s := (s.put name { elements := some es }).put (name ++ "_PID") { value := some number }
        { s with status := 0 }
      | .condition line ws _ =>
        let s := evalTest fuel false (Double.test ws) (announce fuel line c s)
        if s.isOn then checked (single s) else s
      | .compute line e shown =>
        match evalSum fuel line e shown s with
        | (some n, s) => checked (single { s with status := if n = 0 then 1 else 0 })
        | (none, s) => if s.isOn then checked (single { s with status := 1 }) else s
      | .simple line as ws rs _ =>
        let s := if s.wide then announce fuel line c s else s
        heed fuel (checked (single (evalSimple fuel tested line as ws rs s)))

/-- a command in the background. It is carried out at once, and what it writes gets its place later; one that never
ends is left alone -/
def evalBehind : (fuel : Nat) → Script → St → St
  | 0, _, s => s
  | fuel + 1, b, s =>
    let s :=
      match b with
      | .simple line _ _ _ _ => if s.wide then announce fuel line b s else s
      | _ => s
    let (s, index) := s.takeIndex
    let part := s.part false
    let n := part.self
    let (world, input) := part.world.add (.device .null)
    let last := world.clock + maxAhead
    let deadline := some (min last (world.deadline.getD last))
    let sheltered := s.sheltered || !(b matches .simple ..)
    let child := { part with world := { world with job := n, deadline }, sheltered }.setStream 0 input
    let child : St :=
      match b with
      | .apart b rs =>
        let (child, ok) := redirectAll fuel rs child
        if ok then eval fuel false b child else child
      | b => eval fuel false b child
    let child := finish fuel child
    let job : Job :=
      { number := St.processText n, process := n, index, text := b.shown, exit := child.exit
        ended := child.world.clock }
    let world := { child.world with
      clock := s.world.clock, job := s.world.job, deadline := s.world.deadline, expired := false }
    let s := s.absorb child false
    { s with world, status := 0, jobs := job :: s.jobs }

/-- rounds of a loop over values -/
def evalEach : (fuel : Nat) → (tested : Bool) → (line : Nat) → Raw → List Raw → Script → (shown : Raw) → St → St
  | 0, _, _, _, _, _, _, s => s
  | fuel + 1, tested, line, name, values, b, shown, s =>
    match values with
    | [] => s
    | v :: rest =>
      let s : St :=
        if s.wide then
          let s := announce fuel line (.forEach line name [] .nothing shown) s
          trace fuel none ("for " ++ name ++ " in " ++ shown) s
        else s
      let old := (s.variable_ name).getD {}
      if s.isOn = false then s
      else if s.wide ∧ old.readonly then s.complain (name ++ ": readonly variable") 1
      else
        let s := if s.wide ∧ old.refers then s.put name { old with value := some v } else s.bind name v
        let s := if s.isOn then eval fuel tested b s else s
        match s.flow with
        | .on => evalEach fuel tested line name rest b shown s
        | .continuing n => if n ≤ 1 then evalEach fuel tested line name rest b shown { s with flow := .on } else s
        | _ => s

/-- rounds of a loop; `result` is the status if the loop ends now -/
def evalLoop : (fuel : Nat) → (tested until_ : Bool) → Script → Script → (result : Nat) → St → St
  | 0, _, _, _, _, _, s => s
  | fuel + 1, tested, until_, a, b, result, s =>
    let s := eval fuel true a s
    match s.flow with
    | .on =>
      if (s.status = 0) = until_ then { s with status := result }
      else
        let s := eval fuel tested b s
        match s.flow with
        | .on => evalLoop fuel tested until_ a b s.status s
        | .continuing n =>
          if n ≤ 1 then evalLoop fuel tested until_ a b s.status { s with flow := .on } else s.leaveLoop s.status
        | _ => s.leaveLoop s.status
    | .continuing n =>
      if n ≤ 1 then evalLoop fuel tested until_ a b result { s with flow := .on } else s.leaveLoop result
    | _ => s.leaveLoop result

/-- the commands of the first case that fits, and of those that its end leads to -/
def evalCases : (fuel : Nat) → (tested : Bool) → Raw → List (List Word × Raw × Script × After) → St → St
  | 0, _, _, _, s => s
  | _, _, _, [], s => s
  | fuel + 1, tested, t, (ps, _, b, after) :: rest, s =>
    let (fits, s) := ps.foldl (fun (acc : Bool × St) q =>
      if acc.1 ∨ acc.2.isOn = false then acc
      else
        let (f, s) := expandField fuel (acc.2.tildes false true q) acc.2
        ((s.patternOf s.foldingManner f).accepts (s.inward t), s)) (false, s)
    if s.isOn = false then s
    else if fits then
      let s := evalBody fuel tested b s
      match after with
      | .stop => s
      | .next => evalNext fuel tested t rest s
      | .others => evalCases fuel tested t rest s
    else evalCases fuel tested t rest s

/-- the commands of a case; there may be none -/
def evalBody : (fuel : Nat) → (tested : Bool) → Script → St → St
  | 0, _, _, s => s
  | fuel + 1, tested, b, s =>
    match b with
    | .nothing => { s with status := 0 }
    | b => eval fuel tested b s

/-- the commands of the next case, whether it fits or not -/
def evalNext : (fuel : Nat) → (tested : Bool) → Raw → List (List Word × Raw × Script × After) → St → St
  | 0, _, _, _, s => s
  | _, _, _, [], s => s
  | fuel + 1, tested, t, (_, _, b, after) :: rest, s =>
    let s := evalBody fuel tested b s
    match after with
    | .stop => s
    | .next => evalNext fuel tested t rest s
    | .others => evalCases fuel tested t rest s

/-- rounds of choices from a menu; `result` is the status if the input ends now -/
def evalMenu : (fuel : Nat) → (tested shows : Bool) → Raw → List Raw → Script → (result : Nat) → St → St
  | 0, _, _, _, _, _, _, s => s
  | fuel + 1, tested, shows, name, values, b, result, s =>
    let s := if shows then s.write 2 (St.menu values) else s
    let s := s.write 2 ((s.lookup? "PS3").getD "#? ")
    let s := s.read [("REPLY" : Raw)]
    if s.isOn = false then s
    else if s.status ≠ 0 then { s.write 1 ['\n'] with status := 1 }
    else
      let reply := (s.lookup? "REPLY").getD []
      if reply = [] then evalMenu fuel tested true name values b result s
      else
        let chosen :=
          match Raw.nat? reply with
          | some (n + 1) => values.getD n []
          | _ => []
        let s := eval fuel tested b (s.assign name chosen)
        match s.flow with
        | .on => evalMenu fuel tested false name values b s.status s
        | .continuing n =>
          if n ≤ 1 then evalMenu fuel tested false name values b s.status { s with flow := .on } else s.leaveLoop s.status
        | _ => s.leaveLoop s.status

/-- rounds of a loop with an arithmetic condition -/
def evalCount : (fuel : Nat) → (tested : Bool) → (line : Nat) → (condition step : Word × Raw) → Script → St → St
  | 0, _, _, _, _, _, s => s
  | fuel + 1, tested, line, condition, step, b, s =>
    let (n, s) := evalSum fuel line condition.1 condition.2 s
    if n.getD 0 = 0 ∨ s.isOn = false then s
    else
      let s := eval fuel tested b s
      let s :=
        match s.flow with
        | .continuing n => if n ≤ 1 then { s with flow := .on } else s
        | _ => s
      if s.isOn then
        let (n, s) := evalSum fuel line step.1 step.2 s
        if n.isNone then s else evalCount fuel tested line condition step b s
      else s.leaveLoop s.status

/-- commands that read one another's output -/
def evalPipe : (fuel : Nat) → (tested : Bool) → List Script → St → St
  | 0, _, _, s => s
  | fuel + 1, tested, cs, s =>
    let last := cs.length - 1
    let status := s.status
    let s := s.takeIndex.1
    let (s, _, statuses) := ((List.range cs.length).zip cs).foldl
      (fun (acc : St × Option Nat × List Nat) p =>
        let (s, input, statuses) := acc
        let s :=
          match p.2 with
          | .simple line _ _ _ _ => if s.wide then announce fuel line p.2 s else s
          | _ => s
        let reading (s : St) : St :=
          match input with
          | some n => s.setStream 0 n
          | none => s
        let settled (s : St) : St :=
          match input with
          | some n => { s with world := s.world.set n (.supply []) }
          | none => s
        if p.1 = last ∧ s.wide ∧ s.isSet "lastpipe" ∧ 0 < last then
          -- the last command belongs to the script itself
          let fds := s.fds
          let s := (settled (eval fuel tested p.2 { reading s with status })).restore fds
          (s, none, statuses ++ [s.status])
        else
          let sheltered := s.sheltered || !(p.2 matches .simple ..)
          let child := reading { s.part true with status, sheltered }
          let (child, out) : St × Option Nat :=
            if p.1 = last then (child, none)
            else
              let (world, n) := child.world.add (.gathered [])
              ({ child with world }.setStream 1 n, some n)
          -- commands in round brackets need no process of their own here
          let child : St :=
            match p.2 with
            | .apart b rs =>
              let (child, ok) := redirectAll fuel rs child
              if ok then eval fuel tested b child else child
            | c => eval fuel tested c child
          let child := settled (finish fuel child)
          let child := match out with
            | some n => { child with world := child.world.set n (.supply (child.world.gathered n)) }
            | none => child
          let s := s.absorb child (p.1 = last ∨ !s.wide)
          (s, out, statuses ++ [s.status])) (s, none, [])
    let s := { s with statuses }
    if s.has '|' ∧ s.isOn then { s with status := (statuses.reverse.find? (· ≠ 0)).getD 0 } else s

/-- shows lists that are assigned by a command, with their elements expanded -/
def traceLists : (fuel : Nat) → (stream : Option Nat) → List Assignment → St → St
  | 0, _, _, s => s
  | fuel + 1, stream, as, s =>
    if s.has 'x' then
      as.foldl (fun s a =>
        let shown := ((a.elements.getD []).foldl (fun (acc : List Raw × St) w =>
          match element? w with
          | some (index, _, value) =>
            let (i, s) := expandText fuel index acc.2
            let (t, s) := expandText fuel value s
            (acc.1 ++ ['[' :: Quoting.plain i ++ "]=" ++ Quoting.plain t], s)
          | none =>
            let (ts, s) := expandWord fuel w acc.2
            (acc.1 ++ ts.map Quoting.plain, s)) ([], { s with options := s.options.filter (· ≠ 'x') })).1
        trace fuel stream (a.name ++ "=(" ++ Text.paste [' '] shown ++ [')']) s) s
    else s

/-- a command made of words -/
def evalSimple : (fuel : Nat) → (tested : Bool) → (line : Nat) → List Assignment → List Word → List Redirection →
    St → St
  | 0, _, _, _, _, _, s => s
  | fuel + 1, tested, line, as, ws, rs, s =>
    -- what looks like an assignment may be one wherever it stands
    let (as, ws) : List Assignment × List Word :=
      if s.wide ∧ s.has 'k' then (as ++ ws.filterMap (assignment? true), ws.filter fun w => (assignment? true w).isNone)
      else (as, ws)
    let (words, s) := expandArguments fuel ws { s with line, inner := 0 }
    if s.isOn = false then s
    else
      let stripped : List Raw × Bool × Bool :=
        if s.functions.any fun f => f.1 = ("command" : Raw) then (words, false, false)
        else St.withoutPrefix (words.length + 1) words
      let (args, isPlain, usual) := stripped
      let isForced : Bool :=
        s.wide && args.head? = some "builtin" && ((args.tail.head?).map s.carriesOut).getD false
      let (args, isPlain) : List Raw × Bool := if isForced then (args.tail, true) else (args, isPlain)
      let function? := if isPlain then none else args.head?.bind fun n => s.functions.find? (·.1 = n)
      let special := !isPlain && !s.wide && function?.isNone && (args.head?.map isSpecialCommand).getD false
      let fds := s.fds
      let errors := s.stream? 2
      let declares := s.wide && (args.head?.map takesLists).getD false
      let lists := if declares then as.filter (·.elements.isSome) else []
      let as := if declares then as.filter (·.elements.isNone) else as
      let old := as.map fun a => (a.name, s.variable_ a.name)
      let before := s
      let finally_ (s : St) : St := if s.wide then { s with lastWord := words.getLastD [] } else s
      let back (s : St) : St := if special ∨ words.isEmpty then s else s.putBack old
      let assigned (s : St) : St :=
        let s := assignAll fuel errors as s
        if s.isOn = false ∨ words.isEmpty ∨ special then s
        else
          as.foldl (fun s a =>
            match s.variable_ a.name with
            | some v => s.put a.name { v with exported := true }
            | none => s) { s with inFront := as.map (·.name) }
      let traced (s : St) : St :=
        if s.has 'x' = false then s
        else if s.wide then
          if words.isEmpty then s
          else
            let s := traceLists fuel errors lists s
            let s := trace fuel errors (Text.paste [' '] (words.map (St.shownWord true))) s
            let isLocking : Bool := args.head?.any fun n : Raw => n = "export" || n = "readonly"
            if isLocking then
              args.tail.foldl (fun s a =>
                let name := a.takeWhile (· ≠ '=')
                if isName name ∧ name.length < a.length then
                  trace fuel errors (St.shownAssignment name (a.drop (name.length + 1))) s
                else s) s
            else s
        else
          let shown := as.map fun a => a.name ++ '=' :: (s.lookup? a.name).getD []
          trace fuel errors (Text.paste [' '] (shown ++ words)) s
      -- the two shells prepare a command in different orders
      let isProgram : Bool := s.wide && function?.isNone && args.head?.any fun n => !s.carriesOut n
      let ready := if s.wide then (let s := assigned s; if s.isOn then traced s else s) else s
      let (s, ok) : St × Bool :=
        if s.wide then
          let (after, ok) := if ready.isOn then redirectAll fuel rs ready else (ready, true)
          -- the descriptors of a program are set up in its own process, and what fails there ends that
          if isProgram ∧ ready.isOn ∧ after.isOn = false then
            ({ ready with world := after.world, status := if after.flow = .discarded then 1 else after.exit.status }, false)
          else (after, ok)
        else
          let (s, ok) := redirectAll fuel rs s
          if s.isOn ∧ ok then
            let s := assigned s
            (if s.isOn then traced s else s, true)
          else (s, ok)
      if s.isOn = false then s
      else if ok = false then
        let s := { (back s).restore fds with inFront := before.inFront }
        if special then { s with flow := .ended (.code 2) } else finally_ s
      else
        match args with
        | [] => finally_ { runReaders fuel false (s.restore fds) with status := s.inner }
        | name :: args =>
          let operands := if args.head? = some "--" then args.tail else args
          if name = "exec" ∧ function?.isNone ∧ operands.isEmpty then
            runReaders fuel false { back s with status := 0, inFront := before.inFront }
          else
            let s :=
              match function? with
              | some (n, from_, b) => callFunction fuel tested n from_ b args s
              | none =>
                if s.carriesOut name then
                  let s := callBuiltIn fuel tested name args s
                  -- behind another command a failure does not end the shell
                  let s : St :=
                    if isPlain ∧ !s.wide ∧ s.died then { s with flow := .on, status := 2, died := false } else s
                  if lists.isEmpty then s
                  else
                    let options := s.options
                    let open_ := s.locked false lists { s with options := options.filter (· ≠ 'x') }
                    { s.locked true lists (assignAll fuel none lists open_) with options }
                else
                  let after := callProgram fuel name (name :: args) usual none s true
                  if s.wide then { after with bindings := ready.bindings, held := ready.held } else after
            finally_ (runReaders fuel false { (back s).restore fds with inFront := before.inFront })

def callFunction : (fuel : Nat) → (tested : Bool) → Raw → (from_ : Nat) → Script → List Raw → St → St
  | 0, _, _, _, _, _, s => s
  | fuel + 1, tested, name, from_, b, args, s =>
    let isAside (t : Raw × Raw) : Bool :=
      s.wide && ((!s.has 'T' && (t.1 = "DEBUG" || t.1 = "RETURN")) || (!s.has 'E' && t.1 = "ERR"))
    let (aside, traps) := s.traps.partition isAside
    let s :=
      if s.wide ∧ s.has 'T' then { runTrap fuel "DEBUG" { s with line := from_ } with line := s.line } else s
    let inner := eval fuel tested b { s with
      calls := name :: s.calls, callLines := s.line :: s.callLines, arguments := args, locals := [] :: s.locals
      loops := 0, traps }
    let ends : Bool := inner.flow = .on || inner.flow = .returning
    let inner : St :=
      if s.wide ∧ ends then { runTrap fuel "RETURN" { inner with flow := .on } with flow := inner.flow } else inner
    let inner := inner.dropLocals.putTrapsBack aside
    { inner with
      arguments := if inner.locals.length = s.locals.length then s.arguments else inner.arguments
      loops := s.loops
      calls := s.calls
      callLines := s.callLines
      line := if s.wide then s.line else inner.line
      flow := if inner.flow = .returning then .on else inner.flow }

/-- the commands of a file as part of the script -/
def callSource : (fuel : Nat) → (tested : Bool) → (outer : Option Raw) → List Raw → St → St
  | 0, _, _, _, s => s
  | fuel + 1, tested, outer, args, s =>
    match (if args.head? = some "--" then args.tail else args) with
    | [] => if s.wide then (s.complain "filename argument required" 2).usage else { s with status := 0 }
    | file :: more =>
      let found : Except OsError Raw :=
        if '/' ∈ file then .ok file
        else
          match Image.lookup s.world.tree s.here (s.lookup? "PATH") file with
          | .ok p => .ok p
          | .error e => if s.wide then .ok file else .error e
      match found with
      | .error _ => s.die (file ++ ": not found")
      | .ok path =>
        match (s.call [] [] []).read path with
        | .error e =>
          if s.wide then
            if e = .isDirectory then s.complain (file ++ ": is a directory") 1
            else { s with command := none }.complain (file ++ ": " ++ e.words) 1
          else if e = .isDirectory then { s with status := 0 }
          else s.die (s.openFault path false e)
        | .ok text =>
          let arguments := s.arguments
          let s := if s.wide ∧ more ≠ [] then { s with arguments := more } else s
          let (sources, texts) := (s.sources, s.texts)
          let s : St := { s with sources := file :: sources, texts := texts + 1, command := outer }
          let text : Pos := { rest := text, line := 1, wide := s.wide, within := s.wide }
          let s : St := { runText fuel tested false text s with sources, texts }
          let s := if s.wide ∧ more ≠ [] then { s with arguments } else s
          let s := { s with flow := if s.flow = .returning then .on else s.flow }
          if s.wide then runTrap fuel "RETURN" s else s

/-- puts a program in the place of the shell -/
def callExec : (fuel : Nat) → List Raw → St → St
  | 0, _, s => s
  | fuel + 1, args, s =>
    match Tool.options (Tool.letters "cla:") true (if s.wide ∨ args.head? = some "--" then args else "--" :: args) with
    | .error _ => s
    | .ok p =>
      match p.operands with
      | [] => { s with status := 0 }
      | name :: rest =>
        let first := (p.value? 'a').getD name
        let first := if p.has 'l' then '-' :: first else first
        callProgram fuel name (first :: rest) false (if p.has 'c' then some [] else none) s false

/-- a command of the shell itself -/
def callBuiltIn : (fuel : Nat) → (tested : Bool) → Raw → List Raw → St → St
  | 0, _, _, _, s => s
  | fuel + 1, tested, name, args, s =>
    let outer := s.command
    let s := { s with command := some name }
    let own : St :=
      match String.ofList name with
      | "eval" =>
        let text := Text.paste [' '] (if args.head? = some "--" then args.tail else args)
        if s.wide then
          let text : Pos := { rest := text, line := s.line, wide := true, title := "eval: ", within := true }
          { runText fuel tested false text { s with command := outer, texts := s.texts + 1 } with texts := s.texts }
        else runText fuel tested false { rest := text, line := 1, silent := true } s
      | "." | "source" => callSource fuel tested outer args s
      | "exec" => callExec fuel args s
      | "builtin" =>
        match (if args.head? = some "--" then args.tail else args) with
        | [] => { s with status := 0 }
        | n :: r => if s.carriesOut n then callBuiltIn fuel tested n r s else s.complain (n ++ ": not a shell builtin") 1
      | "command" =>
        let (letters, _, operands) := St.flagsOf (args.length + 1) args [] []
        let search := if 'p' ∈ letters then some (usualSearch s.wide) else s.lookup? "PATH"
        if operands.isEmpty ∨ ('v' ∉ letters ∧ 'V' ∉ letters) then { s with status := 0 }
        else s.describeCommand (decide ('V' ∈ letters)) search operands
      | "type" => s.typeCommand args
      | "hash" => s.hashCommand args
      | "enable" => s.enableCommand args
      | "compgen" => s.completions args
      | "let" =>
        if args.isEmpty then s.complain "expression expected" 1
        else
          let (s, n) := args.foldl (fun (acc : St × Option Int) a =>
            if acc.1.isOn ∧ acc.2.isSome then acc.1.compute a else acc) (s, some 0)
          { s with
            flow := if s.flow = .discarded then .on else s.flow
            status := if s.isOn ∧ n.getD 0 ≠ 0 then 0 else 1 }
      | _ =>
        match builtIn? s.wide name with
        | some f => f s args
        | none => s
    { (s.refused? args).getD own with command := outer }

/-- a program, in a process of its own or in place of the shell -/
def callProgram : (fuel : Nat) → (name : Raw) → (command : List Raw) → (usual : Bool) →
    (given : Option (List (Raw × Raw))) → St → (forked : Bool) → St
  | 0, _, _, _, _, s, _ => s
  | fuel + 1, name, command, usual, given, s, forked =>
    let t := s.world.tree
    let atPath : Bool := '/' ∈ name
    let replaced (s : St) : St :=
      if forked ∨ s.isSet "execfail" then s else { s with flow := .ended (.code s.status) }
    let remembered := if usual ∨ s.inFront.contains "PATH" then none else s.found.find? (·.1 = name)
    let search := if usual then some (usualSearch s.wide) else s.lookup? "PATH"
    let path : Except OsError Raw :=
      match (if s.wide then remembered else none) with
      | some f => .ok f.2.1
      | none => if atPath then .ok name else Image.lookup t s.here search name
    match path with
    | .error e => replaced (s.notFound name e false (!forked))
    | .ok path =>
      let s := if atPath ∨ s.inFront.contains "PATH" then s else s.remember name path 1
      let image : Except OsError Image :=
        match Image.ofPath t s.here path command with
        | .error .execFormat =>
          .ok { program := if s.wide then "bash" else "sh", arguments := "/bin/sh" :: path :: command.tail }
        | other => other
      match image with
      | .error e => replaced (s.notFound (if s.wide then path else name) e true (!forked))
      | .ok image =>
        let own := if s.wide then s.environment.filter (·.1 ≠ ['_']) ++ [(['_'], path)] else s.environment
        let s := if forked then s.takeIndex.1 else s
        let child := runImage fuel image (given.getD own) s
        let s := s.absorb child true
        if forked then s else { s with flow := .ended child.exit, traps := [] }

/-- what is to be done at the end of a shell -/
def finish : (fuel : Nat) → St → St
  | 0, s => s
  | fuel + 1, s =>
    let ended : St :=
      match s.exit, s.traps.find? (·.1 = ("EXIT" : Raw)) with
      | .code n, some (_, action) =>
        let traps := s.traps.filter (·.1 ≠ ("EXIT" : Raw))
        let s : St := { s with flow := .on, status := n, traps, texts := s.texts + 1 }
        let s := runText fuel false true { rest := action, line := 1, wide := s.wide, silent := !s.wide } s
        match s.flow with
        | .ended _ => s
        | _ => { s with flow := .ended (.code n) }
      | e, _ => { s with flow := .ended e }
    if ended.readers.isEmpty then ended
    else { runReaders fuel true { ended with flow := .on } with flow := ended.flow }

/-- does what is to be done at the signals that have come, and when the time is up -/
def heed : (fuel : Nat) → St → St
  | 0, s => s
  | fuel + 1, s =>
    if s.world.expired then
      match s.traps.find? (·.1 = ("TERM" : Raw)) with
      | some (_, action) =>
        let s := { s with world := { s.world with expired := false, deadline := none }, flow := .on }
        runText fuel false true { rest := action, line := 1, wide := s.wide, silent := !s.wide } s
      | none => { s with flow := .ended (.signal 15) }
    else if s.world.sent.isEmpty then s
    else
      match s.world.sent.find? (·.1 = s.self) with
      | none => s
      | some (p, n) =>
        let s := { s with world := { s.world with sent := s.world.sent.erase (p, n) } }
        let name := ((signalNames.find? (·.2 = n)).map (·.1)).getD []
        let s :=
          match (if n = 9 then none else s.traps.find? (·.1 = name)) with
          | some (_, action) =>
            let status := s.status
            let text : Pos := { rest := action, line := 1, wide := s.wide, silent := !s.wide }
            let texts := s.texts
            let s := if s.isOn then runText fuel false true text { s with texts := texts + 1 } else s
            let s := { s with texts }
            if s.isOn then { s with status } else s
          | none => if harmlessSignals.contains n ∨ s.deaf.contains name then s else { s with flow := .ended (.signal n) }
        if s.isOn then heed fuel s else s

/-- the commands of a text; `ran` says that there have been some -/
def runText : (fuel : Nat) → (tested ran : Bool) → Pos → St → St
  | 0, _, _, _, s => s
  | fuel + 1, tested, ran, p, s =>
    if s.isOn = false then s
    else
      -- the last line ends with a line feed as well
      let rest : Raw := if p.wide ∧ p.rest ≠ [] ∧ p.rest.getLast? ≠ some '\n' then p.rest ++ ['\n'] else p.rest
      let p := { p with
        rest, aliases := if p.wide ∧ !s.isSet "expand_aliases" then [] else s.aliases, groups := s.manner.groups, byCharacters := s.byCharacters }
      match readCommand p with
      | .error m => (s.echo p (Pos.linesUpTo p m.line)).misread p m
      | .ok (none, _) =>
        let s := s.echo p p.rest.length
        if ran then s else { s with status := 0 }
      | .ok (some c, behind) =>
        let echoed := if s.has 'v' then p.touched behind else 0
        let seen := s.echo p echoed
        let s := eval fuel tested c (seen.warn behind.unended)
        let consumed := p.rest.length - behind.rest.length
        let echoed := if s.has 'v' ∧ !seen.has 'v' then p.touched behind else echoed
        let p := { behind with unended := [], echoed := if echoed = 0 then 0 else echoed - consumed }
        let s :=
          if s.flow = .discarded then { s with status := 1, flow := if s.isPart then .ended (.code 1) else .on } else s
        runText fuel tested true p s

/-- a program in a process of its own, with descriptors of the state that it is started in; what is left is the state
of that process -/
def runImage : (fuel : Nat) → Image → List (Raw × Raw) → St → St
  | 0, _, _, s => { s with flow := .ended (.code 2) }
  | fuel + 1, image, environment, s =>
    let process := s.world.processes + 1
    let child : St :=
      { world := { s.world with processes := process }, process, self := process, starter := s.process, here := s.here, umask := s.umask
        name := image.arguments.headD [], fds := s.fds
        deaf := s.deaf ++ (s.traps.filter fun t => t.2 = [] && signalNumber t.1 ≠ 0).map (·.1) }
    if image.program = "sh" ∨ image.program = "dash" then runShell fuel false image.arguments environment child
    else if image.program = "bash" then runShell fuel true image.arguments environment child
    else
      match Tool.find? image.program with
      | none => { child with flow := .ended (.code 127) }
      | some tool => runTool fuel tool (child.call child.name image.arguments.tail environment) environment child

/-- a tool, called once more after each command that it asks for -/
def runTool : (fuel : Nat) → (Tool.Call → Tool.Answer) → Tool.Call → List (Raw × Raw) → St → St
  | 0, _, _, _, s => { s with flow := .ended (.code 2) }
  | fuel + 1, tool, call, environment, s =>
    let a := (tool call).spoken call.isWide
    match a.ask with
    | none => runAnswer fuel a environment s
    | some k =>
      let s := (s.settle a.tree).say a.said
      let name := k.command.headD []
      let place := k.place.getD s.here
      let search := (k.environment.bind fun e => e.find? (·.1 = ("PATH" : Raw))).map (·.2)
      match Image.find s.world.tree place search name k.command with
      | .error _ => { s with flow := .ended (.code 2) }
      | .ok image =>
        let given := s.world.streams.size
        let started := { s with here := place }
        let started :=
          match k.input with
          | some r => started.openText 0 r
          | none => started
        let (world, n) := started.world.add (.gathered [])
        let (world, m) := world.add (.gathered [])
        let started := { started with world }
        let started := if k.captured then started.setStream 1 n else started
        let started :=
          match k.complaints with
          | .shared => started
          | .captured => started.setStream 2 m
          | .joined => started.setStream 2 ((started.stream? 1).getD n)
        let begun := s.world.clock
        let child := runImage fuel image (k.environment.getD environment) started
        let spent := child.world.clock - begun
        let output := child.world.gathered n
        let complaints := child.world.gathered m
        let left := if k.input.isSome then child.world.left given else []
        let s := { s with world := (child.world.set n (.gathered [])).set m (.gathered []) }
        let tree := s.seen call.name call.arguments environment
        let told : Tool.Told :=
          match child.exit with
          | .code status => { output, complaints, left, status, tree, spent }
          | .signal n => { output, complaints, left, status := 128 + n, signal := some n, tree, spent }
        let call := { call with
          told := call.told ++ [told]
          input := if k.input.isNone then s.left 0 else call.input }
        if s.world.expired then { s with flow := .ended (.signal 15) } else runTool fuel tool call environment s

def runAnswer : (fuel : Nat) → Tool.Answer → List (Raw × Raw) → St → St
  | 0, _, _, s => s
  | fuel + 1, a, environment, s =>
    let s := s.settle a.tree
    let s := { s with world := s.world.pass a.slept }
    let s := if s.world.expired then s else (s.takeInput a.taken).say a.said
    let outer := s.world.deadline
    let own := a.limit.map fun l => s.world.clock + l.span
    let s := { s with world := { s.world with deadline := (own.map fun n => min n (outer.getD n)).or outer } }
    let (s, exits, refused, _) := a.steps.foldl (fun (acc : St × List Exit × Option Nat × Nat) step =>
      let (s, exits, refused, skipped) := acc
      let stopped : Bool := a.outcome = .gathered && (refused.isSome || exits.any fun e =>
        match e with
        | .code n => n = 255
        | .signal _ => true)
      if stopped ∨ s.world.expired then acc
      else if 0 < skipped then (s, exits, refused, skipped - 1)
      else
        match step with
        | .skipUnlessOk n => (s, exits, refused, if exits.getLast? = some (.code 0) then 0 else n)
        | .say isError r => (s.write (if isError then 2 else 1) r, exits, refused, 0)
        | .run command input own place =>
          let s := { s with here := place.getD s.here }
          let environment := own.getD environment
          let search := (environment.find? (·.1 = ("PATH" : Raw))).map (·.2)
          let name := command.headD []
          let image : Except OsError Image :=
            match Image.find s.world.tree s.here search name command with
            | .error .execFormat => .ok { program := "sh", arguments := "/bin/sh" :: command }
            | other => other
          match image with
          | .error e =>
            let s := s.startFault (Tool.Locale.isWide environment) s.name name e
            (s, exits ++ [.code s.status], some s.status, 0)
          | .ok image =>
            let started :=
              match input with
              | some r => s.openText 0 r
              | none => s
            let child := runImage fuel image environment started
            let s := { s with world := child.world }
            let s := if a.outcome = .gathered then s.reportEnd name child.exit else s
            (s, exits ++ [child.exit], refused, 0)) (s, [], none, 0)
    let exit : Exit :=
      match a.outcome with
      | .own => .code a.status
      | .last => exits.getLastD (.code a.status)
      | .failing => .code (if exits.all fun e => e = .code 0 then a.status else 1)
      | .gathered => .code (refused.getD (St.gathered a.status exits))
      | .signal n => .signal n
    let isUp : Bool := s.world.expired && own.any fun n => n ≤ s.world.clock
    let s := { s with world := { s.world with deadline := outer, expired := s.world.expired && !isUp } }
    let exit : Exit :=
      match a.limit with
      | some l =>
        if isUp then if l.signal = 9 then .signal 9 else if l.keeps then .code (128 + l.signal) else .code 124 else exit
      | none => if s.world.expired then .signal 15 else exit
    { s with flow := .ended exit }

/-- a shell in a process of its own -/
def runShell : (fuel : Nat) → (wide : Bool) → List Raw → List (Raw × Raw) → St → St
  | 0, _, _, _, s => s
  | fuel + 1, wide, arguments, environment, s =>
    let s := { s with wide, line := 0 }
    match CommandLine.read wide arguments with
    | .error m => { s.write 2 (m.message wide s.name) with flow := .ended (.code 2) }
    | .ok c =>
      let s := s.setUp c environment
      let begin (text : Raw) (name : Raw) (given : Bool) : St :=
        let text : Pos := { rest := text, line := 1, wide, title := if given then "-c: " else [], silent := (c.source matches .text _) && !wide }
        finish fuel (runText fuel false false text { s with name, given })
      match c.source with
      | .text t => begin t c.name wide
      | .input =>
        let text := s.left 0
        let s := s.takeInput .everything
        finish fuel (runText fuel false false { rest := text, line := 1, wide } s)
      | .file p =>
        match (s.call [] [] []).read p with
        | .ok text => begin text c.name false
        | .error e =>
          if wide then
            let s := s.write 2 (s.name ++ ": " ++ p ++ ": " ++ e.words ++ ['\n'])
            { s with flow := .ended (.code (if e = OsError.noEntry then 127 else 126)) }
          else
            let s := s.write 2 (s.name ++ ": 0: " ++ s.openFault p false e ++ ['\n'])
            { s with flow := .ended (.code 2) }

end

/-- how deep a script may go -/
def maxDepth : Nat :=
  1000000

end IncludeAudit.Shell
