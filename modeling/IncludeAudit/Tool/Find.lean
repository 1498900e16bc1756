/-
Finding files: a walk over directories with a condition for each thing on the way.

- `Find.Test`: conditions and what they do, `Find.read`: conditions as words spell them, `find`: the walk.
-/
import IncludeAudit.Regex.Reader
import IncludeAudit.Tool.Listing

namespace IncludeAudit.Tool

namespace Find

/-- a number that something is compared with -/
inductive Bound
  | exactly (n : Nat)
  | more (n : Nat)
  | less (n : Nat)
  deriving DecidableEq, Repr

/-- the number is as the bound says -/
def Bound.holds (b : Bound) (n : Nat) : Bool :=
  match b with
  | .exactly m => n = m
  | .more m => m < n
  | .less m => n < m

/-- which bits of a mode are asked for -/
inductive Bits
  | exactly (n : Nat)
  | all (n : Nat)
  | any (n : Nat)
  deriving DecidableEq, Repr

/-- a condition, which may also do something -/
inductive Test
  | constant (b : Bool)
  | not_ (t : Test)
  | and_ (a b : Test)
  | or_ (a b : Test)
  /-- the first one counts for nothing -/
  | list (a b : Test)
  | name (glob : Raw) (folded : Bool)
  | path (glob : Raw) (folded : Bool)
  | target (glob : Raw) (folded : Bool)
  | regex (r : Regex) (folded : Bool)
  | kind (letters : Raw)
  | kindBehind (letters : Raw)
  | empty
  | size (b : Bound) (unit : Nat)
  | mode (b : Bits)
  | links (b : Bound)
  | same (p : Place)
  | startable
  | print (ending : Char)
  | format (f : Raw)
  | long
  | run (command : List Raw) (inside : Bool)
  | gather (command : List Raw)
  | delete
  | prune
  | quit
  deriving DecidableEq, Repr

structure Walk where
  followTop : Bool := false
  follow : Bool := false
  least : Nat := 0
  most : Nat := maxDepth
  inner : Bool := false
  deriving DecidableEq, Repr

/-! ## Reading conditions -/

/-- words that are read as conditions -/
structure Reading where
  rest : List Raw
  walk : Walk := {}
  /-- the condition that a pattern stood behind -/
  pattern : Option Raw := none
  deriving DecidableEq, Repr

abbrev Reader := StateT Reading (Except Raw)

/-- stops with a complaint -/
def bad {α : Type} (message : Raw) : Reader α :=
  throw message

/-- a mark around a word in a complaint -/
def ticked (w : Raw) : Raw :=
  '\x60' :: w ++ ['\'']

/-- the word behind a condition -/
def argument (name : Raw) : Reader Raw := do
  let s ← get
  match s.rest with
  | w :: r =>
    set { s with rest := r }
    return w
  | [] => bad ("missing argument to " ++ ticked name)

def bound? (w : Raw) : Option Bound :=
  match w with
  | '+' :: r => (Raw.nat? r).map .more
  | '-' :: r => (Raw.nat? r).map .less
  | r => (Raw.nat? r).map .exactly

/-- the bytes of a unit of size -/
def unitOf (c : Char) : Option Nat :=
  (([('b', 512), ('c', 1), ('w', 2), ('k', 1024), ('M', 1048576), ('G', 1073741824)] : List (Char × Nat)).find?
    fun p => p.1 = c).map (·.2)

def size? (w : Raw) : Option Test :=
  match w.getLast? with
  | none => none
  | some l =>
    if l.isDigit then (bound? w).map fun b => .size b 512
    else
      match unitOf l, bound? w.dropLast with
      | some u, some b => some (.size b u)
      | _, _ => none

/-- bits of a mode as they are spelled -/
def bits? (w : Raw) : Option Bits :=
  let number (r : Raw) : Option Nat := if r = [] then none else Mode.change 0 false r 0
  match w with
  | '-' :: r => (number r).map .all
  | '/' :: r => (number r).map .any
  | r => (number r).map .exactly

/-- letters for kinds as they are spelled -/
def kinds (name w : Raw) : Reader Raw := do
  let ps := Text.pieces ',' w
  if w = [] then bad ("Arguments to " ++ name ++ " should contain at least one letter")
  else if ps.getLast? = some [] then
    bad ("Last file type in list argument to " ++ name ++ " is missing, i.e., list is ending on: ','")
  else if ps.any fun p => 1 < p.length then
    bad ("Must separate multiple arguments to " ++ name ++ " using: ','")
  else
    match ps.flatten.find? fun c => !(c ∈ ("fdlcbps" : Raw)) with
    | some c => bad ("Unknown argument to " ++ name ++ ": " ++ [c])
    | none => return ps.flatten

/-- the words of a command up to its end -/
def command (name : Raw) : Reader (List Raw × Bool) := do
  let s ← get
  let upTo := s.rest.takeWhile (· ≠ ([';'] : Raw))
  -- a plus sign ends a command only behind two braces
  let rec gathered : List Raw → List Raw → Option (List Raw × List Raw)
    | done, ['\x7b', '\x7d'] :: ['+'] :: rest => some ((['\x7b', '\x7d'] :: done).reverse, rest)
    | done, w :: rest => if w = [';'] then none else gathered (w :: done) rest
    | _, [] => none
  match gathered [] s.rest with
  | some (ws, rest) =>
    set { s with rest }
    return (ws.dropLast, true)
  | none =>
    if upTo.length = s.rest.length then bad ("missing argument to " ++ ticked name)
    else if upTo = [] then bad ("invalid argument " ++ ticked [';'] ++ " to " ++ ticked name)
    else
      set { s with rest := s.rest.drop (upTo.length + 1) }
      return (upTo, false)

def condition (c : Call) (name : Raw) : Reader Test := do
  let glob (make : Raw → Bool → Test) (folded : Bool) : Reader Test := do
    let g ← argument name
    modify fun s => { s with pattern := some name }
    return make g folded
  let always : Reader Test := return .constant true
  let placeOf (f : Raw) : Reader Place := do
    match c.tree.locate c.here (Raw.toText f) with
    | .ok p => return p
    | .error e => bad (quote f ++ ": " ++ e.words)
  let depth (set_ : Nat → Walk → Walk) : Reader Test := do
    let w ← argument name
    match Raw.nat? w with
    | some n =>
      modify fun s => { s with walk := set_ n s.walk }
      always
    | none => bad ("Expected a positive decimal integer argument to " ++ name ++ ", but got " ++ quote w)
  if name = "-true" ∨ name = "-noleaf" ∨ name = "-xdev" ∨ name = "-mount" ∨ name = "-follow" then always
  else if name = "-false" ∨ name = "-nouser" ∨ name = "-nogroup" then return .constant false
  else if name = "-name" then glob .name false
  else if name = "-iname" then glob .name true
  else if name = "-path" ∨ name = "-wholename" then glob .path false
  else if name = "-ipath" ∨ name = "-iwholename" then glob .path true
  else if name = "-lname" then glob .target false
  else if name = "-ilname" then glob .target true
  else if name = "-regex" ∨ name = "-iregex" then
    let t ← argument name
    match Regex.read {} t with
    | .ok r => return .regex r (name = "-iregex")
    | .error e => bad ("failed to compile regular expression '" ++ t ++ "': " ++ e.message)
  else if name = "-type" then return .kind (← kinds name (← argument name))
  else if name = "-xtype" then return .kindBehind (← kinds name (← argument name))
  else if name = "-empty" then return .empty
  else if name = "-size" then
    let w ← argument name
    match size? w with
    | some t => return t
    | none => bad ("invalid -size type " ++ ticked (w.getLast?.toList))
  else if name = "-perm" then
    let w ← argument name
    match bits? w with
    | some b => return .mode b
    | none => bad ("invalid mode " ++ quote w)
  else if name = "-links" then
    let w ← argument name
    match bound? w with
    | some b => return .links b
    | none => bad ("invalid argument " ++ ticked w ++ " to " ++ ticked name)
  else if name = "-newer" ∨ name = "-anewer" ∨ name = "-cnewer" then
    let _ ← placeOf (← argument name)
    return .constant false
  else if name = "-samefile" then return .same (← placeOf (← argument name))
  else if name = "-mtime" ∨ name = "-atime" ∨ name = "-ctime" ∨ name = "-mmin" ∨ name = "-amin" ∨ name = "-cmin" then
    let w ← argument name
    match bound? w with
    | some b => return .constant (b.holds 0)
    | none => bad ("invalid argument " ++ ticked w ++ " to " ++ ticked name)
  else if name = "-user" ∨ name = "-group" ∨ name = "-uid" ∨ name = "-gid" then
    let w ← argument name
    return .constant (w = "root" ∨ w = "0")
  else if name = "-readable" ∨ name = "-writable" then always
  else if name = "-executable" then return .startable
  else if name = "-maxdepth" then depth fun n w => { w with most := n }
  else if name = "-mindepth" then depth fun n w => { w with least := n }
  else if name = "-depth" ∨ name = "-d" then
    modify fun s => { s with walk := { s.walk with inner := true } }
    always
  else if name = "-print" then return .print '\n'
  else if name = "-print0" then return .print '\x00'
  else if name = "-printf" then return .format (← argument name)
  else if name = "-ls" then return .long
  else if name = "-exec" ∨ name = "-execdir" then
    let (ws, gathers) ← command name
    return if gathers then .gather ws else .run ws (name = "-execdir")
  else if name = "-delete" then
    modify fun s => { s with walk := { s.walk with inner := true } }
    return .delete
  else if name = "-prune" then return .prune
  else if name = "-quit" then return .quit
  else bad ("unknown predicate " ++ ticked name)

/-- a sign for "or" -/
def isOr (w : Raw) : Bool :=
  w = "-o" || w = "-or"

/-- a sign for "and" -/
def isAnd (w : Raw) : Bool :=
  w = "-a" || w = "-and"

def next : Reader (Option Raw) := do
  return (← get).rest.head?

/-- passes over the next word -/
def skip : Reader Unit :=
  modify fun s => { s with rest := s.rest.tail }

mutual

/-- conditions with commas between them -/
def listed (c : Call) : (fuel : Nat) → Reader Test
  | 0 => bad "invalid expression"
  | fuel + 1 => do
    let a ← oneOf c fuel
    match ← next with
    | some w =>
      if w = [','] then
        skip
        if (← next).isNone then bad "invalid expression"
        return .list a (← listed c fuel)
      else return a
    | none => return a

/-- conditions of which one has to hold -/
def oneOf (c : Call) : (fuel : Nat) → Reader Test
  | 0 => bad "invalid expression"
  | fuel + 1 => do
    let a ← allOf c fuel
    match ← next with
    | some w =>
      if isOr w then
        skip
        if (← next).isNone then bad ("expected an expression after '" ++ w ++ ['\''])
        return .or_ a (← oneOf c fuel)
      else return a
    | none => return a

/-- conditions that all have to hold -/
def allOf (c : Call) : (fuel : Nat) → Reader Test
  | 0 => bad "invalid expression"
  | fuel + 1 => do
    let a ← single c fuel
    match ← next with
    | some w =>
      if isAnd w then
        skip
        if (← next).isNone then bad ("expected an expression after '" ++ w ++ ['\''])
        return .and_ a (← allOf c fuel)
      else if isOr w ∨ w = [','] ∨ w = [')'] then return a
      else return .and_ a (← allOf c fuel)
    | none => return a

/-- one condition -/
def single (c : Call) : (fuel : Nat) → Reader Test
  | 0 => bad "invalid expression"
  | fuel + 1 => do
    match ← next with
    | none => bad "invalid expression"
    | some w =>
      if isOr w ∨ isAnd w ∨ w = [','] then
        bad ("invalid expression; you have used a binary operator '" ++ w ++ "' with nothing before it.")
      skip
      if w = ['!'] ∨ w = "-not" then
        if (← next).isNone then bad ("expected an expression after '" ++ w ++ ['\''])
        return .not_ (← single c fuel)
      else if w = ['('] then
        if (← next) = some [')'] then bad "invalid expression; empty parentheses are not allowed."
        if (← next).isNone then
          bad "invalid expression; expected to find a ')' but didn't see one. Perhaps you need an extra predicate after '('"
        let t ← listed c fuel
        if (← next) = some [')'] then
          skip
          return t
        else bad "invalid expression; I was expecting to find a ')' somewhere but did not see one."
      else if w = [')'] then bad "you have too many ')'"
      else if w.head? = some '-' then condition c w
      else
        let hint : Raw :=
          match (← get).pattern, c.stat w with
          | some p, .ok _ => "\n" ++ c.name ++ ": possible unquoted pattern after predicate " ++ ticked p ++ "?"
          | _, _ => []
        bad ("paths must precede expression: " ++ ticked w ++ hint)

end

/-- the condition itself shows or does something -/
def Test.acts : Test → Bool
  | .print _ | .format _ | .long | .run _ _ | .gather _ | .delete | .quit => true
  | .not_ t => t.acts
  | .and_ a b | .or_ a b | .list a b => a.acts || b.acts
  | _ => false

/-- the condition runs a command -/
def Test.runs : Test → Bool
  | .run _ _ => true
  | .not_ t => t.runs
  | .and_ a b | .or_ a b | .list a b => a.runs || b.runs
  | _ => false

/-- the commands that take many paths at once -/
def Test.gathers : Test → List (List Raw)
  | .gather c => [c]
  | .not_ t => t.gathers
  | .and_ a b | .or_ a b | .list a b => a.gathers ++ b.gathers
  | _ => []

/-- the condition that words spell; without anything else to do, paths are printed -/
def read (c : Call) (words : List Raw) : Except Raw (Test × Walk) := do
  if words = [] then return (.print '\n', {})
  let (t, s) ← (listed c (8 * words.length + 16)).run { rest := words }
  match s.rest with
  | w :: _ =>
    let message : Raw := if w = [')'] then "you have too many ')'" else "invalid expression"
    throw message
  | [] => return (if t.acts then t else .and_ t (.print '\n'), s.walk)

/-! ## The walk -/

/-- a thing on the way -/
structure Visit where
  path : Raw
  /-- the path from which the walk started -/
  top : Raw
  depth : Nat
  node : Node
  deriving DecidableEq, Repr

/-- what has been done so far: steps, the latest first, and paths for commands that take many -/
structure State where
  work : Work
  steps : List Step := []
  gathered : List (List Raw × Raw) := []
  pruned : Bool := false
  quit : Bool := false

def fits (glob : Raw) (folded : Bool) (name : Raw) : Bool :=
  Shell.Pattern.fitsName true folded glob name

def letterOf (n : Node) : Char :=
  if kindLetter n = '-' then 'f' else kindLetter n

def directiveValue (v : Visit) (letter : Char) : Option Raw :=
  match letter with
  | 'p' => some v.path
  | 'f' => some (lastPart v.path)
  | 'h' => some (if '/' ∈ v.path then frontPart v.path else ['.'])
  | 'P' => some ((v.path.drop v.top.length).dropWhile (· = '/'))
  | 'H' => some v.top
  | 'd' => some (Text.ofNat v.depth)
  | 's' => some (Text.ofNat (sizeOf v.node))
  | 'y' => some [letterOf v.node]
  | 'm' => some (Mode.octal (modeOf v.node))
  | 'M' => some (modeLetters v.node)
  | 'l' =>
    match v.node with
    | .link t => some (Raw.ofText t)
    | _ => some []
  | 'u' | 'g' => some "root"
  | 'U' | 'G' | 'i' | 'D' => some ['0']
  | 'n' => some (if v.node = .directory then ['2'] else ['1'])
  | 'b' => some (Text.ofNat (blocksOf v.node))
  | 'k' => some (Text.ofNat (blocksOf v.node / 2))
  | _ => none

/-- a format for a thing on the way -/
def formatted (v : Visit) (f : Raw) : Raw :=
  let known : Raw := "pfhPHdsymMlugUGiDnbk"
  (Format.pieces (some { hex := false, stops := true, quotes := false }) known [] (f.length + 1) f).flatMap fun p =>
    match p with
    | .text t => t
    | .directive d => d.fill false [] ((directiveValue v d.letter).getD [])
    | .unknown t => t
    | .dangling _ => ['%']
    | _ => []

/-- a word of a command with two braces replaced by a path -/
def withPath (path w : Raw) : Raw :=
  let rec go : Raw → Raw
    | '\x7b' :: '\x7d' :: r => path ++ go r
    | c :: r => c :: go r
    | [] => []
  go w

/-- a condition on a thing on the way, and what it does; commands are taken to succeed, and what follows one in the
same chain waits for that -/
def Test.eval (c : Call) (v : Visit) : Test → State → Bool × State
  | .constant b, s => (b, s)
  | .not_ t, s =>
    let (b, s) := t.eval c v s
    (!b, s)
  | .and_ a b, s =>
    let (x, s) := a.eval c v s
    if x then
      let before := s.steps.length
      let (y, s) := b.eval c v s
      let added := s.steps.length - before
      let waits : Bool := a.runs && 0 < added
      (y, if waits then { s with steps := s.steps.take added ++ .skipUnlessOk added :: s.steps.drop added } else s)
    else (false, s)
  | .or_ a b, s =>
    let (x, s) := a.eval c v s
    if x then (true, s) else b.eval c v s
  | .list a b, s => b.eval c v (a.eval c v s).2
  | .name g f, s => (fits g f (lastPart v.path), s)
  | .path g f, s => (fits g f v.path, s)
  | .target g f, s =>
    match v.node with
    | .link t => (fits g f (Raw.ofText t), s)
    | _ => (false, s)
  | .regex r folded, s =>
    let whole := (Regex.ends { folded } (Regex.repeats r) r { rest := v.path }).any fun t => t.rest = []
    (whole, s)
  | .kind ls, s => (letterOf v.node ∈ ls, s)
  | .kindBehind ls, s =>
    let n := match s.work.stat c v.path with
      | .ok n => n
      | .error _ => v.node
    (letterOf n ∈ ls, s)
  | .empty, s =>
    match v.node with
    | .file bytes _ => (bytes = [], s)
    | .directory => ((s.work.names c v.path).isEmpty, s)
    | _ => (false, s)
  | .size b unit, s => (b.holds ((sizeOf v.node + unit - 1) / unit), s)
  | .mode b, s =>
    let m := modeOf v.node
    let holds : Bool :=
      match b with
      | .exactly n => m = n
      | .all n => m &&& n = n
      | .any n => n = 0 || m &&& n ≠ 0
    (holds, s)
  | .links b, s => (b.holds (if v.node = .directory then 2 else 1), s)
  | .same p, s => ((s.work.tree.linkPlace c.here (Raw.toText v.path)).toOption = some p, s)
  | .startable, s =>
    match v.node with
    | .file _ m => (Node.startable m, s)
    | .directory => (true, s)
    | _ => (false, s)
  | .print e, s => (true, { s with steps := .say false (v.path ++ [e]) :: s.steps })
  | .format f, s => (true, { s with steps := .say false (formatted v f) :: s.steps })
  | .long, s =>
    let line := modeLetters v.node ++ "   1 root     root " ++ Raw.pad 12 false (Text.ofNat (sizeOf v.node)) ++
      " Jan  1 00:00 " ++ v.path ++ ['\n']
    (true, { s with steps := .say false line :: s.steps })
  | .run ws inside, s =>
    let shown := if inside then (if lastPart v.path = ['/'] then ['/'] else '.' :: '/' :: lastPart v.path) else v.path
    let place : Option Place :=
      if inside then
        let dir := if '/' ∈ v.path then frontPart v.path else ['.']
        (c.tree.locate c.here (Raw.toText dir)).toOption
      else none
    (true, { s with steps := .run (ws.map (withPath shown)) none none place :: s.steps })
  | .gather ws, s => (true, { s with gathered := (ws, v.path) :: s.gathered })
  | .delete, s =>
    if v.path = ['.'] then (true, s)
    else
      let edit : Except OsError Tree :=
        match v.node with
        | .directory => removeEmpty s.work.tree c.here v.path
        | _ => (s.work.tree.remove c.here (Raw.toText v.path)).map (·.1)
      match edit with
      | .ok tree => (true, { s with work := { s.work with tree } })
      | .error e => (false, { s with work := s.work.complain c ("cannot delete " ++ quoteName v.path ++ ": " ++ e.words) })
  | .prune, s => (true, { s with pruned := true })
  | .quit, s => (true, { s with quit := true })

/-- a thing with all below it -/
def visit (c : Call) (t : Test) (walk : Walk) : (fuel : Nat) → (top path : Raw) → (depth : Nat) → State → State
  | 0, _, _, _, s => s
  | fuel + 1, top, path, depth, s =>
    if s.quit then s
    else
      let follows := walk.follow || (walk.followTop && depth = 0)
      let own := s.work.lstat c path
      let node : Except OsError Node :=
        if follows then
          match s.work.stat c path with
          | .ok n => .ok n
          | .error _ => own
        else own
      match node with
      | .error e => { s with work := s.work.complain c (quote path ++ ": " ++ e.words) }
      | .ok node =>
        let v : Visit := { path, top, depth, node }
        let look (s : State) : State :=
          if walk.least ≤ depth ∧ !s.quit then (t.eval c v s).2 else s
        let below (s : State) : State :=
          if node = .directory ∧ depth < walk.most ∧ !s.pruned then
            (s.work.names c path).foldl (fun s n => visit c t walk fuel top (joinPath path n) (depth + 1) s) s
          else s
        if walk.inner then { look (below { s with pruned := false }) with pruned := false }
        else
          let s := look { s with pruned := false }
          { below s with pruned := false }

end Find

/-- walks over directories and tells what fits a condition -/
def find (c : Call) : Answer :=
  let isOption (w : Raw) : Bool :=
    w = "-H" || w = "-L" || w = "-P" || w = "--" || ("-O" : Raw).isPrefixOf w
  let front := c.arguments.takeWhile isOption
  let rest := c.arguments.drop front.length
  let starts (w : Raw) : Bool := (w.head? = some '-' && 1 < w.length) || w = ['('] || w = ['!']
  let paths := rest.takeWhile fun w => !starts w
  match Find.read c (rest.drop paths.length) with
  | .error e => c.fail e 1
  | .ok (t, walk) =>
    let links : List Raw := ["-H", "-L", "-P"]
    let last := (front.filter fun w => links.contains w).getLast?
    let walk := { walk with follow := last = some ("-L" : Raw), followTop := last = some ("-H" : Raw) }
    let paths := if paths = [] then [['.']] else paths
    let s := paths.foldl (fun s p => Find.visit c t walk maxDepth p p 0 s) { work := { tree := c.tree } }
    let many := t.gathers.eraseDups.flatMap fun ws =>
      let own := (s.gathered.reverse.filter fun g => g.1 = ws).map (·.2)
      if own = [] then [] else [Step.run (ws ++ own) none none none]
    { said := if s.work.errors = [] then [] else [(true, s.work.errors)]
      status := if s.work.failed then 1 else 0
      tree := some s.work.tree
      steps := s.steps.reverse ++ many
      outcome := if many = [] then .own else .failing }

end IncludeAudit.Tool
