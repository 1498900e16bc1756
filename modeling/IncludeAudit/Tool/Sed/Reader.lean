/-
Reading scripts that edit text. A script comes in pieces, from arguments or files; a fault is told with the piece and
the place in it.

- `read`: the script that several pieces spell.
-/
import IncludeAudit.Tool.Sed.Script

namespace IncludeAudit.Tool.Sed

/-- a piece of a script: its text, and the file it comes from if it is no argument -/
structure Piece where
  text : Raw
  file : Option Raw := none
  deriving DecidableEq, Repr

structure Reading where
  rest : Raw
  /-- characters that have been read of the piece -/
  count : Nat := 0
  line : Nat := 1
  script : Script := {}
  /-- blocks that are open, the innermost first -/
  blocks : List Nat := []
  /-- text that goes on in the next piece -/
  pending : Bool := false

/-- how scripts are read -/
structure Manner where
  extended : Bool := false
  /-- a zero byte ends a line -/
  zeros : Bool := false
  /-- text goes by characters -/
  wide : Bool := false
  deriving DecidableEq, Repr

/-- a step of reading; a fault has its words and the place -/
abbrev Reader := StateT Reading (Except (Raw × Reading))

/-- stops with a fault -/
def bad {α : Type} (message : Raw) : Reader α := do
  throw (message, ← get)

def take : Reader (Option Char) := do
  let s ← get
  match s.rest with
  | c :: r =>
    set { s with rest := r, count := s.count + 1, line := if c = '\n' then s.line + 1 else s.line }
    return some c
  | [] => return none

/-- looks at the next character -/
def peek : Reader (Option Char) := do
  return (← get).rest.head?

def takeWhile (test : Char → Bool) : Reader Raw := do
  let s ← get
  let t := s.rest.takeWhile test
  set { s with rest := s.rest.drop t.length, count := s.count + t.length, line := s.line + t.count '\n' }
  return t

/-- blanks within a line -/
def isBlank (c : Char) : Bool :=
  Raw.isSpace c && c ≠ '\n'

def takeFilled : Reader (Option Char) := do
  let _ ← takeWhile isBlank
  take

/-- looks at the next character that is no blank -/
def peekFilled : Reader (Option Char) := do
  let _ ← takeWhile isBlank
  peek

def readNumber : Reader Nat := do
  return Raw.toNat (← takeWhile Char.isDigit)

def readEnd : Reader Unit := do
  match ← takeFilled with
  | none | some '\n' | some ';' => return
  | some c =>
    if c = '\x7d' ∨ c = '#' then
      modify fun s => { s with rest := c :: s.rest, count := s.count - 1 }
    else bad "extra characters after command"

def lineFeeds : Raw → Raw
  | '\\' :: 'n' :: r => '\n' :: lineFeeds r
  | c :: r => c :: lineFeeds r
  | [] => []

/-- the text of a set in square brackets behind the opening one, with its closing bracket -/
def bracketed (r : Raw) : Option Raw :=
  let items (front r : Raw) : Option Raw := (go (r.length + 1) r).map fun t => front ++ t
  match r with
  | '^' :: ']' :: r => items "^]" r
  | '^' :: r => items "^" r
  | ']' :: r => items "]" r
  | r => items [] r
where
  /-- the items up to the closing bracket -/
  go : (fuel : Nat) → Raw → Option Raw
    | 0, _ => none
    | _, [] => none
    | fuel + 1, c :: r =>
      if c = ']' then some [c]
      else if c = '\n' then none
      else
        match c, r with
        | '[', k :: r =>
          if k = ':' ∨ k = '.' ∨ k = '=' then
            match Raw.splitAt? [k, ']'] r with
            | some (name, rest) => (go fuel rest).map fun t => '[' :: k :: name ++ k :: ']' :: t
            | none => (go fuel (k :: r)).map fun t => c :: t
          else (go fuel (k :: r)).map fun t => c :: t
        | c, r => (go fuel r).map fun t => c :: t

/-- the text up to a delimiter; a backslash in front of the delimiter is dropped, and in an expression `\n` is a line
feed and a set in square brackets may hold the delimiter -/
def delimited (delimiter : Char) (inRegex : Bool) : (fuel : Nat) → (soFar : Raw) → Reader (Option Raw)
  | 0, _ => return none
  | fuel + 1, soFar => do
    match ← take with
    | none => return none
    | some c =>
      if c = delimiter then return some soFar.reverse
      else if c = '[' ∧ inRegex then
        match bracketed (← get).rest with
        | some t =>
          modify fun s => { s with rest := s.rest.drop t.length, count := s.count + t.length }
          let t := lineFeeds t
          delimited delimiter inRegex fuel (t.reverse ++ c :: soFar)
        | none =>
          let _ ← takeWhile (· ≠ '\n')
          return none
      else if c = '\n' then
        if inRegex then return none else delimited delimiter inRegex fuel (c :: soFar)
      else if c = '\\' then
        match ← take with
        | none => return none
        | some d =>
          if d = delimiter then
            delimited delimiter inRegex fuel
              (if (!inRegex && d = '&') || (inRegex && d = 'n') then d :: '\\' :: soFar else d :: soFar)
          else if d = 'n' ∧ inRegex then delimited delimiter inRegex fuel ('\n' :: soFar)
          else if d = '\n' ∧ inRegex then delimited delimiter inRegex fuel (d :: soFar)
          else delimited delimiter inRegex fuel (d :: '\\' :: soFar)
      else delimited delimiter inRegex fuel (c :: soFar)

def readDelimited (delimiter : Char) (inRegex : Bool) : Reader (Option Raw) := do
  delimited delimiter inRegex ((← get).rest.length + 1) []

/-! ## Escapes -/

def digitsIn (base most : Nat) (r : Raw) : Raw :=
  (r.take most).takeWhile fun c =>
    let c := c.toLower
    if c.isDigit then c.toNat - 48 < base else base = 16 && 'a' ≤ c && c ≤ 'f'

def numberIn (base : Nat) (r : Raw) : Nat :=
  r.foldl (fun n c =>
    let c := c.toLower
    n * base + if c.isDigit then c.toNat - 48 else c.toNat - 87) 0

/-- the character that an escape stands for, whether it is spelled by number, and what follows; the backslash is
already behind -/
def escaped? : Raw → Option (Char × Bool × Raw)
  | 'a' :: r => some ('\x07', false, r)
  | 'f' :: r => some ('\x0c', false, r)
  | 'r' :: r => some ('\r', false, r)
  | 't' :: r => some ('\t', false, r)
  | 'v' :: r => some ('\x0b', false, r)
  | 'c' :: c :: r => some (Char.ofNat (c.toUpper.toNat ^^^ 64), true, r)
  | 'd' :: r => numbered 10 3 r
  | 'o' :: r => numbered 8 3 r
  | 'x' :: r => numbered 16 2 r
  | _ => none
where
  /-- an escape by number -/
  numbered (base most : Nat) (r : Raw) : Option (Char × Bool × Raw) :=
    let ds := digitsIn base most r
    if ds = [] then none else some (Char.ofNat (numberIn base ds % 256), true, r.drop ds.length)

/-- an expression with its escapes written as the characters they stand for -/
def unescapeRegex (extended : Bool) : (fuel : Nat) → (inSet : Bool) → Raw → Raw
  | 0, _, r => r
  | _, _, [] => []
  | fuel + 1, inSet, '\\' :: r =>
    match escaped? r with
    | some (c, byNumber, rest) =>
      let special : Bool := byNumber && c ∈ ("$*.[\\]^" : Raw)
      let shown : Raw :=
        if special && !inSet then ['\\', c]
        else if byNumber && extended && !inSet && c ∈ ("+?()\x7b\x7d|" : Raw) then ['[', c, ']']
        else [c]
      shown ++ unescapeRegex extended fuel inSet rest
    | none =>
      match r with
      | c :: rest => if inSet then '\\' :: unescapeRegex extended fuel inSet r else '\\' :: c :: unescapeRegex extended fuel inSet rest
      | [] => ['\\']
  | fuel + 1, false, '[' :: '^' :: ']' :: r => '[' :: '^' :: ']' :: unescapeRegex extended fuel true r
  | fuel + 1, false, '[' :: ']' :: r => '[' :: ']' :: unescapeRegex extended fuel true r
  | fuel + 1, false, '[' :: r => '[' :: unescapeRegex extended fuel true r
  | fuel + 1, true, '[' :: ':' :: r =>
    let name := r.takeWhile (· ≠ ':')
    '[' :: ':' :: name ++
      match r.drop name.length with
      | ':' :: ']' :: rest => ':' :: ']' :: unescapeRegex extended fuel true rest
      | rest => unescapeRegex extended fuel true rest
  | fuel + 1, true, ']' :: r => ']' :: unescapeRegex extended fuel false r
  | fuel + 1, inSet, c :: r => c :: unescapeRegex extended fuel inSet r

/-- text that is put between lines, with its escapes written as the characters they stand for -/
def unescapeText : (fuel : Nat) → Raw → Raw
  | 0, r => r
  | fuel + 1, '\\' :: r =>
    match escaped? r with
    | some (c, _, rest) => c :: unescapeText fuel rest
    | none =>
      match r with
      | 'n' :: rest => '\n' :: unescapeText fuel rest
      | c :: rest => c :: unescapeText fuel rest
      | [] => []
  | fuel + 1, c :: r => c :: unescapeText fuel r
  | _, [] => []

/-- one more character of text at the end of a replacement -/
def addText (parts : List Part) (c : Char) : List Part :=
  match parts with
  | .text t :: rest => .text (c :: t) :: rest
  | _ => .text [c] :: parts

/-- the parts of a replacement; text is kept in reverse on the way -/
def replacementParts : (fuel : Nat) → Raw → List Part → List Part
  | 0, _, parts => parts
  | _, [], parts => parts
  | fuel + 1, '&' :: r, parts => replacementParts fuel r (.group 0 :: parts)
  | fuel + 1, '\\' :: r, parts =>
    match escaped? r with
    | some (c, _, rest) => replacementParts fuel rest (addText parts c)
    | none =>
      match r with
      | [] => addText parts '\\'
      | c :: rest =>
        if c.isDigit then replacementParts fuel rest (.group (c.toNat - 48) :: parts)
        else
          match c with
          | 'n' => replacementParts fuel rest (addText parts '\n')
          | 'L' => replacementParts fuel rest (.letters .small :: parts)
          | 'U' => replacementParts fuel rest (.letters .capital :: parts)
          | 'E' => replacementParts fuel rest (.letters .asTheyAre :: parts)
          | 'l' => replacementParts fuel rest (.letter .small :: parts)
          | 'u' => replacementParts fuel rest (.letter .capital :: parts)
          | c => replacementParts fuel rest (addText parts c)
  | fuel + 1, c :: r, parts => replacementParts fuel r (addText parts c)

def readReplacement (r : Raw) : List Part :=
  (replacementParts (r.length + 1) r []).reverse.map fun p =>
    match p with
    | .text t => .text t.reverse
    | p => p

def groupsOf : Regex → Nat
  | .seq a b | .alt a b => max (groupsOf a) (groupsOf b)
  | .group n a => max n (groupsOf a)
  | .rep a _ _ => groupsOf a
  | _ => 0

/-! ## Addresses -/

/-- an expression that has been read -/
def readSearch (m : Manner) (t : Raw) (mode : Regex.Mode) : Reader Search := do
  if t = [] then return { regex := none }
  else
    match Regex.read { extended := m.extended, strict := true } (unescapeRegex m.extended (t.length + 1) false t) with
    | .ok r => return { regex := some r, mode }
    | .error e => bad e.message

/-- signs behind an expression in an address -/
def readModes (m : Manner) : (fuel : Nat) → Regex.Mode → Reader Regex.Mode
  | 0, mode => return mode
  | fuel + 1, mode => do
    match ← peekFilled with
    | some 'I' =>
      let _ ← take
      readModes m fuel { mode with folded := true }
    | some 'M' =>
      let _ ← take
      readModes m fuel { mode with lines := !m.zeros }
    | _ => return mode

def readAddress (m : Manner) : Reader (Option Address) := do
  match ← peek with
  | some c =>
    if c = '/' ∨ c = '\\' then
      let _ ← take
      let delimiter : Option Char ← if c = '\\' then take else pure (some c)
      match ← readDelimited (delimiter.getD '\n') true with
      | none => bad "unterminated address regex"
      | some t =>
        let mode ← readModes m ((← get).rest.length + 1) { wide := m.wide }
        return some (.found (← readSearch m t mode))
    else if c.isDigit then
      let n ← readNumber
      match ← peekFilled with
      | some '~' =>
        let _ ← take
        let _ ← peekFilled
        let by_ ← readNumber
        return some (if by_ = 0 then .line n else .step n by_)
      | _ => return some (.line n)
    else if c = '+' ∨ c = '~' then
      let _ ← take
      let _ ← peekFilled
      let n ← readNumber
      return some (if c = '+' then .further n else .multiple n)
    else if c = '$' then
      let _ ← take
      return some .last
    else return none
  | none => return none

def readAddresses (m : Manner) : Reader (Option Address × Option Address) := do
  match ← readAddress m with
  | none => return (none, none)
  | some a =>
    let isBad : Bool :=
      match a with
      | .further _ | .multiple _ => true
      | _ => false
    if isBad then bad "invalid usage of +N or ~N as first address"
    let second ← match ← peekFilled with
      | some ',' => do
        let _ ← take
        let _ ← peekFilled
        match ← readAddress m with
        | some b => pure (some b)
        | none =>
          let _ ← take
          bad "unexpected \x60,'"
      | _ => pure none
    let fromRegex : Bool :=
      match second with
      | some (.found _) => true
      | _ => false
    if a = .line 0 ∧ !fromRegex then
      let _ ← take
      bad "invalid usage of line address 0"
    return (some a, second)

/-! ## Commands -/

/-- the text of a command that goes up to a line feed without a backslash in front; it may go on in the next piece -/
def readText : (fuel : Nat) → (soFar : Raw) → Reader Raw
  | 0, soFar => return soFar.reverse
  | fuel + 1, soFar => do
    match ← take with
    | none => return ('\n' :: soFar).reverse
    | some '\n' => return ('\n' :: soFar).reverse
    | some '\\' =>
      match ← take with
      | none =>
        modify fun s => { s with pending := true }
        return ('\n' :: soFar).reverse
      | some c => readText fuel (c :: '\\' :: soFar)
    | some c => readText fuel (c :: soFar)

/-- the text behind `a`, `i` or `c` -/
def readAddition : Reader Raw := do
  let expected : Raw := "expected \\ after \x60a', \x60c' or \x60i'"
  match ← peekFilled with
  | none => bad expected
  | some '\\' =>
    let _ ← take
    let blanks ← takeWhile isBlank
    match ← peek with
    | none =>
      modify fun s => { s with pending := true }
      return []
    | some '\n' =>
      let _ ← take
      if (← peek).isNone then
        modify fun s => { s with pending := true }
        return []
      else readText ((← get).rest.length + 1) []
    | some _ => readText ((← get).rest.length + 1) blanks.reverse
  | some _ => readText ((← get).rest.length + 1) []

def plainText (t : Raw) : Raw :=
  unescapeText (t.length + 1) t

def readLabel : Reader Raw := do
  let _ ← takeWhile isBlank
  takeWhile fun c => !Raw.isSpace c && c ≠ ';'

/-- the name of a file: the rest of the line -/
def readFileName : Reader Raw := do
  let _ ← takeWhile isBlank
  let f ← takeWhile (· ≠ '\n')
  if f = [] then bad "missing filename in r/R/w/W commands" else return f

def readSigns (m : Manner) : (fuel : Nat) → Replacing → (numbered : Bool) → Regex.Mode → Reader (Replacing × Regex.Mode)
  | 0, r, _, mode => return (r, mode)
  | fuel + 1, r, numbered, mode => do
    match ← take with
    | none | some '\n' | some ';' => return (r, mode)
    | some 'i' | some 'I' => readSigns m fuel r numbered { mode with folded := true }
    | some 'm' | some 'M' => readSigns m fuel r numbered { mode with lines := !m.zeros }
    | some 'e' => readSigns m fuel r numbered mode
    | some 'p' =>
      if r.print then bad "multiple \x60p' options to \x60s' command"
      else readSigns m fuel { r with print := true } numbered mode
    | some 'g' =>
      if r.all then bad "multiple \x60g' options to \x60s' command"
      else readSigns m fuel { r with all := true } numbered mode
    | some 'w' =>
      let f ← readFileName
      return ({ r with file := some f }, mode)
    | some c =>
      if c = '\x7d' ∨ c = '#' then
        modify fun s => { s with rest := c :: s.rest, count := s.count - 1 }
        return (r, mode)
      else if c.isDigit then
        if numbered then bad "multiple number options to \x60s' command"
        let more ← takeWhile Char.isDigit
        let n := Raw.toNat (c :: more)
        if n = 0 then bad "number option to \x60s' command may not be zero"
        readSigns m fuel { r with number := n } true mode
      else if isBlank c ∧ c ≠ '\r' then readSigns m fuel r numbered mode
      else bad "unknown option to \x60s'"

def readReplacing (m : Manner) : Reader Action := do
  let unterminated : Raw := "unterminated \x60s' command"
  match ← take with
  | none => bad unterminated
  | some delimiter =>
    match ← readDelimited delimiter true with
    | none => bad unterminated
    | some t =>
      match ← readDelimited delimiter false with
      | none => bad unterminated
      | some u =>
        let parts := readReplacement u
        let empty : Replacing := { search := { regex := none }, parts }
        let (r, mode) ← readSigns m ((← get).rest.length + 1) empty false { wide := m.wide }
        let search ← readSearch m t mode
        let used := parts.foldl (fun n p =>
          match p with
          | .group k => max n k
          | _ => n) 0
        match search.regex with
        | some e =>
          if groupsOf e < used then
            bad ("invalid reference \\" ++ Text.ofNat used ++ " on \x60s' command's RHS")
        | none => pure ()
        return .replace { r with search }

def listed (delimiter : Char) : Raw → Raw
  | '\\' :: '\\' :: r => '\\' :: listed delimiter r
  | '\\' :: 'n' :: r => '\n' :: listed delimiter r
  | '\\' :: 't' :: r => '\t' :: listed delimiter r
  | '\\' :: c :: r => if c = delimiter then c :: listed delimiter r else '\\' :: c :: listed delimiter r
  | c :: r => c :: listed delimiter r
  | [] => []

def readPairs : Reader Action := do
  let unterminated : Raw := "unterminated \x60y' command"
  match ← take with
  | none => bad unterminated
  | some delimiter =>
    match ← readDelimited delimiter false with
    | none => bad unterminated
    | some a =>
      match ← readDelimited delimiter false with
      | none => bad unterminated
      | some b =>
        let a := listed delimiter a
        let b := listed delimiter b
        if a.length ≠ b.length then bad "strings for \x60y' command are different lengths"
        readEnd
        return .translate (a.zip b)

/-- a number behind a command -/
def readStatus : Reader (Option Nat) := do
  let n ← match ← peekFilled with
    | some c => if c.isDigit then do pure (some (← readNumber)) else pure none
    | none => pure none
  readEnd
  return n

def add (c : Command) : Reader Unit :=
  modify fun s => { s with script := { s.script with commands := s.script.commands.push c } }

/-- commands of one letter and nothing else -/
def plainAction? : Char → Option Action
  | '=' => some .number
  | 'd' => some .delete
  | 'D' => some .deleteFirst
  | 'g' => some .get
  | 'G' => some .getMore
  | 'h' => some .hold
  | 'H' => some .holdMore
  | 'x' => some .exchange
  | 'n' => some .next
  | 'N' => some .nextMore
  | 'p' => some .print
  | 'P' => some .printFirst
  | 'z' => some .clear
  | 'F' => some .fileName
  | _ => none

/-- a comment; the first one can ask for silence -/
def readComment : Reader Unit := do
  let first := (← get).count = 1
  let text ← takeWhile (· ≠ '\n')
  if first ∧ text = ['n'] then modify fun s => { s with script := { s.script with silent := true } }
  let _ ← take

def closeBlock : Reader Unit := do
  let s ← get
  match s.blocks with
  | [] => bad "unexpected \x60\x7d'"
  | open_ :: outer =>
    readEnd
    modify fun s =>
      let commands := s.script.commands
      let stop := commands.size
      let commands := commands.modify open_ fun c => { c with action := .enter stop }
      { s with blocks := outer, script := { s.script with commands } }

def readCommand (m : Manner) : Reader Unit := do
  let (first, second) ← readAddresses m
  let _ ← if first.isSome then takeWhile isBlank else pure []
  let negated ← match ← peek with
    | some '!' => do
      let _ ← take
      let _ ← takeWhile isBlank
      if (← peek) = some '!' then
        let _ ← take
        bad "multiple \x60!'s"
      pure true
    | _ => pure false
  let put (action : Action) : Reader Unit := add { first, second, negated, action }
  match ← take with
  | none => bad "missing command"
  | some c =>
    match c with
    | '#' => if first.isSome then bad "comments don't accept any addresses" else readComment
    | '\x7b' =>
      modify fun s => { s with blocks := s.script.commands.size :: s.blocks }
      put (.enter 0)
    | '\x7d' =>
      if (← get).blocks = [] then bad "unexpected \x60\x7d'"
      if first.isSome then bad "\x7d doesn't want any addresses"
      closeBlock
    | ':' =>
      if first.isSome then bad ": doesn't want any addresses"
      let _ ← takeWhile isBlank
      let label ← takeWhile fun c => !Raw.isSpace c && c ≠ ';'
      if label = [] then bad "\":\" lacks a label"
      modify fun s =>
        { s with script := { s.script with labels := s.script.labels ++ [(label, s.script.commands.size)] } }
      put .nothing
    | 'b' => put (.jump .always (← readLabel))
    | 't' => put (.jump .replaced (← readLabel))
    | 'T' => put (.jump .unreplaced (← readLabel))
    | 'a' => put (.append (← readAddition))
    | 'i' => put (.insert (← readAddition))
    | 'c' => put (.change (← readAddition))
    | 'q' | 'Q' =>
      if second.isSome then bad "command only uses one address"
      let status := (← readStatus).getD 0
      put (if c = 'q' then .quit status else .leave status)
    | 'l' => put (.list (← readStatus))
    | 'r' => put (.readFile (← readFileName))
    | 'R' => put (.readLine (← readFileName))
    | 'w' => put (.write (← readFileName))
    | 'W' => put (.writeFirst (← readFileName))
    | 's' => put (← readReplacing m)
    | 'y' => put (← readPairs)
    | 'v' =>
      let version ← readLabel
      let major := Raw.toNat version
      if 5 ≤ major then bad "expected newer version of sed"
      put .nothing
    | c =>
      match plainAction? c with
      | some a =>
        readEnd
        put a
      | none => bad ("unknown command: \x60" ++ [c, '\''])

/-- commands up to the end of a piece -/
def readCommands (m : Manner) : (fuel : Nat) → Reader Unit
  | 0 => return
  | fuel + 1 => do
    let _ ← takeWhile fun c => Raw.isSpace c || c = ';'
    if (← peek).isSome then
      readCommand m
      readCommands m fuel

/-- more text for the last command -/
def extend (c : Command) (t : Raw) : Command :=
  match c.action with
  | .append u => { c with action := .append (u ++ t) }
  | .insert u => { c with action := .insert (u ++ t) }
  | .change u => { c with action := .change (u ++ t) }
  | _ => c

/-- a whole piece; text of the piece before may go on first -/
def readPiece (m : Manner) : Reader Unit := do
  let s ← get
  if s.pending then
    set { s with pending := false }
    let t ← readText (s.rest.length + 1) []
    modify fun s =>
      let commands := s.script.commands
      let commands := commands.modify (commands.size - 1) fun c => extend c t
      { s with script := { s.script with commands } }
  readCommands m ((← get).rest.length + 1)

/-- the text of a command as it is printed -/
def finish (c : Command) : Command :=
  match c.action with
  | .append u => { c with action := .append (plainText u) }
  | .insert u => { c with action := .insert (plainText u) }
  | .change u => { c with action := .change (plainText u) }
  | _ => c

def readPieces (m : Manner) : (expression : Nat) → List Piece → Reading → Except Raw Reading
  | _, [], s => .ok s
  | n, p :: rest, s =>
    let n := if p.file.isNone then n + 1 else n
    match (readPiece m).run { s with rest := p.text, count := 0, line := 1 } with
    | .ok (_, s) => readPieces m n rest s
    | .error (message, at_) =>
      let place : Raw :=
        match p.file with
        | none => "-e expression #" ++ Text.ofNat n ++ ", char " ++ Text.ofNat at_.count
        | some f => "file " ++ f ++ " line " ++ Text.ofNat at_.line
      .error (place ++ ": " ++ message)

def missingLabel? (s : Script) : Option Raw :=
  s.commands.toList.findSome? fun c =>
    match c.action with
    | .jump _ l => if l = [] ∨ s.labels.any (·.1 = l) then none else some l
    | _ => none

def read (m : Manner) (pieces : List Piece) : Except Raw Script := do
  let s ← readPieces m 0 pieces { rest := [] }
  let open_ : Raw := "-e expression #1, char 0: unmatched \x60\x7b'"
  if s.blocks ≠ [] then throw open_
  match missingLabel? s.script with
  | some l => throw ("can't find label for jump to \x60" ++ l ++ ['\''])
  | none => return { s.script with commands := s.script.commands.map finish }

end IncludeAudit.Tool.Sed
