/-
Regular expressions whose alternatives are tried in order, as they are written.

- `Ordered.read`: the expression that a text spells, with the number and the names of its groups.
-/
import IncludeAudit.Regex.Ordered.Basic

namespace IncludeAudit.Ordered

/-- how an expression is to be understood -/
structure Flags where
  fold : Bool := false
  lines : Bool := false
  dotAll : Bool := false
  spaced : Bool := false
  narrow : Bool := false
  deriving DecidableEq, Repr, Inhabited

def Flags.with? (f : Flags) (c : Char) (on : Bool) : Option Flags :=
  match c with
  | 'i' => some { f with fold := on }
  | 'm' => some { f with lines := on }
  | 's' => some { f with dotAll := on }
  | 'x' => some { f with spaced := on }
  | 'a' => some { f with narrow := on }
  | 'u' => some { f with narrow := false }
  | 'L' => some f
  | _ => none

/-- an expression that is being read -/
structure Source where
  rest : Text
  place : Nat := 0
  /-- groups that have begun -/
  groups : Nat := 0
  names : List (Text × Nat) := []
  /-- groups that have not ended -/
  opened : List Nat := []
  /-- the flags of the whole expression -/
  flags : Flags := {}
  wide : Bool := true

/-- what is wrong, and where -/
structure Fault where
  message : Text
  place : Nat
  deriving DecidableEq, Repr

/-- reading an expression, or finding a fault -/
abbrev Reading := StateT Source (Except Fault)

/-- the next character, with the one behind a backslash -/
def next : Reading Text := do
  let s ← get
  match s.rest with
  | '\\' :: c :: _ => return ['\\', c]
  | ['\\'] => throw { message := "bad escape (end of pattern)", place := s.place }
  | c :: _ => return [c]
  | [] => return []

/-- takes the next character -/
def take : Reading Text := do
  let t ← next
  modify fun s => { s with rest := s.rest.drop t.length, place := s.place + t.length }
  return t

/-- takes a character if it comes next -/
def accept (c : Char) : Reading Bool := do
  if (← next) = [c] then
    let _ ← take
    return true
  else return false

/-- gives up at so many characters in front of the place -/
def refuse {α : Type} (message : Text) (back : Nat) : Reading α := do
  throw { message, place := (← get).place - back }

def takeWhile (p : Char → Bool) : (most : Nat) → Reading Text
  | 0 => return []
  | most + 1 => do
    match ← next with
    | [c] =>
      if p c then
        let _ ← take
        return c :: (← takeWhile p most)
      else return []
    | _ => return []

def takeUntil (finish : Char) (what : Text) : (fuel : Nat) → Text → Reading Text
  | 0, got => return got
  | fuel + 1, got => do
    let c ← take
    match c with
    | [] =>
      if got = [] then refuse ("missing " ++ what) 0
      else refuse ("missing " ++ [finish] ++ ", unterminated name") got.length
    | c =>
      if c = [finish] then
        if got = [] then refuse ("missing " ++ what) 1 else return got
      else takeUntil finish what fuel (got ++ c)

def numberIn (base : Nat) (t : Text) : Nat :=
  t.foldl (fun n c =>
    let d := if c.isDigit then c.toNat - 48 else c.toLower.toNat - 87
    n * base + d) 0

/-- a hexadecimal digit -/
def isHex (c : Char) : Bool :=
  c.isDigit || (c.toLower ≤ 'f' && 'a' ≤ c.toLower)

def isOctal (c : Char) : Bool :=
  '0' ≤ c && c ≤ '7'

def isName (t : Text) : Bool :=
  match t with
  | c :: r => (Text.isLetter c || c = '_') && r.all fun c => Text.isAlnum c || c = '_'
  | [] => false

def quotedName (t : Text) : Text :=
  '\'' :: t ++ ['\'']

def class? (c : Char) : Option (CharClass × Bool) :=
  match c with
  | 'd' => some (.digit, false)
  | 'D' => some (.digit, true)
  | 's' => some (.space, false)
  | 'S' => some (.space, true)
  | 'w' => some (.word, false)
  | 'W' => some (.word, true)
  | _ => none

/-- the character that a letter stands for behind a backslash -/
def control? (c : Char) : Option Char :=
  match c with
  | 'a' => some '\x07'
  | 'b' => some '\x08'
  | 'f' => some '\x0c'
  | 'n' => some '\n'
  | 'r' => some '\r'
  | 't' => some '\t'
  | 'v' => some '\x0b'
  | '\\' => some '\\'
  | _ => none

/-- the character behind a backslash that has been taken with its letter, when it is spelled by a number -/
def spelled? (c : Char) : Reading (Option Char) := do
  let digits (count : Nat) : Reading (Option Char) := do
    let ds ← takeWhile isHex count
    if ds.length < count then refuse ("incomplete escape \\" ++ c :: ds) (ds.length + 2)
    return some (Char.ofNat (numberIn 16 ds))
  let wide := (← get).wide
  if c = 'x' then digits 2
  else if c = 'u' ∧ wide then digits 4
  else if c = 'U' ∧ wide then digits 8
  else return none

/-- a member of a set that begins with a character -/
def member (t : Text) : Reading Member := do
  match t with
  | ['\\', c] =>
    match class? c, control? c with
    | some (k, negated), _ => return .kind k negated
    | none, some d => return .char d
    | none, none =>
      match ← spelled? c with
      | some d => return .char d
      | none =>
        if isOctal c then
          let ds ← takeWhile isOctal 2
          let n := numberIn 8 (c :: ds)
          if 0o377 < n then
            refuse ("octal escape value \\" ++ c :: ds ++ " outside of range 0-0o377") (ds.length + 2)
          return .char (Char.ofNat n)
        else if c.isDigit ∨ c.isAlpha then refuse ("bad escape \\" ++ [c]) 2
        else return .char c
  | c => return .char (c.headD ' ')

/-- the members of a set up to its closing bracket -/
def members (start : Nat) : (fuel : Nat) → (isFirst : Bool) → List Member → Reading (List Member)
  | 0, _, ms => return ms
  | fuel + 1, isFirst, ms => do
    let unterminated : Reading (List Member) := do
      refuse "unterminated character set" ((← get).place - start)
    let t ← take
    match t with
    | [] => unterminated
    | t =>
      if t = [']'] ∧ !isFirst then return ms
      else
        let m ← member t
          if ← accept '-' then
          let that ← take
          match that with
          | [] => unterminated
          | that =>
            if that = [']'] then return ms ++ [m, .char '-']
            else
              let m' ← member that
              let bad {α : Type} (shown : Text × Text) : Reading α :=
                refuse ("bad character range " ++ shown.1 ++ '-' :: shown.2) (shown.1.length + 1 + shown.2.length)
              match m, m' with
              | .char a, .char b =>
                if b < a then bad (t, that) else members start fuel false (ms ++ [.range a b])
              | _, _ => bad (t, that)
        else members start fuel false (ms ++ [m])

/-- flags up to the sign that ends them; true when they hold for the whole expression -/
def flagsUntil (first : Char) (f : Flags) : Reading (Flags × Bool) := do
  let rec letters : (fuel : Nat) → (on : Bool) → (c : Char) → Flags → Reading (Flags × Bool)
    | 0, _, _, f => return (f, false)
    | fuel + 1, on, c, f => do
      if c = '-' then
        match ← take with
        | [d] => if d.isAlpha then letters fuel false d f else refuse "missing flag" 1
        | _ => refuse "missing flag" 0
      else
        match f.with? c on with
        | none => refuse (if c.isAlpha then "unknown flag" else "missing -, : or )") 1
        | some f =>
          match ← take with
          | [')'] => if on then return (f, true) else refuse "missing :" 1
          | [':'] => return (f, false)
          | [d] => if d = '-' ∨ d.isAlpha then letters fuel on d f else refuse (if on then "missing -, : or )" else "missing :") 1
          | _ => refuse (if on then "missing -, : or )" else "missing :") 0
  letters 100 true first f

def seqOf (parts : List Ordered) : Ordered :=
  match parts with
  | [] => .empty
  | [a] => a
  | a :: rest => rest.foldl .seq a

/-- what a part is when a sign for repetition follows -/
inductive PartKind
  | plain
  | anchor
  | repeated
  deriving DecidableEq, Repr

mutual

/-- alternatives up to a closing bracket or the end -/
def alternatives : (fuel : Nat) → (nested : Bool) → Flags → Reading Ordered
  | 0, _, _ => refuse "too deep" 0
  | fuel + 1, nested, f => do
    let a ← branch fuel (!nested) f []
    if ← accept '|' then
      let whole := (← get).flags
      let f := if nested then f else whole
      let b ← alternativesOf fuel f
      return .alt a b
    else return a

def alternativesOf : (fuel : Nat) → Flags → Reading Ordered
  | 0, _ => refuse "too deep" 0
  | fuel + 1, f => do
    let a ← branch fuel false f []
    if ← accept '|' then return .alt a (← alternativesOf fuel f) else return a

def branch : (fuel : Nat) → (isFirst : Bool) → Flags → List (Ordered × PartKind) → Reading Ordered
  | 0, _, _, _ => refuse "too deep" 0
  | fuel + 1, isFirst, f, parts => do
    let done : Ordered := seqOf (parts.reverse.map (·.1))
    let go (p : Ordered) (k : PartKind) : Reading Ordered := branch fuel isFirst f ((p, k) :: parts)
    let one (t : CharTest) : Reading Ordered := go (.one f.fold f.narrow t) .plain
    match ← next with
    | [] | ['|'] | [')'] => return done
    | t =>
      let _ ← take
      match t with
      | ['\\', c] => escape fuel isFirst f parts c
      | ['['] =>
        let start := (← get).place - 1
        let negated ← accept '^'
        let ms ← members start ((← get).rest.length + 1) true []
        one (match ms, negated with
          | [.char c], false => .char c
          | ms, negated => .members negated ms)
      | ['.'] => one (if f.dotAll then .any else .anyInLine)
      | ['^'] => go (.anchor f.narrow (if f.lines then .lineStart else .start)) .anchor
      | ['$'] => go (.anchor f.narrow (if f.lines then .lineFinish else .nearFinish)) .anchor
      | ['('] => bracket fuel isFirst f parts
      | [c] =>
        if c ∈ ("*+?\x7b" : Text) then repetition fuel isFirst f parts c
        else if f.spaced ∧ (c ∈ (" \t\n\r\x0b\x0c" : Text)) then branch fuel isFirst f parts
        else if f.spaced ∧ c = '#' then
          let _ ← takeWhileAny fuel
          branch fuel isFirst f parts
        else one (.char c)
      | _ => return done

/-- what is left of a line -/
def takeWhileAny : (fuel : Nat) → Reading Text
  | 0 => return []
  | fuel + 1 => do
    match ← take with
    | [] | ['\n'] => return []
    | t => return t ++ (← takeWhileAny fuel)

/-- a part that begins with a backslash -/
def escape : (fuel : Nat) → (isFirst : Bool) → Flags → List (Ordered × PartKind) → Char → Reading Ordered
  | 0, _, _, _, _ => refuse "too deep" 0
  | fuel + 1, isFirst, f, parts, c => do
    let go (p : Ordered) (k : PartKind) : Reading Ordered := branch fuel isFirst f ((p, k) :: parts)
    let one (t : CharTest) : Reading Ordered := go (.one f.fold f.narrow t) .plain
    match class? c with
    | some (k, negated) => one (.members false [.kind k negated])
    | none =>
      if c = 'A' then go (.anchor f.narrow .start) .anchor
      else if c = 'Z' then go (.anchor f.narrow .finish) .anchor
      else if c = 'b' then go (.anchor f.narrow (.edge false)) .anchor
      else if c = 'B' then go (.anchor f.narrow (.edge true)) .anchor
      else
        match control? c with
        | some d => one (.char d)
        | none =>
          match ← spelled? c with
          | some d => one (.char d)
          | none =>
            if c = '0' then
              let ds ← takeWhile isOctal 2
              one (.char (Char.ofNat (numberIn 8 ds)))
            else if c.isDigit then
              let more ← takeWhile Char.isDigit 1
              let third? : Option Char ← (do
                match more, (← next) with
                | [d], [e] => return if isOctal c ∧ isOctal d ∧ isOctal e then some e else none
                | _, _ => return none)
              match third? with
              | some e =>
                let _ ← take
                let n := numberIn 8 (c :: more ++ [e])
                if 0o377 < n then refuse ("octal escape value \\" ++ c :: more ++ [e] ++ " outside of range 0-0o377") 4
                one (.char (Char.ofNat n))
              | none =>
                let n := numberIn 10 (c :: more)
                let s ← get
                if s.groups < n then refuse ("invalid group reference " ++ Text.ofNat n) (more.length + 1)
                if n ∈ s.opened then refuse "cannot refer to an open group" (more.length + 2)
                go (.again f.fold n) .plain
            else if c.isAlpha then refuse ("bad escape \\" ++ [c]) 2
            else one (.char c)

/-- the part in front of a sign is repeated -/
def repetition : (fuel : Nat) → (isFirst : Bool) → Flags → List (Ordered × PartKind) → Char → Reading Ordered
  | 0, _, _, _, _ => refuse "too deep" 0
  | fuel + 1, isFirst, f, parts, c => do
    let here ← get
    let counts : Option (Nat × Option Nat) ← (do
      if c = '?' then return some (0, some 1)
      else if c = '*' then return some (0, none)
      else if c = '+' then return some (1, none)
      else if (← next) = ['\x7d'] then return none
      else
        let low ← takeWhile Char.isDigit 20
        let comma ← accept ','
        let high ← if comma then takeWhile Char.isDigit 20 else pure low
        if ← accept '\x7d' then
          let least := numberIn 10 low
          let most : Option Nat := if high = [] then none else some (numberIn 10 high)
          match most with
          | some m =>
            if m < least then refuse "min repeat greater than max repeat" ((← get).place - here.place)
            return some (least, most)
          | none => return some (least, none)
        else return none)
    match counts with
    | none =>
      set here
      branch fuel isFirst f ((.one f.fold f.narrow (.char c), .plain) :: parts)
    | some (least, most) =>
      let back := (← get).place - here.place + 1
      match parts with
      | (_, .repeated) :: _ => refuse "multiple repeat" back
      | (_, .anchor) :: _ | [] => refuse "nothing to repeat" back
      | (a, .plain) :: rest =>
        let greed : Greed ← (do
          if ← accept '?' then return .lazy
          else if ← accept '+' then return .possessive
          else return .greedy)
        branch fuel isFirst f ((.rep greed least most a, .repeated) :: rest)

/-- a part in brackets, whose opening one has been taken -/
def bracket : (fuel : Nat) → (isFirst : Bool) → Flags → List (Ordered × PartKind) → Reading Ordered
  | 0, _, _, _ => refuse "too deep" 0
  | fuel + 1, isFirst, f, parts => do
    let start := (← get).place - 1
    let go (p : Ordered) (k : PartKind) : Reading Ordered := branch fuel isFirst f ((p, k) :: parts)
    let close (p : Ordered) (k : PartKind) : Reading Ordered := do
      if ← accept ')' then go p k
      else refuse "missing ), unterminated subpattern" ((← get).place - start)
    let unexpected : Reading Ordered := refuse "unexpected end of pattern" 0
    let capture (name : Option Text) : Reading Ordered := do
      let s ← get
      let n := s.groups + 1
      match name with
      | some name =>
        match s.names.find? (·.1 = name) with
        | some (_, m) =>
          refuse ("redefinition of group name " ++ quotedName name ++ " as group " ++ Text.ofNat n ++ "; was group " ++
            Text.ofNat m) (name.length + 1)
        | none => pure ()
      | none => pure ()
      modify fun s => { s with
        groups := n, opened := n :: s.opened
        names := match name with
          | some name => s.names ++ [(name, n)]
          | none => s.names }
      let a ← alternatives fuel true f
      modify fun s => { s with opened := s.opened.filter (· ≠ n) }
      close (.group n a) .plain
    let checkName (name : Text) : Reading Unit := do
      if !isName name then refuse ("bad character in group name " ++ quotedName name) (name.length + 1)
    if ← accept '?' then
      let c ← take
      match c with
      | [] => unexpected
      | ['P'] =>
        if ← accept '<' then
          let name ← takeUntil '>' "group name" fuel []
          checkName name
          capture (some name)
        else if ← accept '=' then
          let name ← takeUntil ')' "group name" fuel []
          checkName name
          let s ← get
          match s.names.find? (·.1 = name) with
          | none => refuse ("unknown group name " ++ quotedName name) (name.length + 1)
          | some (_, n) =>
            if n ∈ s.opened then refuse "cannot refer to an open group" (name.length + 1)
            go (.again f.fold n) .plain
        else
          match ← take with
          | [] => unexpected
          | t => refuse ("unknown extension ?P" ++ t) (t.length + 2)
      | [':'] => close (← alternatives fuel true f) .plain
      | ['>'] => close (.atomic (← alternatives fuel true f)) .plain
      | ['#'] =>
        let rec skip : (fuel : Nat) → Reading Unit
          | 0 => return ()
          | fuel + 1 => do
            match ← take with
            | [] => refuse "missing ), unterminated comment" ((← get).place - start)
            | [')'] => return ()
            | _ => skip fuel
        skip fuel
        branch fuel isFirst f parts
      | ['='] => close (.ahead false (← alternatives fuel true f)) .plain
      | ['!'] => close (.ahead true (← alternatives fuel true f)) .plain
      | ['<'] =>
        let d ← take
        if d = [] then unexpected
        else if d ≠ ['='] ∧ d ≠ ['!'] then refuse ("unknown extension ?<" ++ d) (d.length + 2)
        else
          let a ← alternatives fuel true f
          let (low, high) := width a
          if high ≠ some low then throw { message := "look-behind requires fixed-width pattern", place := 0xffffffff }
          close (.behind (d = ['!']) low a) .plain
      | ['('] =>
        let name ← takeUntil ')' "group name" fuel []
        let s ← get
        let n ← (do
          if name.all Char.isDigit then
            let n := numberIn 10 name
            if n = 0 then refuse "bad group number" (name.length + 1)
            return n
          else
            checkName name
            match s.names.find? (·.1 = name) with
            | some (_, n) => return n
            | none => refuse ("unknown group name " ++ quotedName name) (name.length + 1))
        let yes ← branch fuel false f []
        let no ← if ← accept '|' then branch fuel false f [] else pure .empty
        if (← next) = ['|'] then refuse "conditional backref with more than two branches" 0
        close (.choose n yes no) .plain
      | [c] =>
        if c = '-' ∨ (f.with? c true).isSome then
          let (g, whole) ← flagsUntil c f
          if whole then
            if !isFirst ∨ !parts.isEmpty then
              refuse "global flags not at the start of the expression" ((← get).place - start)
            modify fun s => { s with flags := g }
            branch fuel isFirst g parts
          else close (← alternatives fuel true g) .plain
        else refuse ("unknown extension ?" ++ [c]) 2
      | t => refuse ("unknown extension ?" ++ t) (t.length + 1)
    else capture none

end

/-- an expression with what is known of its groups -/
structure Compiled where
  expression : Ordered
  groups : Nat
  names : List (Text × Nat)
  flags : Flags
  deriving Inhabited

/-- the expression that a text spells; with `wide` for text and not for bytes -/
def read (wide : Bool) (f : Flags) (t : Text) : Except Fault Compiled := do
  let f := if wide then f else { f with narrow := true }
  let whole : Reading Ordered := do
    let e ← alternatives (4 * t.length + 100) false f
    match ← next with
    | [] => return e
    | _ => refuse "unbalanced parenthesis" 0
  let (e, s) ← whole.run { rest := t, flags := f, wide }
  return { expression := e, groups := s.groups, names := s.names, flags := s.flags }

/-- what is wrong with an expression, in words -/
def Fault.words (f : Fault) (t : Text) : Text :=
  if f.place = 0xffffffff then f.message
  else
    let place : Text := f.message ++ " at position " ++ Text.ofNat f.place
    if '\n' ∈ t then
      let before := t.take f.place
      let line := (before.filter (· = '\n')).length + 1
      let column := f.place + 1 - (match before.reverse.findIdx? (· = '\n') with
        | some n => before.length - n
        | none => 0)
      place ++ " (line " ++ Text.ofNat line ++ ", column " ++ Text.ofNat column ++ [')']
    else place

end IncludeAudit.Ordered
