/-
The words and signs of a script. A word is read character by character in a mode that says what ends it and which
characters are special; the text that follows a here-document sign is taken out of the lines behind it.
-/
import IncludeAudit.Shell.Quoting
import IncludeAudit.Shell.Script

namespace IncludeAudit.Shell

/-- a script that cannot be read, and where -/
structure Mistake where
  line : Nat
  message : Raw
  /-- a token that has no place; it is empty at the end of the script -/
  token : Option Raw := none
  /-- the sign that is missing at the end of a text, and the line where the text starts -/
  missing : Option (Char × Nat) := none
  /-- what is wrong in a condition, where words fit together in ways of their own -/
  reason : Option Raw := none
  /-- how many characters are left behind the word that is named, when the words of a condition do not fit -/
  left : Option Nat := none
  /-- the status of a command that cannot be read -/
  status : Nat := 2
  deriving DecidableEq, Repr

/-- a sign or a word of a script -/
inductive Token
  | finish
  | sign (t : Raw)
  /-- a word, with its text when none of it is quoted or expanded, and as it is spelled -/
  | word (w : Word) (plain : Option Raw) (spelled : Raw)
  /-- a redirection without its target -/
  | redirect (fd : Nat) (holder : Option Raw) (direction : Direction)
  /-- a here-document sign; tabs at the start of its lines may go -/
  | document (fd : Nat) (holder : Option Raw) (noTabs : Bool)
  | keyword (t : Raw)

/-- how far a script has been read -/
structure Pos where
  rest : Raw
  line : Nat := 1
  /-- characters behind the next line feed that belong to here-documents -/
  taken : Nat := 0
  /-- a token that has been read ahead -/
  pushed : Option Token := none
  /-- the script uses the wider language with arrays and double brackets -/
  wide : Bool := false
  /-- words may have groups of patterns -/
  groups : Bool := false
  /-- text goes by characters of UTF-8 -/
  byCharacters : Bool := false
  /-- the next word may assign to an element of an array -/
  assigning : Bool := false
  /-- the next word is an element of an array, which may name its index -/
  listing : Bool := false
  /-- here-documents without their mark: where the text ends, where it starts, and the mark -/
  unended : List (Nat × Nat × Raw) := []
  /-- texts that stand for others at the start of commands -/
  aliases : List (Raw × Raw) := []
  /-- where the last token starts -/
  start : Raw := []
  startLine : Nat := 1
  /-- what stands in front of complaints about the text -/
  title : Raw := []
  /-- complaints leave out the line -/
  unnumbered : Bool := false
  /-- the text has been given to a command, which fails when it cannot be read -/
  within : Bool := false
  /-- lines are not shown while they are read -/
  silent : Bool := false
  /-- characters in front that stand in lines which have been shown -/
  echoed : Nat := 0
  /-- aliases whose text is being read, each with what is left behind that text -/
  busy : List (Raw × Nat) := []

/-- reads a part of a script -/
abbrev Reader := StateT Pos (Except Mistake)

namespace Reader

/-- refuses the script -/
def fail {α : Type} (message : Raw) : Reader α := do
  throw { line := (← get).line, message := "Syntax error: " ++ message }

/-- refuses a script that ends inside a text -/
def cutShort {α : Type} (message : Raw) (sign : Char) (start : Nat) : Reader α := do
  throw { line := (← get).line, message := "Syntax error: " ++ message, missing := some (sign, start), token := none }

def peek : Reader (Option Char) :=
  return (← get).rest.head?

def peekSecond : Reader (Option Char) :=
  return (← get).rest.tail.head?

/-- moves over one character; behind a line feed also over the here-documents that wait there -/
def skip : Reader Unit :=
  modify fun p =>
    match p.rest with
    | '\n' :: r =>
      let lines := (r.take p.taken).count '\n'
      { p with rest := r.drop p.taken, line := p.line + 1 + lines, taken := 0 }
    | _ :: r => { p with rest := r }
    | [] => p

/-- moves over the characters that pass a test, and gives them back -/
def takeWhile (test : Char → Bool) : Reader Raw := do
  let p ← get
  let t := p.rest.takeWhile test
  set { p with rest := p.rest.drop t.length, line := p.line + t.count '\n' }
  return t

end Reader

def isNameChar (c : Char) : Bool :=
  c.isAlphanum || c = '_'

def isNameStart (c : Char) : Bool :=
  c.isAlpha || c = '_'

def isName (t : Raw) : Bool :=
  t.head?.any isNameStart && t.all isNameChar

/-- parameters of one character that is no letter -/
def isSpecial (c : Char) : Bool :=
  c ∈ ("@*#?$!-" : Raw)

/-- the sign that encloses a command in its older form -/
def backquote : Char := '\x60'

def endsWord (c : Char) : Bool :=
  c ∈ (" \t\n;&|<>()" : Raw)

/-- what a piece of text stands in -/
inductive Mode
  | word
  /-- ends in front of a blank only -/
  | pattern
  /-- ends behind a double quote -/
  | quotes
  /-- ends behind a brace -/
  | brace (inQuotes : Bool)
  /-- ends behind a square bracket -/
  | bracket
  /-- ends behind a round bracket -/
  | group
  /-- ends behind two round brackets, or at one of the given signs outside brackets -/
  | sums (depth : Nat) (stops : Raw)
  /-- ends with the text -/
  | here
  deriving DecidableEq, Repr

namespace Mode

/-- expansions are quoted here -/
def quoted : Mode → Bool
  | .word | .pattern | .group => false
  | .brace inQuotes => inQuotes
  | _ => true

/-- an arithmetic expression -/
def isSums : Mode → Bool
  | .sums _ _ => true
  | _ => false

/-- a backslash takes away the meaning of the character -/
def escapes (m : Mode) (c : Char) : Bool :=
  match m with
  | .quotes => c ∈ ("\\$\"" : Raw) || c = backquote
  | .brace true => c ∈ ("\\$\"\x7d" : Raw) || c = backquote
  | .here => c ∈ ("\\$" : Raw) || c = backquote
  | .sums _ _ => c ∈ ("\\$" : Raw) || c = backquote
  | _ => true

/-- text that ends too early -/
def unfinished : Mode → Raw
  | .brace _ => "Missing '\x7d'"
  | .sums _ _ => "Missing '))'"
  | _ => "Unterminated quoted string"

/-- the sign that ends the text -/
def closing : Mode → Char
  | .brace _ => '\x7d'
  | .sums _ _ => ')'
  | .bracket => ']'
  | .group => ')'
  | _ => '"'

end Mode

/-- puts a piece of text in front of parts -/
def consText (t : Raw) (quoted : Bool) : Word → Word
  | .text t' q :: r => if q = quoted then .text (t ++ t') q :: r else .text t quoted :: .text t' q :: r
  | r => .text t quoted :: r

/-- the source of a command in its older form: up to the closing sign, with one level of backslashes taken away -/
def enclosed (inQuotes : Bool) : Raw → Option (Raw × Raw)
  | [] => none
  | c :: r =>
    if c = backquote then some ([], r)
    else if c = '\\' then
      match r with
      | d :: r =>
        let kept : Raw := if d = '\\' ∨ d = '$' ∨ d = backquote ∨ (inQuotes ∧ d = '"') then [d] else [c, d]
        (enclosed inQuotes r).map fun p => (kept ++ p.1, p.2)
      | [] => none
    else (enclosed inQuotes r).map fun p => (c :: p.1, p.2)

/-- the number that digits spell at the start of a text, so many at most, and what is behind them -/
def digitsAt (base most : Nat) (r : Raw) : Option (Nat × Raw) :=
  let value (c : Char) : Nat :=
    if c.isDigit then c.toNat - 48
    else if 'a' ≤ c ∧ c ≤ 'f' then c.toNat - 87
    else if 'A' ≤ c ∧ c ≤ 'F' then c.toNat - 55
    else 99
  let ds := (r.take most).takeWhile fun c => value c < base
  if ds = [] then none else some (ds.foldl (fun n c => n * base + value c) 0, r.drop ds.length)

def letterEscapes : List (Char × Char) :=
  [('n', '\n'), ('t', '\t'), ('r', '\r'), ('a', '\x07'), ('b', '\x08'), ('e', '\x1b'), ('E', '\x1b'), ('f', '\x0c'),
   ('v', '\x0b'), ('\\', '\\'), ('\'', '\''), ('"', '"'), ('?', '?')]

/-- the characters that an escape stands for, and what is behind it; the backslash is in front -/
def escape (wide : Bool) (r : Raw) : Raw × Raw :=
  match r with
  | [] => (['\\'], [])
  | c :: r' =>
    match letterEscapes.find? (·.1 = c) with
    | some (_, d) => ([d], r')
    | none =>
      let none_ : Raw × Raw := (['\\', c], r')
      let byte (n : Nat) : Raw := [Char.ofNat (n % 256)]
      if c = 'x' then ((digitsAt 16 2 r').map fun p => (byte p.1, p.2)).getD none_
      else if c = 'u' then ((digitsAt 16 4 r').map fun p => (Quoting.codePoint wide 4 p.1, p.2)).getD none_
      else if c = 'U' then ((digitsAt 16 8 r').map fun p => (Quoting.codePoint wide (if p.1 < 0x10000 then 4 else 8) p.1, p.2)).getD none_
      else if c = 'c' then
        match r' with
        | d :: r' => ([Char.ofNat (d.toUpper.toNat % 64)], r')
        | [] => none_
      else ((digitsAt 8 3 r).map fun p => (byte p.1, p.2)).getD none_

/-- the characters that escapes in the style of `$'...'` stand for, and what is behind the closing quote -/
def escapedQuote (wide : Bool) : (fuel : Nat) → Raw → Option (Raw × Raw)
  | 0, _ => none
  | _, [] => none
  | _, '\'' :: r => some ([], r)
  | fuel + 1, '\\' :: r =>
    if r = [] then none
    else
      let (kept, r) := escape wide r
      (escapedQuote wide fuel r).map fun p => (kept ++ p.1, p.2)
  | fuel + 1, c :: r => (escapedQuote wide fuel r).map fun p => (c :: p.1, p.2)

/-- a word as it is shown: on one line, and with plain quotes in place of those that have escapes -/
def respelled (wide : Bool) : (fuel : Nat) → (inQuotes : Bool) → Raw → Raw
  | 0, _, _ => []
  | _, _, [] => []
  | fuel + 1, inQuotes, '\\' :: '\n' :: r => respelled wide fuel inQuotes r
  | fuel + 1, inQuotes, '\\' :: c :: r => '\\' :: c :: respelled wide fuel inQuotes r
  | fuel + 1, inQuotes, '"' :: r => '"' :: respelled wide fuel (!inQuotes) r
  | fuel + 1, false, '$' :: '"' :: r => '"' :: respelled wide fuel true r
  | fuel + 1, false, '$' :: '\'' :: r =>
    match escapedQuote wide (r.length + 1) r with
    | some (t, rest) =>
      '\'' :: t.flatMap (fun c => if c = '\'' then "'\\''" else [c]) ++ '\'' :: respelled wide fuel false rest
    | none => '$' :: '\'' :: r
  | fuel + 1, false, '\'' :: r =>
    let t := r.takeWhile (· ≠ '\'')
    '\'' :: t ++ '\'' :: respelled wide fuel false (r.drop (t.length + 1))
  | fuel + 1, inQuotes, c :: r => c :: respelled wide fuel inQuotes r

/-- the lines of a here-document up to its mark, the number of characters that they and the mark take, and whether the
mark is there -/
def documentLines (mark : Raw) (noTabs : Bool) : (fuel : Nat) → Raw → Raw × Nat × Bool
  | 0, _ => ([], 0, false)
  | fuel + 1, r =>
    if r = [] then ([], 0, false)
    else
      let line := r.takeWhile (· ≠ '\n')
      let size := if line.length < r.length then line.length + 1 else line.length
      let shown := if noTabs then line.dropWhile (· = '\t') else line
      if shown = mark then ([], size, true)
      else
        let (more, n, isEnded) := documentLines mark noTabs fuel (r.drop size)
        (shown ++ (if line.length < r.length then '\n' :: more else more), size + n, isEnded)

/-- the text of a word without its quotes -/
def spelling (w : Word) : Raw :=
  w.flatMap fun part =>
    match part with
    | .text t _ => t
    | .parameter name _ _ _ _ => '$' :: name
    | _ => []

/-- the text of a word that has neither quotes nor expansions -/
def plain? (w : Word) : Option Raw :=
  w.foldr (fun part rest =>
    match part, rest with
    | .text t false, some r => some (t ++ r)
    | _, _ => none) (some [])

def hasQuotes (w : Word) : Bool :=
  w.any fun part =>
    match part with
    | .text _ q => q
    | _ => false

section
variable (nested : Reader Unit)

def parameterUse (isLength : Bool) : Reader Use := do
  if isLength then
    if (← Reader.peek) = some '}' then return .length else return .unknown
  let sign (c : Char) (orEmpty : Bool) : Option Use :=
    match c with
    | '-' => some (.orElse orEmpty)
    | '=' => some (.orAssign orEmpty)
    | '?' => some (.orFail orEmpty)
    | '+' => some (.ifSet orEmpty)
    | _ => none
  let doubled (c : Char) : Reader Bool := do
    Reader.skip
    if (← Reader.peek) = some c then
      Reader.skip
      return true
    return false
  let wide := (← get).wide
  match ← Reader.peek with
  | some '}' => return .value
  | some ':' =>
    match (← Reader.peekSecond).bind (sign · true) with
    | some u =>
      Reader.skip
      Reader.skip
      return u
    | none =>
      Reader.skip
      return if wide then .slice else .unknown
  | some '#' => return .cutFront (← doubled '#')
  | some '%' => return .cutBack (← doubled '%')
  | some c =>
    match sign c false with
    | some u =>
      Reader.skip
      return u
    | none =>
      if wide ∧ c = '/' then return .replace (← doubled '/')
      else if wide ∧ c = '^' then return .recase true (← doubled '^')
      else if wide ∧ c = ',' then return .recase false (← doubled ',')
      else if wide ∧ (c = '*' ∨ c = '@') then
        Reader.skip
        match ← Reader.peek with
        | some '}' => return .names
        | some form =>
          if form ∈ ("QEPAKakULu" : Raw) ∧ (← Reader.peekSecond) = some '}' then
            Reader.skip
            return .shown form
          else return .unknown
        | none => return .unknown
      else return .unknown
  | none => return .value

/-- the name of a parameter in braces, and whether its length is wanted -/
def parameterName : Reader (Raw × Bool) := do
  let wide := (← get).wide
  match ← Reader.peek with
  | none => return ([], false)
  | some c =>
    if isNameStart c then return (← Reader.takeWhile isNameChar, false)
    else if c.isDigit then return (← Reader.takeWhile Char.isDigit, false)
    else if c = '#' then
      Reader.skip
      match ← Reader.peek with
      | some d =>
        if isNameStart d then return (← Reader.takeWhile isNameChar, true)
        else if d.isDigit then return (← Reader.takeWhile Char.isDigit, true)
        else if isSpecial d ∧ (← Reader.peekSecond) = some '}' then
          Reader.skip
          return ([d], true)
        else return (['#'], false)
      | none => return (['#'], false)
    else if wide ∧ c = '!' ∧ (← Reader.peekSecond).any isNameStart then
      Reader.skip
      return ('!' :: (← Reader.takeWhile isNameChar), false)
    else if wide ∧ c = '!' ∧ (← Reader.peekSecond).any (fun d => d = '#' || d.isDigit) ∧
        ((← get).rest.drop 2).head? = some '}' then
      let d ← Reader.peekSecond
      Reader.skip
      Reader.skip
      return ('!' :: d.toList, false)
    else if isSpecial c then
      Reader.skip
      return ([c], false)
    else return ([], false)

/-- the parts of a text up to its end, which the mode says; `nested` moves over the commands of an inner script and
the bracket that closes them -/
def parts : (fuel : Nat) → Mode → Reader Word
  | 0, m => Reader.fail m.unfinished
  | fuel + 1, m => do
    let startLine := (← get).line
    let more (m : Mode) (t : Raw) : Reader Word := return consText t m.quoted (← parts fuel m)
    let inner (m' : Mode) : Reader Word :=
      tryCatch (parts fuel m') fun e =>
        match e.missing with
        | some (c, 0) => throw { e with missing := some (c, startLine) }
        | _ => throw e
    let goOn (ps : Word) : Reader Word := return ps ++ (← parts fuel m)
    let bare := m = .word || m = .pattern || m = .brace false || m = .bracket || m = .group
    match ← Reader.peek with
    | none => if m = .word ∨ m = .pattern ∨ m = .here then return [] else Reader.cutShort m.unfinished m.closing 0
    | some c =>
      if m = .pattern ∧ (c = ' ' ∨ c = '\t' ∨ c = '\n') then return []
      else if m = .word ∧ endsWord c then
        if (← get).wide ∧ (c = '<' ∨ c = '>') ∧ (← Reader.peekSecond) = some '(' then
          Reader.skip
          Reader.skip
          let start ← get
          tryCatch nested fun e =>
            if e.token = some [] then throw { e with missing := some (')', e.line) } else throw e
          let after ← get
          let source := start.rest.take (start.rest.length - after.rest.length - 1)
          goOn [.process source start.line (c = '<')]
        else return []
      else if c = '"' ∧ m = .quotes then
        Reader.skip
        return []
      else if c = '}' ∧ (m = .brace true ∨ m = .brace false) then
        Reader.skip
        return []
      else if c = ']' ∧ m = .bracket then
        Reader.skip
        return []
      else if c = '[' ∧ m = .bracket then
        Reader.skip
        let inside ← inner .bracket
        return .text ['['] false :: inside ++ .text [']'] false :: (← parts fuel m)
      else if c = ')' ∧ m = .group then
        Reader.skip
        return []
      else if c = '(' ∧ m = .group then
        Reader.skip
        let inside ← inner .group
        return .text ['('] false :: inside ++ .text [')'] false :: (← parts fuel m)
      else if (m = .word ∨ m = .group) ∧ (← get).groups ∧ c ∈ ("?*+@!" : Raw) ∧ (← Reader.peekSecond) = some '(' then
        Reader.skip
        Reader.skip
        let inside ← inner .group
        return .text [c, '('] false :: inside ++ .text [')'] false :: (← parts fuel m)
      else if c = '"' ∧ bare then
        Reader.skip
        let quoted ← inner .quotes
        goOn (.text [] true :: quoted)
      else if c = '"' ∧ m = .brace true then
        Reader.skip
        goOn [.text [] true]
      else if c = '"' ∧ m.isSums then
        Reader.skip
        goOn []
      else if c = '\'' ∧ bare then
        Reader.skip
        let t ← Reader.takeWhile (· ≠ '\'')
        if (← Reader.peek).isNone then Reader.cutShort m.unfinished '\'' startLine
        Reader.skip
        goOn [.text t true]
      else if c = '\\' then
        Reader.skip
        match ← Reader.peek with
        | none => more m ['\\']
        | some '\n' =>
          Reader.skip
          goOn []
        | some d =>
          Reader.skip
          if bare then goOn [.text [d] true]
          else if m.escapes d then goOn [.text [d] true]
          else more m ['\\', d]
      else if c = backquote then
        Reader.skip
        let p ← get
        match enclosed m.quoted p.rest with
        | none => Reader.cutShort "EOF in backquote substitution" backquote startLine
        | some (source, rest) =>
          let lines := p.rest.count '\n' - rest.count '\n'
          set { p with rest, line := p.line + lines }
          goOn [.command source 1 m.quoted]
      else if c = '$' then
        Reader.skip
        let p ← get
        match p.rest with
        | '(' :: '(' :: r =>
          set { p with rest := r }
          let found ← tryCatch (do return some (← inner (.sums 0 []))) fun e =>
            if p.wide ∧ e.missing.isNone ∧ e.reason.isNone then return none else throw e
          match found with
          | some e => goOn [.arithmetic e m.quoted]
          | none =>
            -- what looks like a sum is a command in brackets
            set { p with rest := '(' :: r }
            tryCatch nested fun e =>
              if e.token = some [] then throw { e with missing := some (')', startLine) } else throw e
            let after ← get
            goOn [.command (('(' :: r).take (r.length + 1 - after.rest.length - 1)) p.line m.quoted]
        | '(' :: r =>
          set { p with rest := r }
          tryCatch nested fun e =>
            if p.wide ∧ e.token = some [] then throw { e with missing := some (')', e.line) } else throw e
          let after ← get
          goOn [.command (r.take (r.length - after.rest.length - 1)) p.line m.quoted]
        | '{' :: r =>
          set { p with rest := r }
          let (name, isLength) ← parameterName
          let index ← do
            if (← get).wide ∧ (← Reader.peek) = some '[' ∧ name.getLast?.any isNameChar then
              Reader.skip
              pure (some (← inner .bracket))
            else pure none
          let use ← if name = [] then pure .unknown else parameterUse isLength
          let wordMode : Mode :=
            match use with
            | .cutFront _ | .cutBack _ | .replace _ | .recase _ _ | .slice => .brace false
            | _ => .brace m.quoted
          let w ← inner wordMode
          let after := (← get).rest
          let w : Word :=
            match use with
            | .unknown => [.text (p.rest.take (p.rest.length - after.length)) true]
            | .value => [.text (r.take (r.length - after.length - 1)) true]
            | _ => w
          goOn [.parameter name index use w m.quoted]
        | d :: r =>
          if isNameStart d then
            let name ← Reader.takeWhile isNameChar
            goOn [.parameter name none .value [.text name true] m.quoted]
          else if d.isDigit ∨ isSpecial d then
            set { p with rest := r }
            goOn [.parameter [d] none .value [.text ['$', d] true] m.quoted]
          else if d = '\'' ∧ p.wide ∧ bare then
            match escapedQuote p.byCharacters (r.length + 1) r with
            | some (t, rest) =>
              set { p with rest, line := p.line + (r.count '\n' - rest.count '\n') }
              goOn [.text t true]
            | none => Reader.cutShort m.unfinished '\'' startLine
          else if d = '"' ∧ p.wide ∧ bare then goOn []
          else more m ['$']
        | [] => more m ['$']
      else
        match m with
        | .sums depth stops =>
          if depth = 0 ∧ stops ≠ [] ∧ c ∈ stops then
            Reader.skip
            return []
          else if c = ')' then
            if depth = 0 then
              Reader.skip
              if (← Reader.peek) = some ')' then
                Reader.skip
                return []
              else Reader.fail m.unfinished
            else
              Reader.skip
              return consText [c] true (← inner (.sums (depth - 1) stops))
          else
            Reader.skip
            return consText [c] true (← inner (.sums (if c = '(' then depth + 1 else depth) stops))
        | _ =>
          Reader.skip
          more m [c]

/-- moves over blanks, comments and joined lines -/
def skipBlanks : (fuel : Nat) → Reader Unit
  | 0 => pure ()
  | fuel + 1 => do
    match ← Reader.peek with
    | some ' ' | some '\t' =>
      Reader.skip
      skipBlanks fuel
    | some '#' =>
      let p ← get
      set { p with rest := p.rest.dropWhile (· ≠ '\n') }
    | some '\\' =>
      if (← Reader.peekSecond) = some '\n' then
        Reader.skip
        Reader.skip
        skipBlanks fuel
    | _ => pure ()

/-- the direction of a redirection, and how many characters of the sign it takes -/
def direction? (wide : Bool) (r : Raw) : Option (Direction × Nat) :=
  match r with
  | '>' :: '>' :: _ => some (.append, 2)
  | '>' :: '&' :: _ => some (.copyOutput, 2)
  | '>' :: '|' :: _ => some (.clobber, 2)
  | '>' :: _ => some (.output, 1)
  | '<' :: '<' :: '<' :: _ => if wide then some (.hereWord, 3) else some (.here, 2)
  | '<' :: '<' :: _ => some (.here, 2)
  | '<' :: '&' :: _ => some (.copyInput, 2)
  | '<' :: '>' :: _ => some (.both, 2)
  | '<' :: _ => some (.input, 1)
  | '&' :: '>' :: '>' :: _ => if wide then some (.outputBoth true, 3) else none
  | '&' :: '>' :: _ => if wide then some (.outputBoth false, 2) else none
  | _ => none

/-- the descriptor that a redirection is about when none is named -/
def Direction.usual : Direction → Nat
  | .input | .both | .copyInput | .here | .hereWord => 0
  | _ => 1

/-- signs, longer ones first -/
def signs (wide : Bool) : List Raw :=
  if wide then [";;&", ";;", ";&", "&&", "||", "|&", ";", "|", "&", "(", ")"]
  else [";;", "&&", "||", ";", "|", "&", "(", ")"]

/-- the descriptor in front of a sign of redirection, or a variable for it, and what is behind it -/
def descriptor? (wide : Bool) (r : Raw) : Option (Option Nat × Option Raw × Raw) :=
  let isSign (c : Char) : Bool := c = '<' || c = '>'
  match r with
  | c :: behind =>
    if c.isDigit then
      let ds := if wide then r.takeWhile Char.isDigit else [c]
      let behind := r.drop ds.length
      if behind.head?.any isSign then some (some (Raw.toNat ds), none, behind) else none
    else if wide ∧ c = '\x7b' then
      let name := behind.takeWhile fun c => isNameChar c || c = '[' || c = ']'
      match behind.drop name.length with
      | '\x7d' :: d :: rest =>
        if isName (name.takeWhile (· ≠ '[')) ∧ isSign d then some (none, some name, d :: rest) else none
      | _ => none
    else none
  | [] => none

/-- a word that may assign to an element of an array, whose index may have blanks and quotes in it -/
def elementWord? (fuel : Nat) : Reader (Option Word) := do
  let p ← get
  let name := if p.listing then [] else p.rest.takeWhile isNameChar
  if !(p.wide ∧ (p.listing ∨ p.assigning ∧ isName name) ∧ (p.rest.drop name.length).head? = some '[') then return none
  set { p with rest := p.rest.drop (name.length + 1) }
  let start := (← get).line
  let index ← tryCatch (parts nested fuel .bracket) fun e =>
    match e.missing with
    | some (c, 0) => throw { e with missing := some (c, start) }
    | _ => throw e
  let after ← get
  if ("=" : Raw).isPrefixOf after.rest ∨ ("+=" : Raw).isPrefixOf after.rest then
    let value ← parts nested fuel .word
    return some (.text (name ++ ['[']) false :: index ++ consText [']'] false value)
  else
    set p
    return none

/-- the next token as it stands -/
def rawToken (fuel : Nat) : Reader Token := do
  skipBlanks fuel
  modify fun p => { p with start := p.rest, startLine := p.line }
  let p ← get
  match p.rest with
  | [] => return .finish
  | '\n' :: _ =>
    Reader.skip
    return .sign ['\n']
  | c :: r =>
    let (fd, holder, behind) : Option Nat × Option Raw × Raw := (descriptor? p.wide p.rest).getD (none, none, p.rest)
    let isNamed : Bool := fd.isSome || holder.isSome
    let inProcess := p.wide && !isNamed && (c = '<' || c = '>') && r.head? = some '('
    match (if inProcess then none else direction? p.wide behind) with
    | some (.here, _) =>
      let rest := behind.drop 2
      let noTabs := rest.head? = some '-'
      set { p with rest := if noTabs then rest.tail else rest }
      return .document (fd.getD 0) holder noTabs
    | some (d, n) =>
      set { p with rest := behind.drop n }
      return .redirect (fd.getD d.usual) holder d
    | none =>
      match (signs p.wide).find? (·.isPrefixOf p.rest) with
      | some t =>
        set { p with rest := p.rest.drop t.length }
        return .sign t
      | none =>
        let w ← match ← elementWord? nested fuel with
          | some w => pure w
          | none => parts nested fuel .word
        let after ← get
        let written := p.rest.take (p.rest.length - after.rest.length)
        let spelled : Raw := if p.wide then respelled p.byCharacters (written.length + 1) false written else []
        return .word w (plain? w) spelled

/-- words that have a meaning of their own at the start of a command -/
def keywords (wide : Bool) : List Raw :=
  let all : List Raw :=
    ["[[", "function", "select", "time", "coproc", "!", "case", "do", "done", "elif", "else", "esac", "fi", "for", "if", "in", "then", "until",
     "while", "\x7b", "\x7d"]
  if wide then all else all.drop 5

/-- puts the text of an alias in place of its name, unless that text is being read -/
def unalias? (name : Raw) : Reader Bool := do
  let p ← get
  match p.aliases.find? (·.1 = name) with
  | none => return false
  | some (_, text) =>
    let busy := p.busy.filter fun b => b.2 < p.rest.length
    if busy.any (·.1 = name) then return false
    else
      set { p with rest := text ++ p.rest, busy := (name, p.rest.length) :: busy }
      return true

/-- the next token; line ends may be moved over, and words may be taken as keywords -/
def nextToken : (fuel : Nat) → (lineEnds words : Bool) → Reader Token
  | 0, _, _ => return .finish
  | fuel + 1, lineEnds, words => do
    let p ← get
    let t ← match p.pushed with
      | some t => do
        set { p with pushed := none, assigning := false }
        pure t
      | none => do
        set { p with assigning := p.assigning || words }
        let t ← rawToken nested fuel
        modify fun p => { p with assigning := false }
        pure t
    match t with
    | .sign ['\n'] => if lineEnds then nextToken fuel lineEnds words else return t
    | .word _ (some k) _ =>
      if words = false then return t
      else if k ∈ keywords p.wide then return .keyword k
      else if p.pushed.isNone ∧ (← unalias? k) then nextToken fuel lineEnds words
      else return t
    | _ => return t

def pushBack (t : Token) : Reader Unit :=
  modify fun p => { p with pushed := some t }

end

/-- how a token is named in a complaint -/
def Token.describe : Token → Raw
  | .finish => "end of file"
  | .sign ['\n'] => "newline"
  | .sign t => '"' :: t ++ ['"']
  | .word _ _ _ => "word"
  | .redirect _ _ _ => "redirection"
  | .document _ _ _ => "redirection"
  | .keyword t => '"' :: t ++ ['"']

def Token.spelled (t : Token) (written : Raw) : Raw :=
  match t with
  | .finish => []
  | .sign ['\n'] => "newline"
  | .sign t | .keyword t => t
  | _ => written

/-- a token that has no place here, and what would have -/
def unexpected {α : Type} (t : Token) (wanted : Option Raw) : Reader α :=
  let expecting : Raw :=
    match wanted with
    | some w => " (expecting " ++ w ++ ")"
    | none => []
  tryCatch (Reader.fail (t.describe ++ " unexpected" ++ expecting)) fun e => do
    let p ← get
    let isLineEnd : Bool := t matches .sign ['\n']
    throw { e with
      line := if p.wide ∧ isLineEnd then e.line - 1 else e.line
      token := some (t.spelled (p.start.take (p.start.length - p.rest.length))) }

end IncludeAudit.Shell
