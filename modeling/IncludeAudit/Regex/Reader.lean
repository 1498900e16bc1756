/-
Regular expressions as they are spelled. There are two spellings: in the basic one, groups, alternatives and counts
have a backslash, in the extended one they do not.

- `Regex.read`: the expression that a text spells.
-/
import IncludeAudit.Regex.Basic

namespace IncludeAudit.Regex

/-- what is wrong with the spelling of an expression -/
inductive Fault
  | unmatchedOpen
  | unmatchedClose
  | unmatchedBracket
  | unmatchedBrace
  | badBrace
  | badRange
  | badClass
  | badRepeat
  | badReference
  | trailingBackslash
  | tooBig
  | nothing
  deriving DecidableEq, Repr

def Fault.message : Fault → Raw
  | .unmatchedOpen => "Unmatched ( or \\("
  | .unmatchedClose => "Unmatched ) or \\)"
  | .unmatchedBracket => "Unmatched [, [^, [:, [., or [="
  | .unmatchedBrace => "Unmatched \\\x7b"
  | .badBrace => "Invalid content of \\\x7b\\\x7d"
  | .badRange => "Invalid range end"
  | .badClass => "Invalid character class name"
  | .badRepeat => "Invalid preceding regular expression"
  | .badReference => "Invalid back reference"
  | .trailingBackslash => "Trailing backslash"
  | .tooBig => "Regular expression too big"
  | .nothing => "Invalid regular expression"

structure Spelling where
  extended : Bool := false
  /-- a backslash in square brackets stands for itself -/
  plainBrackets : Bool := true
  /-- repetitions need something to repeat, and braces and parentheses have a meaning everywhere -/
  strict : Bool := false
  /-- a backslash and a letter can stand for digits, and a group need not count -/
  rich : Bool := false
  deriving DecidableEq, Repr

structure Reading where
  rest : Raw
  /-- groups that have been opened -/
  groups : Nat := 0
  /-- groups that have been closed -/
  closed : List Nat := []
  /-- groups around the place -/
  depth : Nat := 0
  /-- signs of repetition with nothing to repeat -/
  idle : List Raw := []
  deriving DecidableEq, Repr

def wordSet (negated : Bool) : CharSet :=
  { negated, ranges := [('_', '_')], classes := ["alnum"] }

/-- what a letter behind a backslash means -/
def escape? (c : Char) : Option Regex :=
  match c with
  | 'w' => some (.set (wordSet false))
  | 'W' => some (.set (wordSet true))
  | 's' => some (.set { classes := ["space"] })
  | 'S' => some (.set { negated := true, classes := ["space"] })
  | 'b' => some (.edge true)
  | 'B' => some (.edge false)
  | '<' => some .wordStart
  | '>' => some .wordEnd
  | '\'' => some .textEnd
  | c => if c = '\x60' then some .textStart else none

def readSet (sp : Spelling) (r : Raw) : Except Fault (CharSet × Raw) :=
  match CharSet.read ['^'] (!sp.plainBrackets) (r.map fun c => (c, false)) with
  | none => .error (if r = [] ∨ r = ['^'] then .nothing else .unmatchedBracket)
  | some (s, r) =>
    if s.ranges.any fun p => p.2 < p.1 then .error .badRange
    else if s.classes.any fun k => (Raw.inClass? k).isNone then .error .badClass
    else .ok (s, r.map (·.1))

/-- the counts of a repetition behind its opening brace: least, most, and what is behind the closing one -/
def readCounts (sp : Spelling) (r : Raw) : Except Fault (Nat × Option Nat × Raw) :=
  let a := r.takeWhile Char.isDigit
  let r' := r.drop a.length
  let (b, hasComma) : Raw × Bool :=
    match r' with
    | ',' :: t => (t.takeWhile Char.isDigit, true)
    | _ => ([], false)
  let r'' := if hasComma then r'.drop (b.length + 1) else r'
  let closing : Option Raw :=
    match sp.extended, r'' with
    | true, '\x7d' :: t => some t
    | false, '\\' :: '\x7d' :: t => some t
    | _, _ => none
  match closing with
  | none => .error (if r'' = [] then .unmatchedBrace else .badBrace)
  | some t =>
    if a = [] ∧ hasComma = false then .error .badBrace
    else
      let least := Raw.toNat a
      let most : Option Nat := if hasComma then (if b = [] then none else some (Raw.toNat b)) else some least
      if (most.map fun m => decide (m < least)).getD false then .error .badBrace
      else if 32767 < least ∨ (most.map fun m => decide (32767 < m)).getD false then .error .tooBig
      else .ok (least, most, t)

/-- counts that are well spelled up to their closing brace, whatever they say -/
def isCounts (r : Raw) : Bool :=
  let counts := r.takeWhile fun c => c.isDigit || c = ','
  counts.count ',' ≤ 1 && counts ≠ [] && (r.drop counts.length).head? = some '\x7d'

/-- signs of repetition behind an expression -/
def readRepeats (sp : Spelling) : (fuel : Nat) → Regex → Reading → Except Fault (Regex × Reading)
  | 0, e, s => .ok (e, s)
  | fuel + 1, e, s =>
    let again (least : Nat) (most : Option Nat) (rest : Raw) : Except Fault (Regex × Reading) :=
      let doubled : Bool := sp.strict && !sp.extended && (rest.head? = some '*' || ("\\\x7b" : Raw).isPrefixOf rest)
      if doubled then .error .badRepeat else readRepeats sp fuel (.rep e least most) { s with rest }
    match sp.extended, s.rest with
    | _, '*' :: r => again 0 none r
    | true, '+' :: r => again 1 none r
    | true, '?' :: r => again 0 (some 1) r
    | false, '\\' :: '+' :: r => again 1 none r
    | false, '\\' :: '?' :: r => again 0 (some 1) r
    | true, '\x7b' :: r =>
      match readCounts sp r with
      | .ok (least, most, rest) => again least most rest
      | .error f =>
        let shape : Bool := f = .badBrace && !isCounts r
        if sp.strict ∨ f = .tooBig ∨ (f = .badBrace ∧ !shape) then .error f else .ok (e, s)
    | false, '\\' :: '\x7b' :: r =>
      match readCounts sp r with
      | .ok (least, most, rest) => again least most rest
      | .error e => .error e
    | _, _ => .ok (e, s)

/-- a sign of repetition comes next -/
def isSign (r : Raw) : Bool :=
  r.head?.any fun c => c = '*' || c = '+' || c = '?' || c = '\x7b'

/-- the text ends a branch here -/
def atEnd (sp : Spelling) (s : Reading) : Bool :=
  match sp.extended, s.rest with
  | _, [] => true
  | true, '|' :: _ => true
  | true, ')' :: _ => 0 < s.depth
  | false, '\\' :: '|' :: _ => true
  | false, '\\' :: ')' :: _ => true
  | _, _ => false

mutual

/-- alternatives up to the end of a group or of the text -/
def readAlternatives (sp : Spelling) : (fuel : Nat) → Reading → Except Fault (Regex × Reading)
  | 0, _ => .error .tooBig
  | fuel + 1, s => do
    let (a, s) ← readBranch sp fuel .empty true s
    match sp.extended, s.rest with
    | true, '|' :: r =>
      let (b, s) ← readAlternatives sp fuel { s with rest := r }
      return (.alt a b, s)
    | false, '\\' :: '|' :: r =>
      let (b, s) ← readAlternatives sp fuel { s with rest := r }
      return (.alt a b, s)
    | _, _ => return (a, s)

/-- pieces one after another; `first` says that nothing has been read yet -/
def readBranch (sp : Spelling) : (fuel : Nat) → Regex → (first : Bool) → Reading → Except Fault (Regex × Reading)
  | 0, _, _, _ => .error .tooBig
  | fuel + 1, soFar, first, s => do
    if atEnd sp s then return (soFar, s)
    let (e, s, isAnchor) ← readAtom sp fuel first s
    let (e, s) ← if isAnchor && !sp.extended then pure (e, s) else readRepeats sp fuel e s
    readBranch sp fuel (if soFar = .empty then e else .seq soFar e) (first && isAnchor && !sp.extended) s

/-- one piece without signs of repetition, and whether it is an anchor -/
def readAtom (sp : Spelling) : (fuel : Nat) → (first : Bool) → Reading → Except Fault (Regex × Reading × Bool)
  | 0, _, _ => .error .tooBig
  | fuel + 1, first, s => do
    let plain (e : Regex) (rest : Raw) : Except Fault (Regex × Reading × Bool) := .ok (e, { s with rest }, false)
    let anchor (e : Regex) (rest : Raw) : Except Fault (Regex × Reading × Bool) := .ok (e, { s with rest }, true)
    let inGroup (rest : Raw) : Except Fault (Regex × Reading × Bool) := do
      let n := s.groups + 1
      let (e, t) ← readAlternatives sp fuel { s with rest, groups := n, depth := s.depth + 1 }
      let closing : Option Raw :=
        match sp.extended, t.rest with
        | true, ')' :: r => some r
        | false, '\\' :: ')' :: r => some r
        | _, _ => none
      match closing with
      | some r => return (.group n e, { t with rest := r, depth := s.depth, closed := n :: t.closed }, false)
      | none => throw .unmatchedOpen
    match s.rest with
    | [] => return (.empty, s, false)
    | '\\' :: [] => throw .trailingBackslash
    | '\\' :: c :: r =>
      if sp.extended = false ∧ c = '(' then inGroup r
      else if sp.extended = false ∧ c = ')' then throw .unmatchedClose
      else if sp.extended = false ∧ c = '\x7b' then
        if first then throw .badRepeat else plain (.char c) r
      else if c.isDigit ∧ c ≠ '0' then
        let n := c.toNat - 48
        if n ∈ s.closed then plain (.again n) r else throw .badReference
      else if sp.rich ∧ (c = 'd' ∨ c = 'D') then
        plain (.set { negated := c = 'D', classes := ["digit"] }) r
      else if sp.rich ∧ c = 't' then plain (.char '\t') r
      else
        match escape? c with
        | some e => plain e r
        | none => if c = 'n' then plain (.char '\n') r else plain (.char c) r
    | '[' :: r =>
      let (k, r) ← readSet sp r
      plain (.set k) r
    | '.' :: r => plain .any r
    | '^' :: r =>
      if sp.strict ∧ sp.extended ∧ isSign r then throw .badRepeat
      else if sp.extended ∨ first then anchor .lineStart r
      else plain (.char '^') r
    | '$' :: r =>
      if sp.extended ∨ atEnd sp { s with rest := r } then anchor .lineEnd r else plain (.char '$') r
    | c :: r =>
      if sp.extended then
        if c = '(' then
          let quiet : Raw := "?:"
          if sp.rich ∧ quiet.isPrefixOf r then do
            let (e, t, a) ← inGroup (r.drop 2)
            match e with
            | .group _ e => return (e, t, a)
            | e => return (e, t, a)
          else inGroup r
        else if c = ')' then
          if sp.strict ∨ 0 < s.depth then throw .unmatchedClose else plain (.char c) r
        else if c = '*' ∨ c = '+' ∨ c = '?' then
          -- a sign of repetition with nothing in front of it
          if first then
            if sp.strict then throw .badRepeat
            else readAtom sp fuel first { s with rest := r, idle := s.idle ++ [[c]] }
          else plain (.char c) r
        else if c = '\x7b' ∧ first then
          if sp.strict then throw .badRepeat
          else
            match readCounts sp r with
            | .ok (_, _, rest) =>
              let sign : Raw := "\x7b...\x7d"
              readAtom sp fuel first { s with rest, idle := s.idle ++ [sign] }
            | .error _ => plain (.char c) r
        else plain (.char c) r
      else plain (.char c) r

end

/-- the expression that a text spells, and signs in it that have nothing to repeat -/
def readAll (sp : Spelling) (t : Raw) : Except Fault (Regex × List Raw) := do
  let (e, s) ← readAlternatives sp (8 * t.length + 16) { rest := t }
  match s.rest with
  | [] => return (e, s.idle)
  | _ => throw .unmatchedClose

/-- the expression that a text spells -/
def read (sp : Spelling) (t : Raw) : Except Fault Regex :=
  (readAll sp t).map (·.1)

end IncludeAudit.Regex
