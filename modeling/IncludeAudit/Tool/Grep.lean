/-
Searching lines: the lines of files that a regular expression or a fixed text matches.
-/
import IncludeAudit.Regex.Reader
import IncludeAudit.Regex.Ordered.Reader
import IncludeAudit.Tool.Print
import IncludeAudit.Shell.Pattern

namespace IncludeAudit.Tool

namespace Grep

inductive Searched
  | plain (r : Regex)
  /-- an expression whose alternatives are tried in order; a group marks where the match is to begin -/
  | ordered (e : Ordered) (mark : Option Nat)

/-- what is searched for and what is shown -/
structure Options where
  searched : Searched
  mode : Regex.Mode := {}
  words : Bool := false
  wholeLines : Bool := false
  inverted : Bool := false
  count : Bool := false
  numbers : Bool := false
  offsets : Bool := false
  names : Bool := false
  matching : Bool := false
  listed : Bool := false
  unlisted : Bool := false
  quiet : Bool := false
  limit : Option Nat := none
  before : Nat := 0
  after : Nat := 0
  /-- there is a line between parts with context -/
  apart : Raw := "--\n"
  zeros : Bool := false
  /-- every file counts as text -/
  text : Bool := false
  /-- a file that is no text is left out -/
  skips : Bool := false
  /-- what stands behind a name in place of the usual sign -/
  nameEnd : Option Char := none
  /-- a tab stands in front of each line -/
  tabbed : Bool := false
  /-- matches and names are marked by colours -/
  coloured : Bool := false

/-- the end of a match that stands between the edges of words, among matches from a spot -/
def wordEnd? (m : Regex.Mode) (r : Regex) (s : Regex.Spot) : Option Regex.Spot :=
  let ends := Regex.ends m (Regex.repeats r) r s
  let fits (t : Regex.Spot) : Bool :=
    !s.previous.any (Regex.isWord m) && !t.rest.head?.any (Regex.isWord m)
  (ends.filter fits).foldl (fun (best : Option Regex.Spot) t =>
    match best with
    | some b => if b.position < t.position then some t else best
    | none => some t) none

/-- the first match of whole words from a place on -/
def findWord? (m : Regex.Mode) (r : Regex) : (rest : Text) → (previous : Option Char) → (position : Nat) →
    Option (Regex.Spot × Regex.Spot)
  | [], previous, position =>
    let s : Regex.Spot := { rest := [], previous, position }
    (wordEnd? m r s).map fun t => (s, t)
  | c :: rest, previous, position =>
    let s : Regex.Spot := { rest := c :: rest, previous, position }
    match wordEnd? m r s with
    | some t => some (s, t)
    | none => findWord? m r rest (some c) (position + 1)

/-- all matches of whole words from a place on -/
def findWords (m : Regex.Mode) (r : Regex) : (fuel : Nat) → Regex.Spot → List (Regex.Spot × Regex.Spot)
  | 0, _ => []
  | fuel + 1, s =>
    match findWord? m r s.rest s.previous s.position with
    | none => []
    | some (a, b) =>
      let next := if a.position = b.position then b.skip 1 else b
      if b.rest = [] then [(a, b)] else (a, b) :: findWords m r fuel next

/-- all matches of an ordered expression from a place on: where they begin and end -/
def findOrdered (s : Ordered.Subject) (e : Ordered) (mark : Option Nat) : (fuel : Nat) → (n : Nat) → List (Nat × Nat)
  | 0, _ => []
  | fuel + 1, n =>
    match Ordered.search s e (fun _ _ => true) (s.stop - n) n with
    | none => []
    | some (a, b, groups) =>
      let start := ((mark.bind groups.get?).map (·.1)).getD a
      let next := if b ≤ n ∧ start = b then n + 1 else max b (if start = b then b + 1 else b)
      (start, b) :: if s.stop < next then [] else findOrdered s e mark fuel next

def matchesIn (o : Options) (line : Text) : List (Nat × Nat) :=
  match o.searched with
  | .plain r =>
    let found :=
      if o.wholeLines then
        let s : Regex.Spot := { rest := line }
        ((Regex.ends o.mode (Regex.repeats r) r s).filter (·.rest.isEmpty)).take 1 |>.map fun t => (s, t)
      else if o.words then findWords o.mode r (line.length + 2) { rest := line }
      else Regex.findAll o.mode r line
    found.map fun m => (m.1.position, m.2.position)
  | .ordered e mark => findOrdered { chars := line.toArray, stop := line.length } e mark (line.length + 2) 0

/-- the line is one of those that are wanted -/
def selects (o : Options) (line : Text) : Bool :=
  let found :=
    match o.searched with
    | .plain r =>
      if o.wholeLines then !(matchesIn o line).isEmpty
      else if o.words then (findWord? o.mode r line none 0).isSome
      else Regex.occursIn o.mode r line
    | .ordered e _ =>
      (Ordered.search { chars := line.toArray, stop := line.length } e (fun _ _ => true) line.length 0).isSome
  found != o.inverted

def charactersOf (o : Options) (line : Raw) : Text :=
  if o.mode.wide then Raw.characters line else line

/-- a line with its number from one, its offset, and whether it is wanted -/
structure Line where
  text : Raw
  number : Nat
  offset : Nat
  selected : Bool
  deriving DecidableEq, Repr

def linesOf (o : Options) (r : Raw) : List Line :=
  let ls :=
    if o.zeros then
      let ls := Text.pieces '\x00' r
      if ls.getLast? = some [] then ls.dropLast else ls
    else Raw.lines r
  let (found, _, _, _) := ls.foldl (fun (acc : List Line × Nat × Nat × Nat) l =>
    let (done, number, offset, selected) := acc
    let enough : Bool := (o.limit.map fun n => decide (n ≤ selected)).getD false
    if enough then (({ text := l, number, offset, selected := false } : Line) :: done, number + 1, offset + l.length + 1, selected)
    else
      let s := selects o (charactersOf o l)
      ({ text := l, number, offset, selected := s } :: done, number + 1, offset + l.length + 1,
        if s then selected + 1 else selected)) ([], 1, 0, 0)
  found.reverse

/-- a text between the signs of a colour -/
def inColour (o : Options) (colour t : Raw) : Raw :=
  if o.coloured ∧ t ≠ [] then "\x1b[" ++ colour ++ "m\x1b[K" ++ t ++ "\x1b[m\x1b[K" else t

/-- what is printed in front of a line -/
def lead (o : Options) (name : Raw) (mark : Char) (number offset : Nat) : Raw :=
  let sign : Raw := inColour o "36" [mark]
  let width (t : Raw) : Raw := if o.tabbed then Raw.pad 4 false t else t
  let shown := (if o.names then inColour o "35" name ++ (o.nameEnd.elim sign fun c => [c]) else []) ++
    (if o.numbers then inColour o "32" (width (Text.ofNat number)) ++ sign else []) ++
    if o.offsets then inColour o "32" (width (Text.ofNat offset)) ++ sign else []
  if o.tabbed ∧ shown ≠ [] then shown ++ ['\t'] else shown

/-- the parts of a line, those that match in colour -/
def coloured (o : Options) (l : Raw) : Raw :=
  let t := charactersOf o l
  let back : Text → Raw := if o.mode.wide then Raw.ofCharacters else fun t => t
  let (out, place) := (matchesIn o t).foldl (fun (acc : Raw × Nat) m =>
    (acc.1 ++ back ((t.drop acc.2).take (m.1 - acc.2)) ++ inColour o "01;31" (back ((t.drop m.1).take (m.2 - m.1))), m.2))
    ([], 0)
  out ++ back (t.drop place)

def shown (o : Options) (name : Raw) (ls : List Line) : Raw :=
  let ending := if o.zeros then '\x00' else '\n'
  let back : Text → Raw := if o.mode.wide then Raw.ofCharacters else fun t => t
  if o.matching then
    (ls.filter (·.selected)).flatMap fun l =>
      if o.inverted then []
      else
        let line := charactersOf o l.text
        (matchesIn o line).flatMap fun m =>
          let t := back ((line.drop m.1).take (m.2 - m.1))
          if t = [] then []
          else lead o name ':' l.number (l.offset + (back (line.take m.1)).length) ++ inColour o "01;31" t ++ [ending]
  else
    let wanted := (ls.filter (·.selected)).map (·.number)
    -- with a limit no context is read behind the last line that counts once another one would be wanted
    let inContext (n : Nat) : Bool := wanted.any fun w => (w ≤ n && n ≤ w + o.after) || (n ≤ w && w ≤ n + o.before)
    let chosen := if o.before = 0 ∧ o.after = 0 then ls.filter (·.selected) else ls.filter fun l => inContext l.number
    let r := chosen.foldl (fun (acc : List Raw × Option Nat) l =>
      let gap : Raw :=
        match acc.2 with
        | some n =>
          if (0 < o.before ∨ 0 < o.after) ∧ n + 1 < l.number ∧ o.apart ≠ [] then
            inColour o "36" o.apart.dropLast ++ ['\n']
          else []
        | none => []
      let text := if o.coloured ∧ l.selected ∧ !o.inverted then coloured o l.text else l.text
      ((gap ++ lead o name (if l.selected then ':' else '-') l.number l.offset ++ text ++ [ending]) :: acc.1,
        some l.number)) ([], none)
    r.1.reverse.flatten

/-- what is printed for one file, and whether a line was wanted -/
def file (o : Options) (name : Raw) (r : Raw) : Raw × Bool :=
  let binary : Bool := !o.zeros && !o.text && '\x00' ∈ r
  if binary ∧ o.skips then ([], false)
  else
  let ls := linesOf o r
  let n := (ls.filter (·.selected)).length
  let found := 0 < n
  let named : Raw := inColour o "35" name ++ [o.nameEnd.getD '\n']
  let notice : Raw := "grep: " ++ name ++ ": binary file matches\n"
  let misspelled (l : Line) : Bool := l.selected && o.mode.wide && !o.text && !Raw.isSpelled l.text
  let out : Raw :=
    if o.quiet then []
    else if o.listed then if found then named else []
    else if o.unlisted then if found then [] else named
    else if o.count then (if o.names then lead { o with numbers := false, offsets := false } name ':' 0 0 else []) ++
      Text.ofNat n ++ ['\n']
    else if binary then if found then notice else []
    else if ls.any misspelled then
      if o.skips then shown o name (ls.takeWhile fun l => !misspelled l)
      else shown o name (ls.takeWhile fun l => !misspelled l) ++ notice
    else shown o name ls
  (out, found)

/-- an ordered expression in the spelling that the library reads; the group that marks the beginning of a match is
without a number of its own -/
def spelledOrdered : (fuel : Nat) → (inSet : Bool) → Raw → Raw
  | 0, _, r => r
  | _, _, [] => []
  | fuel + 1, true, r =>
    match r with
    | '[' :: ':' :: s =>
      let name := s.takeWhile (· ≠ ':')
      let members : List (Raw × Raw) :=
        [("alpha", "a-zA-Z"), ("digit", "0-9"), ("alnum", "a-zA-Z0-9"), ("upper", "A-Z"), ("lower", "a-z"),
         ("space", " \\t\\n\\r\\f\\v"), ("blank", " \\t"), ("punct", "!-/:-@\\[-\x60\x7b-~"), ("xdigit", "0-9a-fA-F"),
         ("word", "a-zA-Z0-9_")]
      match (members.find? (·.1 = name)).map (·.2), s.drop name.length with
      | some m, ':' :: ']' :: rest => m ++ spelledOrdered fuel true rest
      | _, _ => "\\[:" ++ spelledOrdered fuel true s
    | '\\' :: 'h' :: s => " \\t" ++ spelledOrdered fuel true s
    | '\\' :: c :: s => '\\' :: c :: spelledOrdered fuel true s
    | ']' :: s => ']' :: spelledOrdered fuel false s
    | '[' :: s => '\\' :: '[' :: spelledOrdered fuel true s
    | c :: s => c :: spelledOrdered fuel true s
    | [] => []
  | fuel + 1, false, r =>
    match r with
    | '\\' :: 'K' :: s => "(?P<beginning>)" ++ spelledOrdered fuel false s
    | '\\' :: 'h' :: s => "[ \\t]" ++ spelledOrdered fuel false s
    | '\\' :: 'R' :: s => "(?:\\r\\n|\\n|\\r)" ++ spelledOrdered fuel false s
    | '\\' :: 'z' :: s => "\\Z" ++ spelledOrdered fuel false s
    | '\\' :: c :: s => '\\' :: c :: spelledOrdered fuel false s
    | '(' :: '?' :: '<' :: c :: s =>
      if c = '=' ∨ c = '!' then "(?<" ++ c :: spelledOrdered fuel false s else "(?P<" ++ c :: spelledOrdered fuel false s
    | '[' :: '^' :: ']' :: s => "[^\\]" ++ spelledOrdered fuel true s
    | '[' :: ']' :: s => "[\\]" ++ spelledOrdered fuel true s
    | '[' :: '^' :: s => "[^" ++ spelledOrdered fuel true s
    | '[' :: s => '[' :: spelledOrdered fuel true s
    | c :: s => c :: spelledOrdered fuel false s
    | [] => []

def ordered? (o : Parsed) (wide : Bool) (t : Text) : Option Searched :=
  let t := spelledOrdered (t.length + 1) false t
  let t : Text := if o.has 'x' then "^(?:" ++ t ++ ")$" else if o.has 'w' then "(?<!\\w)(?:" ++ t ++ ")(?!\\w)" else t
  match Ordered.read true { fold := o.has 'i' || o.has 'y', narrow := !wide } t with
  | .ok k => some (.ordered k.expression ((k.names.find? fun n => n.1 = ("beginning" : Text)).map (·.2)))
  | .error _ => none

/-- the expression for several patterns -/
def anyOf : List Regex → Regex
  | [] => .empty
  | [r] => r
  | r :: rs => .alt r (anyOf rs)

/-- an expression for a text as it is -/
def literal (t : Raw) : Regex :=
  t.foldr (fun c r => .seq (.char c) r) .empty

end Grep

/-- the files below a directory, in order, with paths that start with its spelling; directories may be left out -/
def filesBelow (t : Tree) (dir : Place) (spelled : Raw) (leaves : Raw → Bool) : List Raw :=
  let below := t.nodes.filterMap fun n =>
    match n.2 with
    | .file _ _ =>
      if Place.within dir n.1 ∧ n.1 ≠ dir then
        let steps := ((n.1.take (n.1.length - dir.length)).reverse).map Raw.ofText
        let front : Raw := if spelled = [] ∨ spelled.getLast? = some '/' then spelled else spelled ++ ['/']
        if steps.dropLast.any leaves then none else some (front ++ Text.paste ['/'] steps)
      else none
    | _ => none
  below.mergeSort Raw.le

/-- searches files -/
def grep (c : Call) : Answer :=
  let short := (c.name.reverse.takeWhile (· ≠ '/')).reverse
  let wide := c.isWide
  let known :=
    [option 'E' "extended-regexp", option 'F' "fixed-strings", option 'G' "basic-regexp", option 'P' "perl-regexp",
     valuedOption 'e' "regexp", valuedOption 'f' "file", option 'i' "ignore-case", option 'y' [],
     option 'v' "invert-match", option 'w' "word-regexp", option 'x' "line-regexp", option 'c' "count",
     option 'n' "line-number", option 'b' "byte-offset", option 'H' "with-filename", option 'h' "no-filename",
     option 'o' "only-matching", option 'l' "files-with-matches", option 'L' "files-without-match", option 'q' "quiet",
     option 'q' "silent", option 's' "no-messages", valuedOption 'm' "max-count", valuedOption 'A' "after-context",
     valuedOption 'B' "before-context", valuedOption 'C' "context", option 'r' "recursive",
     option 'R' "dereference-recursive", option 'z' "null-data", option 'a' "text", option 'U' "binary",
     option 'Z' "null", option 'u' "unix-byte-offsets", option 'I' [], option 'T' "initial-tab", option 'V' "version",
     valuedOption 'd' "directories", valuedOption 'D' "devices",
     option '\x01' "color", option '\x01' "colour", valuedOption '\x02' "include", valuedOption '\x03' "exclude",
     valuedOption '\x04' "exclude-dir", valuedOption '\x05' "label", option '\x06' "line-buffered",
     valuedOption '\x07' "group-separator", option '\x08' "no-group-separator", valuedOption '\x0b' "binary-files",
     option '\x0c' "no-ignore-case"]
  let spelled := c.arguments.flatMap fun a =>
    match a with
    | '-' :: r => if r ≠ [] ∧ r.all Char.isDigit then [['-', 'C'], r] else [a]
    | _ => [a]
  let usage : Raw := "Usage: grep [OPTION]... PATTERNS [FILE]...\nTry 'grep --help' for more information."
  match options known false spelled with
  | .error e => .fail ("grep: " ++ e ++ '\n' :: usage) 2
  | .ok p =>
    let given := p.given.filter fun g => g.1 = 'e' || g.1 = 'f'
    let (own, files) : List Raw × List Raw :=
      if given = [] then (p.operands.take 1, p.operands.drop 1) else ([], p.operands)
    if given = [] ∧ own = [] then .fail usage 2
    else
      let texts : Except Raw (List Raw) := do
        let more ← given.mapM fun g =>
          if g.1 = 'e' then .ok [g.2]
          else
            match c.readInput g.2 with
            | .ok r => .ok (if r = [] then [] else [if r.getLast? = some '\n' then r.dropLast else r])
            | .error e => .error (g.2 ++ ": " ++ e.words)
        return own ++ more.flatten
      match texts with
      | .error e => .fail ("grep: " ++ e) 2
      | .ok texts =>
        let patterns := (texts.flatMap fun t => Text.pieces '\n' t).map fun t => if wide then Raw.characters t else t
        let kind : Option Char :=
          ((p.given.filter fun g => g.1 = 'E' || g.1 = 'F' || g.1 = 'G' || g.1 = 'P').getLast?).map fun g => g.1
        let extended : Bool := kind == some 'E' || (kind == none && short == ("egrep" : Raw))
        let fixed : Bool := kind == some 'F' || (kind == none && short == ("fgrep" : Raw))
        let readOne (t : Text) : Except Raw (Regex × List Raw) :=
          if fixed ∨ kind == some 'P' then .ok (Grep.literal t, [])
          else if ("[:" : Raw).isPrefixOf t ∧ (":]" : Raw).isSuffixOf t ∧ 4 < t.length then
            .error "character class syntax is [[:space:]], not [:space:]"
          else
            match Regex.readAll { extended } t with
            | .ok r => .ok r
            | .error e => .error e.message
        let number (l : Char) (what : Raw) : Except Raw (Option Nat) :=
          match p.value? l with
          | none => .ok none
          | some v =>
            match Raw.nat? v with
            | some n => .ok (some n)
            | none => if l = 'm' then .error "invalid max count" else .error (v ++ what)
        let numbers : Except Raw (Option Nat × Option Nat × Option Nat × Option Nat) := do
          let why : Raw := ": invalid context length argument"
          return (← number 'm' [], ← number 'A' why, ← number 'B' why, ← number 'C' why)
        let searched : Except Raw (Grep.Searched × List Raw) :=
          if kind == some 'P' then
            if 1 < patterns.length then .error "the -P option only supports a single pattern"
            else
              match Grep.ordered? p wide (patterns.headD []) with
              | some e => .ok (e, [])
              | none => .error "invalid expression"
          else
            match patterns.mapM readOne with
            | .ok found => .ok (.plain (Grep.anyOf (found.map (·.1))), found.flatMap (·.2))
            | .error e => .error e
        match numbers, searched with
        | .error e, _ => .fail ("grep: " ++ e) 2
        | _, .error e => .fail ("grep: " ++ e) 2
        | .ok (limit, after, before, context), .ok (searched, idle) =>
          let warnings : Raw := idle.flatMap fun sign => ("grep: warning: " : Raw) ++ sign ++ " at start of expression\n"
          let recursive := p.has 'r' || p.has 'R' || p.value? 'd' = some "recurse"
          let files := if files = [] then [if recursive then [] else ['-']] else files
          let kindOf : Char → Bool := fun l => l = 'H' || l = 'h'
          let isDirectory (f : Raw) : Bool := c.tree.isDirectory c.here (Raw.toText (if f = [] then ['.'] else f))
          let names : Bool :=
            match (p.given.filter fun g => kindOf g.1).getLast? with
            | some (k, _) => k = 'H'
            | none => 1 < files.length || (recursive && files.any isDirectory)
          let none_ := patterns.isEmpty
          let kindOfFile := p.value? '\x0b'
          let o : Grep.Options :=
            { searched, mode := { folded := (p.has 'i' || p.has 'y') && !p.has '\x0c', wide }, words := p.has 'w'
              wholeLines := p.has 'x', inverted := p.has 'v' != none_, count := p.has 'c', numbers := p.has 'n'
              offsets := p.has 'b', names, matching := p.has 'o', listed := p.has 'l', unlisted := p.has 'L'
              quiet := p.has 'q', limit, before := (before.or context).getD 0, after := (after.or context).getD 0
              zeros := p.has 'z', text := p.has 'a' || kindOfFile = some "text"
              skips := p.has 'I' || kindOfFile = some "without-match"
              nameEnd := if p.has 'Z' then some '\x00' else none, tabbed := p.has 'T'
              coloured := p.value? '\x01' = some "always"
              apart := if p.has '\x08' then [] else ((p.value? '\x07').map (· ++ ['\n'])).getD "--\n" }
          let o := if none_ then { o with searched := .plain .empty, inverted := !p.has 'v' } else o
          let baseName (f : Raw) : Raw := (f.reverse.takeWhile (· ≠ '/')).reverse
          let fits (globs : List Raw) (f : Raw) : Bool :=
            globs.any fun g => Shell.Pattern.fitsName wide false g (baseName f)
          let kept (f : Raw) : Bool :=
            (!p.has '\x02' || fits (p.values '\x02') f) && !fits (p.values '\x03') f
          let leaves (name : Raw) : Bool := fits (p.values '\x04') name
          let all := files.flatMap fun f =>
            if recursive ∧ f ≠ ['-'] then
              match c.tree.locate c.here (Raw.toText (if f = [] then ['.'] else f)) with
              | .ok place =>
                if c.tree.isDirectoryAt place then (filesBelow c.tree place f leaves).filter kept
                else if kept f then [f] else []
              | .error _ => [f]
            else if kept f then [f] else []
          let r := all.foldl (fun (acc : Raw × Raw × Bool) f =>
            let (out, complaints, found) := acc
            let title : Raw := if f = ['-'] then (p.value? '\x05').getD "(standard input)" else f
            match c.readInput f with
            | .ok text =>
              let (t, hit) := Grep.file o title text
              (out ++ t, complaints, found || hit)
            | .error e =>
              let quiet : Bool := p.has 's' || (e = .isDirectory && p.value? 'd' = some "skip")
              let complaint : Raw := if quiet then [] else "grep: " ++ f ++ ": " ++ e.words ++ ['\n']
              (out, complaints ++ complaint, found)) ([], warnings, false)
          let (out, complaints, found) := r
          let failed := all.any fun f =>
            match c.readInput f with
            | .ok _ => false
            | .error e => !(e = .isDirectory && p.value? 'd' = some "skip")
          let taken : Taken := Call.takenBy (if recursive ∧ p.operands.length < 2 then [['.']] else files)
          let status := if failed ∧ !(o.quiet ∧ found) then 2 else if found then 0 else 1
          { Answer.buffered complaints out status with taken }

end IncludeAudit.Tool
