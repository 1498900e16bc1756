/-
Tools that run commands, or say what commands would find: the environment, and arguments read from the input.
-/
import IncludeAudit.Shell.Program
import IncludeAudit.Tool.Basic

namespace IncludeAudit.Tool

/-! ## The environment -/

def shownVariables (ending : Char) (vs : List (Raw × Raw)) : Raw :=
  vs.flatMap fun v => v.1 ++ '=' :: v.2 ++ [ending]

/-- prints variables of the environment -/
def printenv (c : Call) : Answer :=
  match options [option '0' "null"] true c.arguments with
  | .error e => c.misused e 2
  | .ok p =>
    let ending := if p.has '0' then '\x00' else '\n'
    if p.operands = [] then .print (shownVariables ending c.environment)
    else
      let values := p.operands.filterMap fun n => if '=' ∈ n then none else c.setting? n
      .buffered [] (values.flatMap fun v => v ++ [ending]) (if values.length = p.operands.length then 0 else 1)

namespace Env

/-- what is to be done before a command starts -/
structure Plan where
  fresh : Bool := false
  unset : List Raw := []
  zeros : Bool := false
  directory : Option Raw := none
  deriving DecidableEq, Repr

/-- words of a text under way: finished ones, the open one, and whether a word is open -/
structure Words where
  done : List Raw := []
  current : Raw := []
  isOpen : Bool := false
  deriving DecidableEq, Repr

namespace Words

def add (w : Words) (c : Char) : Words :=
  { w with current := c :: w.current, isOpen := true }

/-- ends the open word -/
def close (w : Words) : Words :=
  if w.isOpen then { done := w.current.reverse :: w.done } else w

def list (w : Words) : List Raw :=
  w.close.done.reverse

end Words

/-- the character of an escape that means the same everywhere -/
def escape? (c : Char) : Option Char :=
  (([('f', '\x0c'), ('n', '\n'), ('r', '\r'), ('t', '\t'), ('v', '\x0b'), ('#', '#'), ('$', '$'), ('"', '"'),
    ('\'', '\''), ('\\', '\\')] : List (Char × Char)).find? fun p => p.1 = c).map (·.2)

/-- the words of a text with quotes, escapes and variables -/
def split (lookup : Raw → Raw) : (fuel : Nat) → (quote : Option Char) → Raw → Words → Except Raw (List Raw)
  | 0, _, _, w => .ok w.list
  | _, none, [], w => .ok w.list
  | _, some _, [], _ => .error "no terminating quote in -S string"
  | fuel + 1, quote, c :: r, w =>
    if some c = quote then split lookup fuel none r w
    else if quote = some '\'' then
      match c, r with
      | '\\', d :: r' =>
        if d = '\\' ∨ d = '\'' then split lookup fuel quote r' (w.add d) else split lookup fuel quote r (w.add c)
      | _, _ => split lookup fuel quote r (w.add c)
    else if c = '\\' then
      match r with
      | [] => .error "invalid backslash at end of string in -S"
      | d :: r' =>
        if d = '_' then split lookup fuel quote r' (if quote.isSome then w.add ' ' else w.close)
        else if d = 'c' then
          if quote.isSome then .error "'\\c' must not appear in double-quoted -S string" else .ok w.list
        else
          match escape? d with
          | some e => split lookup fuel quote r' (w.add e)
          | none => .error ("invalid sequence '\\" ++ [d] ++ "' in -S")
    else if c = '$' then
      let name := (r.drop 1).takeWhile fun d => d.isAlphanum || d = '_'
      let rest := r.drop (name.length + 1)
      if r.head? = some '\x7b' ∧ name ≠ [] ∧ rest.head? = some '\x7d' then
        let w := (lookup name).foldl Words.add { w with isOpen := w.isOpen || lookup name ≠ [] }
        split lookup fuel quote rest.tail w
      else .error ("only $\x7bVARNAME\x7d expansion is supported, error at: " ++ c :: r)
    else if quote.isNone ∧ (c = '\'' ∨ c = '"') then split lookup fuel (some c) r { w with isOpen := true }
    else if quote.isNone ∧ Raw.isSpace c then split lookup fuel quote r w.close
    else if quote.isNone ∧ c = '#' ∧ !w.isOpen then .ok w.list
    else split lookup fuel quote r (w.add c)

/-- what options ask for, and the words behind them -/
def read (lookup : Raw → Raw) : (fuel : Nat) → List Raw → Plan → Except Raw (Plan × List Raw)
  | 0, words, p => .ok (p, words)
  | _, [], p => .ok (p, [])
  | fuel + 1, word :: rest, p =>
    let valued (value : Raw) (f : Raw → Raw → List Raw → Except Raw (Plan × List Raw)) (name : Raw) :
        Except Raw (Plan × List Raw) :=
      match value, rest with
      | [], v :: rest => f name v rest
      | [], [] => .error ("option requires an argument -- '" ++ name ++ "'")
      | v, rest => f name v rest
    let apply (name value : Raw) (rest : List Raw) : Except Raw (Plan × List Raw) :=
      if name = "u" then
        if value = [] ∨ '=' ∈ value then .error ("!cannot unset " ++ quote value ++ ": Invalid argument")
        else read lookup fuel rest { p with unset := p.unset ++ [value] }
      else if name = "C" then read lookup fuel rest { p with directory := some value }
      else
        match split lookup (value.length + 1) none value {} with
        | .ok words => read lookup fuel (words ++ rest) p
        | .error e => .error ('!' :: e)
    match word with
    | ['-'] => read lookup fuel rest { p with fresh := true }
    | ['-', '-'] => .ok (p, rest)
    | '-' :: '-' :: l =>
      let name := l.takeWhile (· ≠ '=')
      let value := l.drop (name.length + 1)
      let longs : List (Raw × Raw) :=
        [("ignore-environment", "i"), ("null", "0"), ("unset", "u"), ("chdir", "C"), ("split-string", "S"), ("debug", "v")]
      match longs.filter fun o => name.isPrefixOf o.1 with
      | [(_, short)] =>
        if short = "i" then read lookup fuel rest { p with fresh := true }
        else if short = "0" then read lookup fuel rest { p with zeros := true }
        else if short = "v" then read lookup fuel rest p
        else valued value apply short
      | _ => .error ("unrecognized option " ++ quote word)
    | '-' :: 'i' :: r => read lookup fuel (if r = [] then rest else ('-' :: r) :: rest) { p with fresh := true }
    | '-' :: '0' :: r => read lookup fuel (if r = [] then rest else ('-' :: r) :: rest) { p with zeros := true }
    | '-' :: 'v' :: r => read lookup fuel (if r = [] then rest else ('-' :: r) :: rest) p
    | '-' :: c :: r =>
      if c = 'u' ∨ c = 'C' ∨ c = 'S' then valued r apply [c]
      else .error ("invalid option -- '" ++ [c, '\''])
    | _ => .ok (p, word :: rest)

/-- the variables in front of a command -/
def assigned (words : List Raw) (vs : List (Raw × Raw)) : List (Raw × Raw) × List Raw :=
  match words with
  | w :: rest =>
    if '=' ∈ w then
      let name := w.takeWhile (· ≠ '=')
      let value := w.drop (name.length + 1)
      let vs :=
        if vs.any fun v => v.1 = name then vs.map fun v => if v.1 = name then (name, value) else v
        else vs ++ [(name, value)]
      assigned rest vs
    else (vs, words)
  | [] => (vs, [])

end Env

/-- runs a command in a changed environment, or prints that environment -/
def env (c : Call) : Answer :=
  match Env.read (fun n => (c.setting? n).getD []) (100 * c.arguments.length + 1000) c.arguments {} with
  | .error ('!' :: e) => c.fail e 125
  | .error e => c.misused e 125
  | .ok (p, words) =>
    let vs := if p.fresh then [] else c.environment
    let vs := vs.filter fun v => !p.unset.contains v.1
    let (vs, command) := Env.assigned words vs
    match command with
    | [] =>
      if p.directory.isSome then c.misused "must specify command with --chdir (-C)" 125
      else .print (shownVariables (if p.zeros then '\x00' else '\n') vs)
    | command =>
      if p.zeros then c.misused "cannot specify --null (-0) with command" 125
      else
        let there : Except OsError (Option Place) :=
          match p.directory with
          | none => .ok none
          | some d =>
            match c.tree.locate c.here (Raw.toText d) with
            | .ok q => if c.tree.isDirectoryAt q then .ok (some q) else .error .notDirectory
            | .error e => .error e
        match there with
        | .error e => c.fail ("cannot change directory to " ++ quoteName (p.directory.getD []) ++ ": " ++ e.words) 125
        | .ok place => { steps := [.run command none (some vs) place], outcome := .last }

/-! ## Arguments from the input -/

namespace Gathering

/-- how arguments are read and handed on -/
structure Manner where
  most : Option Nat := none
  lines : Option Nat := none
  replaced : Option Raw := none
  delimiter : Option Char := none
  finish : Option Raw := none
  size : Nat := 131072
  deriving DecidableEq, Repr

/-- arguments under way: finished lines with their arguments, and what is open, the latest first -/
structure Reading where
  lines : List (List Raw) := []
  words : List Raw := []
  current : Raw := []
  isOpen : Bool := false
  quote : Option Char := none
  escaped : Bool := false
  /-- the last character was a blank -/
  blank : Bool := false
  fault : Option Char := none
  finished : Bool := false
  deriving DecidableEq, Repr

/-- ends the open argument -/
def closeWord (m : Manner) (s : Reading) : Reading :=
  if s.isOpen then
    let w := s.current.reverse
    if m.finish = some w then { s with finished := true, current := [], isOpen := false }
    else { s with words := w :: s.words, current := [], isOpen := false }
  else s

/-- ends the open line -/
def closeLine (m : Manner) (s : Reading) : Reading :=
  let s := closeWord m s
  if s.words = [] then s else { s with lines := s.words.reverse :: s.lines, words := [] }

def step (m : Manner) (s : Reading) (c : Char) : Reading :=
  if s.fault.isSome ∨ s.finished then s
  else if s.escaped then { s with current := c :: s.current, isOpen := true, escaped := false }
  else
    match s.quote with
    | some q =>
      if c = q then { s with quote := none }
      else if c = '\n' then { s with fault := some q }
      else { s with current := c :: s.current }
    | none =>
      if c = '\n' then
        if m.lines.isSome ∧ s.blank then closeWord m s else closeLine m s
      else if c = '\'' ∨ c = '"' then { s with quote := some c, isOpen := true, blank := false }
      else if c = '\\' then { s with escaped := true, blank := false }
      else if c = ' ' ∨ c = '\t' then
        if m.replaced.isSome then
          if s.isOpen then { s with current := c :: s.current } else s
        else { closeWord m s with blank := true }
      else { s with current := c :: s.current, isOpen := true, blank := false }

/-- the arguments of a text, line by line, and the quote that has no end -/
def read (m : Manner) (r : Raw) : List (List Raw) × Option Char :=
  match m.delimiter with
  | some d =>
    let (done, last) := r.foldl (fun (acc : List Raw × Raw) c =>
      if c = d then (acc.2.reverse :: acc.1, []) else (acc.1, c :: acc.2)) ([], [])
    let all := if last = [] then done else last.reverse :: done
    (all.reverse.map fun w => [w], none)
  | none =>
    let s := r.foldl (step m) {}
    let fault := s.fault.or s.quote
    let s := if fault.isSome then { s with current := [], isOpen := false } else s
    -- an open line is given up with its quote
    let s := if fault.isSome ∧ m.lines.isSome then { s with words := [] } else s
    ((closeLine m s).lines.reverse, fault)

/-- the room that words take -/
def room (ws : List Raw) : Nat :=
  ws.foldl (fun n w => n + w.length + 1) 0

/-- arguments in groups that fit, and whether one does not fit at all -/
def groups (most : Nat) (size : Nat) (front : List Raw) (ws : List Raw) : List (List Raw) × Bool :=
  let start := room front
  let (done, current, _, _, tooLong) := ws.foldl
    (fun (acc : List (List Raw) × List Raw × Nat × Nat × Bool) w =>
      let (done, current, n, used, tooLong) := acc
      if tooLong then acc
      else if size < start + w.length + 1 then (done, current, n, used, true)
      else if n < most ∧ used + w.length + 1 ≤ size then (done, w :: current, n + 1, used + w.length + 1, false)
      else (current.reverse :: done, [w], 1, start + w.length + 1, false)) ([], [], 0, start, size < start)
  ((if current = [] then done else current.reverse :: done).reverse, tooLong)

def replace (sign value : Raw) : (fuel : Nat) → Raw → Raw
  | 0, w => w
  | fuel + 1, w =>
    if sign = [] then w
    else
      match Raw.splitAt? sign w with
      | some (before, behind) => before ++ value ++ replace sign value fuel behind
      | none => w

/-- lines in groups of a number -/
def inGroups {α : Type} (n : Nat) : (fuel : Nat) → List α → List (List α)
  | 0, _ => []
  | _, [] => []
  | fuel + 1, l => l.take n :: inGroups n fuel (l.drop n)

/-- a way to cut the input into commands, as it is named when it gives way and when it comes later -/
def wayName (letter : Char) : Raw × Raw :=
  match letter with
  | 'n' => ("--max-args", "--max-args/-n")
  | 'L' => ("--max-lines", "-L")
  | 'l' => ("--max-lines", "--max-lines/-l")
  | _ => ("--replace", "--replace/-I/-i")

def delimiter? (r : Raw) : Option Char :=
  match r with
  | [c] => some c
  | ['\\', c] =>
    (([('n', '\n'), ('t', '\t'), ('0', '\x00'), ('\\', '\\'), ('r', '\r'), ('a', '\x07'), ('f', '\x0c'), ('v', '\x0b')] :
      List (Char × Char)).find? fun p => p.1 = c).map (·.2)
  | _ => none

end Gathering

/-- runs a command with arguments that are read from the input -/
def xargs (c : Call) : Answer :=
  let known :=
    [option '0' "null", valuedOption 'a' "arg-file", valuedOption 'd' "delimiter", valuedOption 'E' [],
     { letter := 'e', long := "eof", attached := true }, valuedOption 'I' [],
     { letter := 'i', long := "replace", attached := true }, valuedOption 'L' "max-lines",
     { letter := 'l', attached := true }, valuedOption 'n' "max-args", valuedOption 'P' "max-procs",
     option 'r' "no-run-if-empty", valuedOption 's' "max-chars", option 't' "verbose", option 'x' "exit", option 'o' "open-tty"]
  match options known true c.arguments with
  | .error e => c.misused e 1
  | .ok p =>
    let count (l : Char) : Except Raw (Option Nat) :=
      match p.value? l with
      | none => .ok none
      | some v =>
        match Raw.int? v with
        | none => .error ("invalid number \"" ++ v ++ "\" for -" ++ [l] ++ " option")
        | some n =>
          if n < 1 ∧ l ≠ 'P' then .error ("value " ++ v ++ " for -" ++ [l] ++ " option should be >= 1")
          else .ok (some n.toNat)
    -- of the ways to cut the input into commands the last one counts
    let ways := p.given.filter fun g => g.1 = 'n' || g.1 = 'L' || g.1 = 'l' || g.1 = 'I' || g.1 = 'i'
    let (way, warnings) := ways.foldl (fun (acc : Option Char × Raw) g =>
      let (before, warnings) := acc
      match before with
      | none => (some g.1, warnings)
      | some b =>
        let kind := Gathering.wayName
        if kind b = kind g.1 then (some g.1, warnings)
        else if (kind b).1 = "--replace" ∧ g = ('n', ['1']) then (before, warnings)
        else
          let warning : Raw :=
            c.name ++ ": warning: options " ++ (kind b).1 ++ " and " ++ (kind g.1).2 ++
              " are mutually exclusive, ignoring previous " ++ (kind b).1 ++ " value\n"
          (some g.1, warnings ++ warning)) (none, [])
    match count 'n', count 'L', count 's' with
    | .error e, _, _ | _, .error e, _ | _, _, .error e => c.misused e 1
    | .ok most, .ok lines, .ok size =>
      let sign : Option Raw :=
        match way with
        | some 'I' => p.value? 'I'
        | some 'i' => some (if p.value? 'i' = some [] then ['\x7b', '\x7d'] else (p.value? 'i').getD [])
        | _ => none
      let delimiter : Except Raw (Option Char) :=
        match (p.given.filter fun g => g.1 = '0' || g.1 = 'd').getLast? with
        | some ('0', _) => .ok (some '\x00')
        | some (_, v) =>
          match Gathering.delimiter? v with
          | some d => .ok (some d)
          | none =>
            .error ("Invalid input delimiter specification " ++ v ++
              ": the delimiter must be either a single character or an escape sequence starting with \\.")
        | none => .ok none
      match delimiter with
      | .error e => c.fail e 1
      | .ok delimiter =>
        let perLine : Option Nat :=
          match way with
          | some 'L' => lines
          | some 'l' => some ((Raw.nat? ((p.value? 'l').getD [])).getD 1)
          | _ => none
        let m : Gathering.Manner :=
          { most := if way = some 'n' then most else none, lines := perLine, replaced := sign, delimiter
            finish := (p.value? 'E').or ((p.value? 'e').bind fun e => if e = [] then none else some e)
            size := size.getD 131072 }
        let command : List Raw := if p.operands = [] then ["echo"] else p.operands
        let source : Except Raw Raw :=
          match p.value? 'a' with
          | none => .ok c.input
          | some f =>
            match c.readInput f with
            | .ok r => .ok r
            | .error e => .error ("Cannot open input file " ++ quoteName f ++ ": " ++ e.words)
        match source with
        | .error e => c.fail e 1
        | .ok text =>
          let (read, unclosed) := Gathering.read m text
          let (commands, tooLong) : List (List Raw) × Bool :=
            match m.replaced, m.lines with
            | some s, _ =>
              let words := read.flatten
              let words := if delimiter.isSome then words else read.map fun l => l.flatten
              (words.map fun v => command.map fun w => Gathering.replace s v (w.length + 1) w, false)
            | none, some n =>
              ((Gathering.inGroups n (read.length + 1) read).map fun g => command ++ g.flatten, false)
            | none, none =>
              let (gs, tooLong) := Gathering.groups (m.most.getD text.length) m.size command read.flatten
              (gs.map fun g => command ++ g, tooLong)
          let commands :=
            if commands = [] ∧ m.replaced.isNone ∧ !p.has 'r' ∧ unclosed.isNone ∧ !tooLong then [command] else commands
          let commands := if m.replaced.isSome ∧ unclosed.isSome then [] else commands
          let input : Option Raw := if p.has 'a' then none else some []
          let shown (w : Raw) : Raw := showName w
          let steps := commands.flatMap fun w =>
            (if p.has 't' then [Step.say true (Text.paste [' '] (w.map shown) ++ ['\n'])] else []) ++
              [.run w input none none]
          let complaint : Raw :=
            match unclosed with
            | some q =>
              let kind : Raw := if q = '"' then "double" else "single"
              let advice : Raw := " quote; by default quotes are special to xargs unless you use the -0 option\n"
              c.name ++ (": unmatched " : Raw) ++ kind ++ advice
            | none =>
              let long : Raw := ": argument line too long\n"
              if tooLong then c.name ++ long else []
          { said := if warnings = [] then [] else [(true, warnings)]
            steps := steps ++ (if complaint = [] then [] else [.say true complaint])
            status := if complaint = [] then 0 else 1
            taken := if p.has 'a' then .nothing else .everything
            outcome := .gathered }

/-! ## Commands run as they are -/

/-- longer than anything is ever waited for, in milliseconds -/
def forever : Nat := 1000000000000

/-- a span of time in milliseconds: a number with a letter for its unit -/
def span? (w : Raw) : Option Nat :=
  let (w, unit) : Raw × Nat :=
    match w.getLast? with
    | some 's' => (w.dropLast, 1)
    | some 'm' => (w.dropLast, 60)
    | some 'h' => (w.dropLast, 3600)
    | some 'd' => (w.dropLast, 86400)
    | _ => (w, 1)
  let whole := w.takeWhile Char.isDigit
  match w.drop whole.length with
  | [] => if whole ≠ [] then some (Raw.toNat whole * 1000 * unit) else none
  | '.' :: f =>
    if f.all Char.isDigit ∧ (whole ≠ [] ∨ f ≠ []) then
      some ((Raw.toNat (whole ++ f) * 1000 * unit) / Nat.pow 10 f.length)
    else none
  | _ => if w = "inf" ∨ w = "infinity" then some forever else none

/-- waits -/
def sleep (c : Call) : Answer :=
  match options [] true c.arguments with
  | .error e => c.misused e 1
  | .ok p =>
    match p.operands.filter fun w => (span? w).isNone with
    | [] =>
      if p.operands = [] then c.misused "missing operand" 1
      else { slept := (p.operands.filterMap span?).foldl (· + ·) 0 }
    | bad =>
      let complaint (w : Raw) : Raw := c.name ++ ": invalid time interval " ++ quote w ++ ['\n']
      .fail (bad.flatMap complaint ++ "Try '" ++ c.name ++ " --help' for more information.") 1

/-- the number of a signal that ends a command, by its name or as it is -/
def signalOf (t : Raw) : Option Nat :=
  let names : List (Raw × Nat) :=
    [("HUP", 1), ("INT", 2), ("QUIT", 3), ("ABRT", 6), ("KILL", 9), ("USR1", 10), ("USR2", 12), ("PIPE", 13),
     ("ALRM", 14), ("TERM", 15)]
  let upper := t.map Char.toUpper
  let name := if ("SIG" : Raw).isPrefixOf upper then upper.drop 3 else upper
  ((names.find? fun p => p.1 = name || Text.ofNat p.2 = t)).map (·.2)

/-- runs a command for a span of time at most -/
def timeout (c : Call) : Answer :=
  let known :=
    [valuedOption 's' "signal", valuedOption 'k' "kill-after", option 'v' "verbose", option '\x01' "foreground",
     option '\x02' "preserve-status"]
  match options known true c.arguments with
  | .error e => c.misused e 125
  | .ok p =>
    match p.operands with
    | span :: w :: ws =>
      match span? span, signalOf ((p.value? 's').getD "TERM") with
      | none, _ => c.misused ("invalid time interval " ++ quote span) 125
      | _, none => c.misused (quote ((p.value? 's').getD []) ++ ": invalid signal") 125
      | some n, some signal =>
        let limit := if n = 0 then none else some { span := n, signal, keeps := p.has '\x02' }
        { steps := [.run (w :: ws) none none none], outcome := .last, limit }
    | _ => .fail ("Try '" ++ c.name ++ " --help' for more information.") 125

/-- runs a command that goes on when nobody listens any more -/
def nohup (c : Call) : Answer :=
  match c.arguments with
  | [] => c.misused "missing operand" 125
  | w :: ws => { steps := [.run (if w = "--" then ws else w :: ws) none none none], outcome := .last }

/-- runs a command with another claim on time -/
def nice (c : Call) : Answer :=
  match options [valuedOption 'n' "adjustment"] true c.arguments with
  | .error e => c.misused e 125
  | .ok p =>
    match p.operands with
    | [] => .print "0\n"
    | ws => { steps := [.run ws none none none], outcome := .last }

/-- runs a command, and changes nothing that shows -/
def runPlainly (known : List Option_) (c : Call) : Answer :=
  match options known true c.arguments with
  | .error e => c.misused e 125
  | .ok p =>
    match p.operands with
    | [] => c.misused "missing operand" 125
    | ws => { steps := [.run ws none none none], outcome := .last }

/-! ## Small answers -/

/-- prints the same line over and over -/
def yes (c : Call) : Answer :=
  let words := c.arguments.filter (· ≠ ("--" : Raw))
  let line : Raw := Text.paste [' '] (if words = [] then [['y']] else words) ++ ['\n']
  let times := endless / line.length + 1
  .print ((List.range times).foldl (fun acc _ => line.reverse ++ acc) []).reverse

/-- prints where commands are found -/
def which (c : Call) : Answer :=
  match options [option 'a' [], option 's' []] true c.arguments with
  | .error e => .fail ("Illegal option " ++ e ++ "\nUsage: " ++ c.name ++ " [-as] args") 2
  | .ok p =>
    let startable (f : Raw) : Bool :=
      match c.stat f with
      | .ok (.file _ mode) => Node.startable mode
      | _ => false
    let found (n : Raw) : List Raw :=
      let all := if '/' ∈ n then [n] else Shell.Image.candidates (c.setting? "PATH") n
      let all := all.filter startable
      if p.has 'a' then all else all.take 1
    let results := p.operands.map found
    let missing : Bool := results.any List.isEmpty || p.operands.isEmpty
    .buffered [] (if p.has 's' then [] else results.flatten.flatMap fun f => f ++ ['\n']) (if missing then 1 else 0)

/-- prints a fixed line; no operands are taken -/
def fixedLine (line : Raw) (c : Call) : Answer :=
  match options [] false c.arguments with
  | .error e => c.misused e 1
  | .ok p =>
    match p.operands with
    | [] => .print (line ++ ['\n'])
    | w :: _ => c.misused ("extra operand " ++ quote w) 1

/-- prints the numbers and names of the user -/
def id (c : Call) : Answer :=
  let known := [option 'u' "user", option 'g' "group", option 'G' "groups", option 'n' "name", option 'r' "real", option 'z' "zero", option 'a' []]
  c.parse known 1 fun p =>
    let one := p.has 'u' || p.has 'g' || p.has 'G'
    match p.operands.filter (· ≠ ("root" : Raw)) with
    | w :: _ => c.fail (quote w ++ ": no such user") 1
    | [] =>
      if one then .print (if p.has 'n' then "root\n" else "0\n")
      else if p.has 'n' ∨ p.has 'r' then c.fail "cannot print only names or real IDs in default format" 1
      else .print "uid=0(root) gid=0(root) groups=0(root)\n"

/-- prints what the system is -/
def uname (c : Call) : Answer :=
  let known :=
    [option 's' "kernel-name", option 'm' "machine", option 'p' "processor", option 'i' "hardware-platform",
     option 'o' "operating-system"]
  c.parse known 1 fun p =>
    match p.operands with
    | w :: _ => c.misused ("extra operand " ++ quote w) 1
    | [] =>
      let parts : List (Char × Raw) :=
        [('s', "Linux"), ('m', "x86_64"), ('p', "x86_64"), ('i', "x86_64"), ('o', "GNU/Linux")]
      let usual : List Raw := ["Linux"]
      let chosen : List Raw := if p.given = [] then usual else (parts.filter fun x => p.has x.1).map (·.2)
      .print (Text.paste [' '] chosen ++ ['\n'])

/-- says that there is no terminal -/
def tty (c : Call) : Answer :=
  c.parse [option 's' "silent", option 's' "quiet"] 2 fun p =>
    match p.operands with
    | w :: _ => c.misused ("extra operand " ++ quote w) 2
    | [] => .buffered [] (if p.has 's' then [] else "not a tty\n") 1

end IncludeAudit.Tool
