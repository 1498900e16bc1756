/-
Tools that print files, or parts of them: whole files, their first or last lines, lines in another order or with
numbers, and counts of lines, words and bytes.
-/
import IncludeAudit.Tool.Basic

namespace IncludeAudit.Tool

/-! ## Whole files -/

/-- a byte that is no plain character, as `cat -v` shows it -/
def visible (c : Char) : Raw :=
  let n := c.toNat
  if c = '\n' ∨ c = '\t' then [c]
  else if n < 32 then ['^', Char.ofNat (n + 64)]
  else if n = 127 then "^?"
  else if n < 128 then [c]
  else
    let m := n - 128
    if m < 32 then "M-^" ++ [Char.ofNat (m + 64)]
    else if m = 127 then "M-^?"
    else "M-" ++ [Char.ofNat m]

/-- how lines are shown -/
structure CatStyle where
  number : Bool := false
  numberFilled : Bool := false
  squeeze : Bool := false
  ends : Bool := false
  tabs : Bool := false
  codes : Bool := false
  deriving DecidableEq, Repr

/-- what has been shown, the latest line first, with the next number and the empty lines in a row -/
structure CatState where
  shown : List Raw := []
  next : Nat := 1
  empty : Nat := 0

/-- shows one more line, and whether a line feed ends it -/
def catLine (s : CatStyle) (acc : CatState) (l : Raw × Bool) : CatState :=
  let (line, whole) := l
  let isEmpty := line.isEmpty && whole
  if isEmpty ∧ s.squeeze ∧ 1 ≤ acc.empty then acc
  else
    let numbered := if s.numberFilled then !isEmpty else s.number
    let number : Raw := if numbered then Raw.pad 6 false (Text.ofNat acc.next) ++ ['\t'] else []
    let shown := if s.codes then line.flatMap visible else line
    let shown := if s.tabs then shown.flatMap fun c => if c = '\t' then ['^', 'I'] else [c] else shown
    let shown := if s.ends ∧ whole ∧ shown.getLast? = some '\r' then shown.dropLast ++ "^M" else shown
    let shown := if s.ends ∧ whole then shown ++ ['$'] else shown
    { shown := (number ++ shown ++ if whole then ['\n'] else []) :: acc.shown
      next := if numbered then acc.next + 1 else acc.next
      empty := if isEmpty then acc.empty + 1 else 0 }

def linesWithEnds (r : Raw) : List (Raw × Bool) :=
  let ls := Raw.lines r
  let n := ls.length
  let ended := r.getLast? = some '\n'
  (List.range n).zip ls |>.map fun p => (p.2, ended || p.1 + 1 < n)

/-- prints files one after another -/
def cat (c : Call) : Answer :=
  let known :=
    [option 'b' "number-nonblank", option 'n' "number", option 's' "squeeze-blank", option 'v' "show-nonprinting",
     option 'E' "show-ends", option 'T' "show-tabs", option 'A' "show-all", option 'e' [], option 't' [],
     option 'u' []]
  c.parse known 1 fun p =>
    let has := p.has
    let style : CatStyle :=
      { number := has 'n', numberFilled := has 'b', squeeze := has 's', ends := has 'E' || has 'A' || has 'e'
        tabs := has 'T' || has 'A' || has 't', codes := has 'v' || has 'A' || has 'e' || has 't' }
    let taken := Call.takenBy p.operands
    if style = {} then
      let files := if p.operands = [] then [['-']] else p.operands
      let (said, failed, _) := files.foldl (fun (acc : List (Bool × Raw) × Bool × Bool) f =>
        let (said, failed, used) := acc
        let isInput := f = ['-'] || Call.isInputName f
        if isInput && used then acc
        else
          match c.readInput f with
          | .ok r =>
            let place := (c.tree.locate c.here (Raw.toText f)).toOption
            if isInput = false ∧ r ≠ [] ∧ c.output.isSome ∧ place = c.output then
              (said ++ [(true, c.name ++ ": " ++ showName f ++ ": input file is output file\n")], true, used)
            else (said ++ [(false, r)], failed, used || isInput)
          | .error e =>
            (said ++ [(true, c.name ++ ": " ++ showName f ++ ": " ++ e.words ++ ['\n'])], true, used)) ([], false, false)
      { said, status := if failed then 1 else 0, taken }
    else
      let (got, complaints) := c.gather p.operands
      let text := got.flatMap (·.2)
      { Answer.buffered complaints ((linesWithEnds text).foldl (catLine style) {}).shown.reverse.flatten
          (if complaints = [] then 0 else 1) with taken }

/-- copies the input to the output and to files -/
def tee (c : Call) : Answer :=
  c.parse [option 'a' "append", option 'i' "ignore-interrupts", option 'p' []] 1 fun p =>
    let bytes := Raw.toBytes c.input
    let (tree, complaints) := p.operands.foldl (fun (acc : Tree × Raw) f =>
      let path := Raw.toText f
      let edit := if p.has 'a' then acc.1.append c.here path bytes else acc.1.write c.here path bytes false
      match edit with
      | .ok (t, _) => (t, acc.2)
      | .error e => (acc.1, acc.2 ++ c.name ++ ": " ++ showName f ++ ": " ++ e.words ++ ['\n'])) (c.tree, [])
    let toErrors := p.operands.filter fun f => c.isPipe f "/dev/stderr"
    let toOutput := p.operands.filter fun f => c.isPipe f "/dev/stdout"
    let said := (false, c.input) :: (toOutput.map fun _ => (false, c.input)) ++ toErrors.map fun _ => (true, c.input)
    { said := (if complaints = [] then [] else [(true, complaints)]) ++ said
      status := if complaints = [] then 0 else 1, taken := .everything, tree := some tree }

/-! ## Heads and tails -/

/-- how much of a file is wanted -/
structure Portion where
  count : Nat := 10
  bytes : Bool := false
  /-- counted from the other end -/
  opposite : Bool := false
  deriving DecidableEq, Repr

/-- how many characters the first lines take, on top of those counted before -/
def spanLines : (lines : Nat) → Raw → (before : Nat) → Nat
  | 0, _, n => n
  | _, [], n => n
  | lines + 1, c :: r, n => if c = '\n' then spanLines lines r (n + 1) else spanLines (lines + 1) r (n + 1)

def countLines (r : Raw) : Nat :=
  r.count '\n' + if r.getLast?.any (· ≠ '\n') then 1 else 0

/-- the first part of a text -/
def headOf (p : Portion) (r : Raw) : Raw :=
  if p.bytes then r.take (if p.opposite then r.length - p.count else p.count)
  else r.take (spanLines (if p.opposite then countLines r - p.count else p.count) r 0)

/-- the last part of a text -/
def tailOf (p : Portion) (r : Raw) : Raw :=
  if p.bytes then r.drop (if p.opposite then p.count - 1 else r.length - p.count)
  else
    let skipped := if p.opposite then p.count - 1 else countLines r - p.count
    r.drop (spanLines skipped r 0)

/-- an option that is a number stands for that many lines -/
def spellOut (fromEnd : Bool) (arguments : List Raw) : List Raw :=
  match arguments with
  | ('-' :: d :: r) :: rest =>
    if d.isDigit then
      let digits := (d :: r).takeWhile Char.isDigit
      let behind := (d :: r).drop digits.length
      let kind : Raw := if 'c' ∈ behind then "-c" else "-n"
      let more : List Raw := behind.filterMap fun x => if x = 'q' ∨ x = 'v' then some ['-', x] else none
      more ++ [kind, digits] ++ rest
    else arguments
  | ['+' :: d :: r] =>
    let digits := (d :: r).takeWhile Char.isDigit
    if fromEnd ∧ digits ≠ [] then
      let behind := (d :: r).drop digits.length
      [if behind.head? = some 'c' then "-c" else "-n", '+' :: digits]
    else arguments
  | _ => arguments

/-- prints the first or last part of each file -/
def ends (fromEnd : Bool) (c : Call) : Answer :=
  let known :=
    [valuedOption 'n' "lines", valuedOption 'c' "bytes", option 'q' "quiet", option 'q' "silent", option 'v' "verbose",
     option 'z' "zero-terminated", option 'f' "follow"]
  let c := { c with arguments := spellOut fromEnd c.arguments }
  c.parse known 1 fun p =>
    let given := p.given.filter fun g => g.1 = 'n' || g.1 = 'c'
    let portion : Except Answer Portion :=
      match given.getLast? with
      | none => .ok {}
      | some (k, v) =>
        let bytes : Bool := k = 'c'
        let (opposite, t) : Bool × Raw :=
          match v with
          | '-' :: r => (!fromEnd, r)
          | '+' :: r => (fromEnd, r)
          | r => (false, r)
        match size? t with
        | some count => .ok { count, bytes, opposite }
        | none =>
          .error (c.fail ("invalid number of " ++ (if bytes then "bytes: " else "lines: ") ++ quote v) 1)
    match portion with
    | .error a => a
    | .ok portion =>
      let files := if p.operands = [] then [['-']] else p.operands
      let headers := p.has 'v' || (!p.has 'q' && 1 < files.length)
      let cut (r : Raw) : Raw := if fromEnd then tailOf portion r else headOf portion r
      let r := files.foldl (fun (acc : Raw × Raw × Bool × Taken) f =>
        let (out, complaints, first, taken) := acc
        let isInput := f = ['-'] || Call.isInputName f
        let title : Raw := if f = ['-'] then "standard input" else f
        let header : Raw := if headers then (if first then "==> " else "\n==> ") ++ title ++ " <==\n" else []
        let isUsed : Bool := taken ≠ .nothing
        match (if isInput && isUsed then .ok [] else c.readInput f) with
        | .ok text =>
          let part := cut text
          let taken : Taken :=
            if isInput = false ∨ isUsed then taken
            else if fromEnd ∨ portion.opposite then .everything
            else if part.length = text.length then .everything
            else .blocks part.length
          (out ++ header ++ part, complaints, false, taken)
        | .error .isDirectory =>
          (out ++ header, complaints ++ c.name ++ ": error reading " ++ quoteName f ++ ": Is a directory\n", false, taken)
        | .error e =>
          (out, complaints ++ c.name ++ ": cannot open " ++ quoteName f ++ " for reading: " ++ e.words ++ ['\n'], first, taken))
        ([], [], true, .nothing)
      { Answer.buffered r.2.1 r.1 (if r.2.1 = [] then 0 else 1) with taken := r.2.2.2 }

/-- the records of a text: lines with the line feeds that end them -/
def records (r : Raw) : List Raw :=
  (linesWithEnds r).map fun l => if l.2 then l.1 ++ ['\n'] else l.1

/-- prints the lines of files from the last to the first -/
def tac (c : Call) : Answer :=
  c.parse [option 'b' "before", option 'r' "regex", valuedOption 's' "separator"] 1 fun p =>
    let files := if p.operands = [] then [['-']] else p.operands
    let r := files.foldl (fun (acc : Raw × Raw) f =>
      match c.readInput f with
      | .ok text => (acc.1 ++ (records text).reverse.flatten, acc.2)
      | .error .isDirectory => (acc.1, acc.2 ++ c.name ++ ": " ++ showName f ++ ": read error: Invalid argument\n")
      | .error e =>
        (acc.1, acc.2 ++ c.name ++ ": failed to open " ++ quoteName f ++ " for reading: " ++ e.words ++ ['\n'])) ([], [])
    { Answer.buffered r.2 r.1 (if r.2 = [] then 0 else 1) with taken := Call.takenBy p.operands }

/-- prints each line backwards -/
def rev (c : Call) : Answer :=
  c.parse [] 1 fun p =>
    let wide := c.isWide
    let files := if p.operands = [] then [['-']] else p.operands
    let r := files.foldl (fun (acc : Raw × Raw) f =>
      match c.read (if f = ['-'] then "/dev/stdin" else f) with
      | .ok text =>
        let shown := (linesWithEnds text).flatMap fun l =>
          (if wide then Raw.ofCharacters (Raw.characters l.1).reverse else l.1.reverse) ++ if l.2 then ['\n'] else []
        (acc.1 ++ shown, acc.2)
      | .error e => (acc.1, acc.2 ++ c.name ++ ": cannot open " ++ f ++ ": " ++ e.words ++ ['\n'])) ([], [])
    { Answer.buffered r.2 r.1 (if r.2 = [] then 0 else 1) with taken := Call.takenBy p.operands }

/-! ## Numbers of lines -/

/-- prints files with the numbers of their lines -/
def nl (c : Call) : Answer :=
  let known :=
    [valuedOption 'b' "body-numbering", valuedOption 'w' "number-width", valuedOption 's' "number-separator",
     valuedOption 'v' "starting-line-number", valuedOption 'i' "line-increment", valuedOption 'n' "number-format",
     valuedOption 'h' "header-numbering", valuedOption 'f' "footer-numbering", valuedOption 'd' "section-delimiter",
     valuedOption 'l' "join-blank-lines", option 'p' "no-renumber"]
  c.parse known 1 fun p =>
    let style := (p.value? 'b').getD "t"
    let known : List Raw := ["a", "t", "n"]
    if known.contains style = false then c.misused ("invalid body numbering style: " ++ quote style) 1
    else
      let width := ((p.value? 'w').map Raw.toNat).getD 6
      let separator := (p.value? 's').getD ['\t']
      let start := ((p.value? 'v').bind Raw.int?).getD 1
      let step := ((p.value? 'i').bind Raw.int?).getD 1
      let format := (p.value? 'n').getD "rn"
      let (got, complaints) := c.gather p.operands
      let shown (n : Int) : Raw :=
        let t := Text.ofInt n
        if format = "ln" then Raw.pad width true t
        else if format = "rz" then
          let sign : Raw := if n < 0 then ['-'] else []
          let digits := Text.ofNat n.natAbs
          sign ++ List.replicate (width - digits.length - sign.length) '0' ++ digits
        else Raw.pad width false t
      let r := (linesWithEnds (got.flatMap (·.2))).foldl (fun (acc : List Raw × Int) l =>
        let isNumbered : Bool := style = "a" || (style = "t" && !l.1.isEmpty)
        if isNumbered then ((shown acc.2 ++ separator ++ l.1 ++ ['\n']) :: acc.1, acc.2 + step)
        else ((List.replicate (width + separator.length) ' ' ++ l.1 ++ ['\n']) :: acc.1, acc.2)) ([], start)
      { Answer.buffered complaints r.1.reverse.flatten (if complaints = [] then 0 else 1) with taken := Call.takenBy p.operands }

/-! ## Counts -/

structure Counts where
  lines : Nat := 0
  words : Nat := 0
  chars : Nat := 0
  bytes : Nat := 0
  longest : Nat := 0
  deriving DecidableEq, Repr

/-- counts while a text goes by -/
structure Counting where
  counts : Counts := {}
  inWord : Bool := false
  column : Nat := 0

/-- how many columns a character beyond ASCII takes -/
def columnsOf (c : Char) : Nat :=
  let n := c.toNat
  let wide : List (Nat × Nat) :=
    [(0x1100, 0x115f), (0x2e80, 0x303e), (0x3041, 0x33ff), (0x3400, 0x4dbf), (0x4e00, 0x9fff), (0xa000, 0xa4cf),
     (0xac00, 0xd7a3), (0xf900, 0xfaff), (0xfe30, 0xfe6f), (0xff00, 0xff60), (0xffe0, 0xffe6), (0x1f300, 0x1f64f),
     (0x1f900, 0x1f9ff), (0x20000, 0x3fffd)]
  if (0x300 ≤ n ∧ n ≤ 0x36f) ∨ (0x200b ≤ n ∧ n ≤ 0x200f) then 0 else if wide.any fun r => r.1 ≤ n && n ≤ r.2 then 2 else 1

/-- one more character, which takes so many bytes -/
def Counting.step (wide : Bool) (s : Counting) (c : Char) : Counting :=
  let k := s.counts
  let beyond : Bool := wide && 128 ≤ c.toNat && Text.isPrintable c && !Raw.isStray c
  let space := Raw.isSpace c
  let shown : Bool := (' ' < c && c ≤ '~') || beyond
  let size := if wide ∧ 128 ≤ c.toNat then (Raw.ofCharacters [c]).length else 1
  let words := if shown && !s.inWord then k.words + 1 else k.words
  let (lines, column, longest) : Nat × Nat × Nat :=
    if c = '\n' then (k.lines + 1, 0, max k.longest s.column)
    else if c = '\r' ∨ c = '\x0c' then (k.lines, 0, max k.longest s.column)
    else if c = '\t' then (k.lines, (s.column / 8 + 1) * 8, k.longest)
    else if ' ' ≤ c ∧ c ≤ '~' then (k.lines, s.column + 1, k.longest)
    else if beyond then (k.lines, s.column + columnsOf c, k.longest)
    else (k.lines, s.column, k.longest)
  let chars := if Raw.isStray c then k.chars else k.chars + 1
  { counts := { lines, words, chars, bytes := k.bytes + size, longest }
    inWord := if space then false else s.inWord || shown
    column }

def Counts.of (wide : Bool) (r : Raw) : Counts :=
  let s := (if wide then Raw.characters r else r).foldl (Counting.step wide) {}
  { s.counts with longest := max s.counts.longest s.column }

/-- counts lines, words and bytes -/
def wc (c : Call) : Answer :=
  let known :=
    [option 'l' "lines", option 'w' "words", option 'c' "bytes", option 'm' "chars", option 'L' "max-line-length",
     valuedOption 't' "total"]
  c.parse known 1 fun p =>
    let all := (p.given.filter (·.1 ≠ 't')).isEmpty
    let wanted (k : Counts) : List Nat :=
      let pick (b : Bool) (n : Nat) : List Nat := if b then [n] else []
      pick (all || p.has 'l') k.lines ++ pick (all || p.has 'w') k.words ++ pick (p.has 'm') k.chars ++
        pick (all || p.has 'c') k.bytes ++ pick (p.has 'L') k.longest
    let files := if p.operands = [] then [['-']] else p.operands
    let single := files.length = 1 && (wanted {}).length = 1
    let regular (f : Raw) : Except Unit (Option Nat) :=
      if f = ['-'] then .ok c.inputSize
      else
        match c.stat f with
        | .ok (.file bytes _) => .ok (some bytes.length)
        | .ok _ => .ok none
        | .error _ => if Call.isInputName f then .ok c.inputSize else .error ()
    let found := files.map regular
    let width : Nat :=
      if single then 1
      else
        let total := found.foldl (fun n x =>
          match x with
          | .ok (some k) => n + k
          | _ => n) 0
        let least := if found.any fun x => x matches .ok none then 7 else 1
        max least (Text.ofNat total).length
    let line (k : Counts) (name : Raw) : Raw :=
      Text.paste [' '] ((wanted k).map fun n => Raw.pad width false (Text.ofNat n)) ++
        (if name = [] then [] else ' ' :: name) ++ ['\n']
    let r := files.foldl (fun (acc : Raw × Raw × Counts) f =>
      let (out, complaints, sum) := acc
      let name := if p.operands = [] then [] else f
      match c.readInput f with
      | .ok text =>
        let k := Counts.of c.isWide text
        let sum : Counts :=
          { lines := sum.lines + k.lines, words := sum.words + k.words, chars := sum.chars + k.chars
            bytes := sum.bytes + k.bytes
            longest := max sum.longest k.longest }
        (out ++ line k name, complaints, sum)
      | .error .isDirectory =>
        (out ++ line {} name, complaints ++ c.name ++ ": " ++ showName f ++ ": Is a directory\n", sum)
      | .error e => (out, complaints ++ c.name ++ ": " ++ showName f ++ ": " ++ e.words ++ ['\n'], sum)) ([], [], {})
    let wish := (p.value? 't').getD "auto"
    let hasTotal : Bool := wish = "always" || wish = "only" || (wish = "auto" && 1 < files.length)
    let total := if hasTotal then line r.2.2 (if wish = "only" then [] else "total") else []
    { Answer.buffered r.2.1 (if wish = "only" then total else r.1 ++ total) (if r.2.1 = [] then 0 else 1) with taken := Call.takenBy p.operands }

end IncludeAudit.Tool
