/-
Tools that work on the columns and characters of lines: parts of lines, files side by side, characters in place of
others, and lines of a limited width.
-/
import IncludeAudit.Text.Characters
import IncludeAudit.Tool.Format
import IncludeAudit.Tool.Print

namespace IncludeAudit.Tool

/-! ## Parts of lines -/

/-- positions from the first to the last one, or to the end -/
structure Span where
  first : Nat
  last : Option Nat
  deriving DecidableEq, Repr

namespace Span

def among (ss : List Span) (n : Nat) : Bool :=
  ss.any fun s => s.first ≤ n && (s.last.map fun m => decide (n ≤ m)).getD true

/-- one span of a list, or what is wrong with it -/
def read (fields : Bool) (t : Raw) : Except Raw Span :=
  let what : Raw := if fields then "field" else "byte/character"
  let value : Raw := if fields then "field value " else "byte/character position "
  let fromOne : Raw := if fields then "fields are numbered from 1" else "byte/character positions are numbered from 1"
  let a := t.takeWhile (· ≠ '-')
  let isRange : Bool := a.length < t.length
  let b := t.drop (a.length + 1)
  let _ := what
  if (a ++ b).any (!Char.isDigit ·) then .error ("invalid " ++ value ++ quote t)
  else if isRange ∧ a = [] ∧ b = [] then .error "invalid range with no endpoint: -"
  else if isRange = false ∧ a = [] then .error fromOne
  else
    let first := if a = [] then 1 else Raw.toNat a
    if first = 0 then .error fromOne
    else if isRange = false then .ok ⟨first, some first⟩
    else if b = [] then .ok ⟨first, none⟩
    else if Raw.toNat b < first then .error "invalid decreasing range"
    else .ok ⟨first, some (Raw.toNat b)⟩

end Span

/-- the parts of a line of bytes, with a separator between parts that do not touch -/
def cutBytes (ss : List Span) (separator : Raw) (line : Raw) : Raw :=
  let n := line.length
  let chosen := ((List.range n).zip line).filter fun p => Span.among ss (p.1 + 1)
  let r := chosen.foldl (fun (acc : Raw × Option Nat) p =>
    match acc.2 with
    | some k => (if k + 1 = p.1 then p.2 :: acc.1 else p.2 :: separator.reverse ++ acc.1, some p.1)
    | none => ([p.2], some p.1)) ([], none)
  r.1.reverse

/-- prints parts of each line -/
def cut (c : Call) : Answer :=
  let known :=
    [valuedOption 'b' "bytes", valuedOption 'c' "characters", valuedOption 'f' "fields", valuedOption 'd' "delimiter",
     option 's' "only-delimited", option 'C' "complement", valuedOption 'o' "output-delimiter",
     option 'z' "zero-terminated", option 'n' []]
  c.parse known 1 fun p =>
    let lists := p.given.filter fun g => g.1 = 'b' || g.1 = 'c' || g.1 = 'f'
    match lists with
    | [] => c.misused "you must specify a list of bytes, characters, or fields" 1
    | _ :: _ :: _ => c.misused "only one list may be specified" 1
    | [(kind, list)] =>
      let fields : Bool := kind = 'f'
      let delimiter := (p.value? 'd').getD ['\t']
      if 1 < delimiter.length then c.misused "the delimiter must be a single character" 1
      else if fields = false ∧ p.has 'd' then
        c.misused "an input delimiter may be specified only when operating on fields" 1
      else if fields = false ∧ p.has 's' then
        c.misused "suppressing non-delimited lines makes sense\n\tonly when operating on fields" 1
      else
        match (Text.pieces ',' list).mapM (Span.read fields) with
        | .error e => c.misused e 1
        | .ok spans =>
          let mark := delimiter.headD '\x00'
          let wanted (n : Nat) : Bool := Span.among spans n != p.has 'C'
          let separator := (p.value? 'o').getD (if fields then [mark] else [])
          let ended (line : Raw) : Raw := line ++ [if p.has 'z' then '\x00' else '\n']
          let shown (line : Raw) : Raw :=
            if fields then
              if mark ∉ line then (if p.has 's' then [] else ended line)
              else
                let parts := Text.pieces mark line
                let chosen := ((List.range parts.length).zip parts).filter fun q => wanted (q.1 + 1)
                ended (Text.paste separator (chosen.map (·.2)))
            else if p.has 'C' then
              ended (((List.range line.length).zip line).filterMap fun q => if wanted (q.1 + 1) then some q.2 else none)
            else ended (cutBytes spans separator line)
          let (got, complaints) := c.gather p.operands
          let cutFile (r : Raw) : Raw :=
            let lines := if p.has 'z' then (Text.pieces '\x00' r).filter (· ≠ []) else Raw.lines r
            lines.flatMap shown
          { Answer.buffered complaints (got.flatMap fun g => cutFile g.2) (if complaints = [] then 0 else 1) with
            taken := Call.takenBy p.operands }

/-! ## Side by side -/

def separatorList : Raw → List Raw
  | [] => []
  | '\\' :: c :: r =>
    let s : Raw :=
      if c = '0' then [] else if c = 'n' then ['\n'] else if c = 't' then ['\t'] else [(simpleEscape? c).getD c]
    s :: separatorList r
  | c :: r => [c] :: separatorList r

def pasteInTurn (separators : List Raw) : (n : Nat) → List Raw → Raw
  | _, [] => []
  | _, [t] => t
  | n, t :: ts =>
    t ++ (if separators = [] then [] else separators.getD (n % separators.length) []) ++ pasteInTurn separators (n + 1) ts

/-- the lines of files in rows; files that have ended give empty texts -/
def rows : (fuel : Nat) → List (List Raw) → List (List Raw)
  | 0, _ => []
  | fuel + 1, columns =>
    if columns.all List.isEmpty then []
    else columns.map (·.headD []) :: rows fuel (columns.map List.tail)

/-- lines dealt out to so many takers: the ones of the taker with a number -/
def dealt (takers number : Nat) (lines : List Raw) : List Raw :=
  ((List.range lines.length).zip lines).filterMap fun p => if p.1 % takers = number then some p.2 else none

/-- prints the lines of files side by side, or of each file in one line -/
def paste (c : Call) : Answer :=
  c.parse [valuedOption 'd' "delimiters", option 's' "serial", option 'z' "zero-terminated"] 1 fun p =>
    let separators := separatorList ((p.value? 'd').getD ['\t'])
    let files := if p.operands = [] then [['-']] else p.operands
    let taken := Call.takenBy p.operands
    let fault (f : Raw) (e : OsError) : Raw := c.name ++ ": " ++ showName f ++ ": " ++ e.words ++ ['\n']
    if p.has 's' then
      let r := files.foldl (fun (acc : List Raw × Raw × Bool) f =>
        let (out, complaints, used) := acc
        match (if f = ['-'] && used then .ok [] else c.readInput f) with
        | .ok text => ((pasteInTurn separators 0 (Raw.lines text) ++ ['\n']) :: out, complaints, used || f = ['-'])
        | .error e => (out, complaints ++ fault f e, used)) ([], [], false)
      { Answer.buffered r.2.1 r.1.reverse.flatten (if r.2.1 = [] then 0 else 1) with taken }
    else
      match files.find? fun f => !((c.readInput f).toOption.isSome) with
      | some f =>
        match c.readInput f with
        | .error e => .fail (c.name ++ ": " ++ showName f ++ ": " ++ e.words) 1
        | .ok _ => {}
      | none =>
        let inputs := (files.filter (· = ['-'])).length
        let own := Raw.lines c.input
        let (columns, _) := files.foldl (fun (acc : List (List Raw) × Nat) f =>
          if f = ['-'] then (acc.1 ++ [dealt inputs acc.2 own], acc.2 + 1)
          else (acc.1 ++ [Raw.lines ((c.readInput f).toOption.getD [])], acc.2)) ([], 0)
        let longest := columns.foldl (fun n l => max n l.length) 0
        let table := rows longest columns
        { Answer.print (table.flatMap fun row => pasteInTurn separators 0 row ++ ['\n']) with taken }

/-! ## Characters in place of others -/

/-- an element of a set of characters -/
inductive TrItem
  | char (c : Char)
  | range (a b : Char)
  | charClass (name : Raw)
  /-- a character so many times, or as often as it takes -/
  | repeated (c : Char) (n : Option Nat)
  deriving DecidableEq, Repr

/-- characters with a mark on those that a backslash has made plain -/
def trUnescape : (fuel : Nat) → Raw → List (Char × Bool)
  | 0, _ => []
  | _, [] => []
  | fuel + 1, '\\' :: r =>
    let ds := (Shell.Sum.digits 8 r).take 3
    if ds ≠ [] then
      let value := ds.foldl (fun n d => n * 8 + (d.toNat - 48)) 0
      let (ds, value) := if 255 < value then (ds.take 2, value / 8) else (ds, value)
      (Char.ofNat value, true) :: trUnescape fuel (r.drop ds.length)
    else
      match r with
      | [] => [('\\', true)]
      | c :: r => ((simpleEscape? c).getD c, true) :: trUnescape fuel r
  | fuel + 1, c :: r => (c, false) :: trUnescape fuel r

/-- the elements of a set -/
def trItems : (fuel : Nat) → List (Char × Bool) → Except Raw (List TrItem)
  | 0, _ => .ok []
  | _, [] => .ok []
  | fuel + 1, (c, e) :: r => do
    let inner := (r.drop 1).map (·.1)
    let plain (_ : Unit) : Except Raw (List TrItem) :=
      match r with
      | ('-', false) :: (d, _) :: r' =>
        if d < c then
          .error ("range-endpoints of '" ++ [c, '-', d] ++ "' are in reverse collating sequence order")
        else (trItems fuel r').map (.range c d :: ·)
      | _ => (trItems fuel r).map (.char c :: ·)
    if c = '[' ∧ e = false then
      match r with
      | (':', false) :: _ =>
        let name := inner.takeWhile (· ≠ ':')
        match r.drop (name.length + 1) with
        | (':', _) :: (']', _) :: r' =>
          if (Raw.inClass? name).isNone then throw ("invalid character class " ++ quote name)
          return .charClass name :: (← trItems fuel r')
        | _ => plain ()
      | ('=', false) :: (d, _) :: ('=', _) :: (']', _) :: r' => return .char d :: (← trItems fuel r')
      | (d, _) :: ('*', false) :: r' =>
        let count := (r'.map (·.1)).takeWhile Char.isDigit
        match r'.drop count.length with
        | (']', _) :: r'' =>
          let n :=
            if count.head? = some '0' then count.foldl (fun n d => n * 8 + (d.toNat - 48)) 0 else Raw.toNat count
          return .repeated d (if n = 0 then none else some n) :: (← trItems fuel r'')
        | _ => plain ()
      | _ => plain ()
    else plain ()

/-- the characters of elements; a character repeated as often as it takes gets the rest of a length -/
def trExpand (items : List TrItem) (length : Nat) : Raw :=
  let all : Raw := (List.range 256).map Char.ofNat
  let size (i : TrItem) : Nat :=
    match i with
    | .char _ => 1
    | .range a b => b.toNat + 1 - a.toNat
    | .charClass name => (all.filter ((Raw.inClass? name).getD fun _ => false)).length
    | .repeated _ n => n.getD 0
  let fixed := (items.map size).foldl (· + ·) 0
  items.flatMap fun i =>
    match i with
    | .char c => [c]
    | .range a b => (List.range (b.toNat + 1 - a.toNat)).map fun k => Char.ofNat (a.toNat + k)
    | .charClass name => all.filter ((Raw.inClass? name).getD fun _ => false)
    | .repeated c n => List.replicate (n.getD (length - fixed)) c

/-- one character out of several equal ones in a row, if it is in a set -/
def squeezeIn (set : Char → Bool) (r : Raw) : Raw :=
  (r.foldl (fun (acc : Raw) c => if acc.head? = some c ∧ set c then acc else c :: acc) []).reverse

def byteTable (set : Raw) : Array Bool :=
  set.foldl (fun t c => t.setIfInBounds c.toNat true) (Array.replicate 256 false)

/-- replaces, deletes or squeezes characters of the input -/
def tr (c : Call) : Answer :=
  let known :=
    [option 'c' "complement", option 'C' [], option 'd' "delete", option 's' "squeeze-repeats",
     option 't' "truncate-set1"]
  match options known true c.arguments with
  | .error e => c.misused e 1
  | .ok p =>
    let delete := p.has 'd'
    let squeeze := p.has 's'
    let complement := p.has 'c' || p.has 'C'
    let least := if delete = squeeze then 2 else 1
    let most := if delete && !squeeze then 1 else 2
    let n := p.operands.length
    if n = 0 then c.misused "missing operand" 1
    else if n < least then
      let why : Raw :=
        if delete then "Two strings must be given when both deleting and squeezing repeats."
        else "Two strings must be given when translating."
      c.misused ("missing operand after " ++ quote (p.operands.getLastD []) ++ '\n' :: why) 1
    else if most < n then
      let why : Raw :=
        if n = 2 then "\nOnly one string may be given when deleting without squeezing repeats." else []
      c.misused ("extra operand " ++ quote (p.operands.getD most []) ++ why) 1
    else
      let first := p.operands.headD []
      let second? := p.operands.tail.head?
      let items (t : Raw) : Except Raw (List TrItem) := trItems (t.length + 1) (trUnescape (t.length + 1) t)
      let sets : Except Raw (List TrItem × List TrItem) := do
        let a ← items first
        let b ← items (second?.getD [])
        return (a, b)
      match sets with
      | .error e => c.fail e 1
      | .ok (a, b) =>
        let translating := !delete && second?.isSome
        let starred (is : List TrItem) : Bool := is.any fun i => i matches .repeated _ none
        let odd := b.any fun i =>
          match i with
          | .charClass k => k ≠ "upper" && k ≠ "lower"
          | _ => false
        if starred a then c.fail "the [c*] repeat construct may not appear in string1" 1
        else if translating && odd then
          c.fail "when translating, the only character classes that may appear in\nstring2 are 'upper' and 'lower'" 1
        else
          let all : Raw := (List.range 256).map Char.ofNat
          let one := trExpand a 0
          let inOne := byteTable one
          let one := if complement then all.filter fun x => !(inOne.getD x.toNat false) else one
          let inOne := byteTable one
          let two := trExpand b one.length
          let inTwo := byteTable two
          if translating ∧ two = [] ∧ p.has 't' = false then
            c.fail "when not truncating set1, string2 must be non-empty" 1
          else
            let has (t : Array Bool) (x : Char) : Bool := t.getD x.toNat false
            let out :=
              if delete then
                let kept := c.input.filter fun x => !has inOne x
                if squeeze then squeezeIn (has inTwo) kept else kept
              else if translating then
                let two :=
                  if p.has 't' then two
                  else two ++ List.replicate (one.length - two.length) (two.getLastD ' ')
                let table := (one.zip two).foldl (fun (t : Array Char) q => t.setIfInBounds q.1.toNat q.2)
                  ((List.range 256).map Char.ofNat).toArray
                let changed := c.input.map fun x => table.getD x.toNat x
                if squeeze then squeezeIn (has inTwo) changed else changed
              else squeezeIn (has inOne) c.input
            let endsOpen (t : Raw) : Bool := (t.reverse.takeWhile (· = '\\')).length % 2 = 1
            let warning : Raw := c.name ++ ": warning: an unescaped backslash at end of string is not portable\n"
            let warnings := (p.operands.filter endsOpen).flatMap fun _ => warning
            { Answer.buffered warnings out 0 with taken := .everything }

/-! ## Widths -/

def columnBehind (bytes : Bool) (column : Nat) (c : Char) : Nat :=
  if bytes then column + 1
  else if c = '\x08' then column - 1
  else if c = '\r' then 0
  else if c = '\t' then column + 8 - column % 8
  else column + 1

/-- a line cut where it gets too wide: the finished lines, the open one with the latest character first, its width -/
structure Folding where
  done : Raw := []
  line : Raw := []
  column : Nat := 0

/-- one more character of a line -/
def Folding.step (width : Nat) (spaces bytes : Bool) (s : Folding) (c : Char) : Folding :=
  let widthOf (r : Raw) : Nat := r.reverse.foldl (columnBehind bytes) 0
  let next := columnBehind bytes s.column c
  if next ≤ width then { s with line := c :: s.line, column := next }
  else
    let tail := if spaces then s.line.takeWhile fun x => !(x = ' ' || x = '\t') else []
    if spaces ∧ tail.length < s.line.length then
      let front := s.line.drop tail.length
      let column := widthOf tail
      { done := '\n' :: front ++ s.done, line := c :: tail, column := columnBehind bytes column c }
    else if s.line = [] then { s with line := [c], column := next }
    else { done := '\n' :: s.line ++ s.done, line := [c], column := columnBehind bytes 0 c }

/-- cuts lines to a width -/
def fold (c : Call) : Answer :=
  let spelled := c.arguments.flatMap fun a =>
    match a with
    | '-' :: d :: _ => if d.isDigit then [['-', 'w'], a.tail] else [a]
    | _ => [a]
  let known := [valuedOption 'w' "width", option 's' "spaces", option 'b' "bytes", option 'c' "characters"]
  Call.parse { c with arguments := spelled } known 1 fun p =>
    let width := ((p.value? 'w').bind Raw.nat?).getD 80
    if (p.value? 'w').any fun w => (Raw.nat? w).getD 0 = 0 then
      let why : Raw := if width = 0 then ": Numerical result out of range" else []
      c.fail ("invalid number of columns: " ++ quote ((p.value? 'w').getD []) ++ why) 1
    else
      let (got, complaints) := c.gather p.operands
      let shown (l : Raw × Bool) : Raw :=
        let s := l.1.foldl (Folding.step width (p.has 's') (p.has 'b')) {}
        (s.line ++ s.done).reverse ++ if l.2 then ['\n'] else []
      let out := got.flatMap fun g => (linesWithEnds g.2).flatMap shown
      { Answer.buffered complaints out (if complaints = [] then 0 else 1) with taken := Call.takenBy p.operands }

def nextStop (stops : List Nat) (column : Nat) : Nat :=
  match stops with
  | [] => (column / 8 + 1) * 8
  | [n] => (column / n + 1) * n
  | _ => (stops.find? (column < ·)).getD (column + 1)

/-- blanks in place of tabs -/
def expand (c : Call) : Answer :=
  let spelled := c.arguments.flatMap fun a =>
    match a with
    | '-' :: d :: _ => if d.isDigit then [['-', 't'], a.tail] else [a]
    | _ => [a]
  Call.parse { c with arguments := spelled } [valuedOption 't' "tabs", option 'i' "initial"] 1 fun p =>
    let stops := ((p.value? 't').map fun t => (Text.pieces ',' t).filterMap Raw.nat?).getD []
    let (got, complaints) := c.gather p.operands
    let line (l : Raw) : Raw :=
      (l.foldl (fun (acc : Raw × Nat × Bool) x =>
        let (out, column, initial) := acc
        if x = '\t' ∧ (initial ∨ p.has 'i' = false) then
          let next := nextStop stops column
          (List.replicate (next - column) ' ' ++ out, next, initial)
        else if x = '\x08' then (x :: out, column - 1, false)
        else (x :: out, column + 1, initial && (x = ' ' || x = '\t'))) ([], 0, true)).1.reverse
    let out := got.flatMap fun g => (linesWithEnds g.2).flatMap fun l => line l.1 ++ if l.2 then ['\n'] else []
    { Answer.buffered complaints out (if complaints = [] then 0 else 1) with taken := Call.takenBy p.operands }

end IncludeAudit.Tool
