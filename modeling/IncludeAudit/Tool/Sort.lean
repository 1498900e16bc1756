/-
Tools that bring lines into an order or rely on one: sorting by keys, lines that repeat, and lines of two files that
match.
-/
import IncludeAudit.Tool.Columns

namespace IncludeAudit.Tool

/-! ## Comparing -/

/-- the text with another comparison on each of its parts -/
def compareRaw : Raw → Raw → Ordering
  | [], [] => .eq
  | [], _ :: _ => .lt
  | _ :: _, [] => .gt
  | a :: r, b :: t => if a = b then compareRaw r t else compare a.toNat b.toNat

/-- the number at the start of a text: whether it is negative, its digits in front of the point and behind it -/
def numberAt (t : Raw) : Bool × Raw × Raw :=
  let t := t.dropWhile fun c => c = ' ' || c = '\t'
  let (negative, t) : Bool × Raw :=
    match t with
    | '-' :: r => (true, r)
    | r => (false, r)
  let whole := t.takeWhile Char.isDigit
  let behind := t.drop whole.length
  let part : Raw :=
    match behind with
    | '.' :: r => r.takeWhile Char.isDigit
    | _ => []
  let whole := whole.dropWhile (· = '0')
  let part := (part.reverse.dropWhile (· = '0')).reverse
  (negative && !(whole.isEmpty && part.isEmpty), whole, part)

/-- two numbers without signs -/
def compareMagnitudes (a b : Raw × Raw) : Ordering :=
  (compare a.1.length b.1.length).then ((compareRaw a.1 b.1).then (compareRaw a.2 b.2))

/-- two numbers at the starts of texts -/
def compareNumbers (a b : Raw) : Ordering :=
  let (m, x) := numberAt a
  let (n, y) := numberAt b
  match m, n with
  | false, false => compareMagnitudes x y
  | true, true => compareMagnitudes y x
  | true, false => .lt
  | false, true => .gt

/-- how large the unit behind a number is -/
def unitOf (t : Raw) : Nat :=
  let t := t.dropWhile fun c => c = ' ' || c = '\t'
  let t := t.dropWhile fun c => c = '-'
  let t := t.dropWhile fun c => c.isDigit || c = '.'
  match t with
  | 'k' :: _ => 1
  | c :: _ => (((" KMGTPEZYRQ".toList.zip (List.range 11)).find? (·.1 = c)).map (·.2)).getD 0
  | [] => 0

/-- two sizes with units -/
def compareSizes (a b : Raw) : Ordering :=
  let (m, x) := numberAt a
  let (n, y) := numberAt b
  let zero (x : Raw × Raw) : Bool := x.1.isEmpty && x.2.isEmpty
  let order (p q : Raw × Raw) (s t : Raw) : Ordering :=
    if zero p ∨ zero q then compareMagnitudes p q
    else (compare (unitOf s) (unitOf t)).then (compareMagnitudes p q)
  match m, n with
  | false, false => order x y a b
  | true, true => order y x b a
  | true, false => .lt
  | false, true => .gt

/-- a month by the first letters of its name, zero when there is none -/
def monthOf (t : Raw) : Nat :=
  let t := ((t.dropWhile Raw.isSpace).take 3).map Char.toUpper
  let names : List Raw := ["JAN", "FEB", "MAR", "APR", "MAY", "JUN", "JUL", "AUG", "SEP", "OCT", "NOV", "DEC"]
  (names.findIdx? (· = t)).elim 0 (· + 1)

/-- the place of a character in the order of versions: a tilde is in front of everything, letters of signs -/
def versionRank (c : Option Char) : Int :=
  match c with
  | none => 0
  | some c => if c.isDigit then 0 else if c.isAlpha then c.toNat else if c = '~' then -1 else c.toNat + 256

/-- two names of versions: parts without digits by their characters, and numbers by their values -/
def compareVersions : (fuel : Nat) → Raw → Raw → Ordering
  | 0, _, _ => .eq
  | fuel + 1, a, b =>
    if a = [] ∧ b = [] then .eq
    else
      let x := a.takeWhile (!Char.isDigit ·)
      let y := b.takeWhile (!Char.isDigit ·)
      let n := max x.length y.length
      let texts := (List.range n).foldl (fun (o : Ordering) k =>
        o.then (compare (versionRank x[k]?) (versionRank y[k]?))) .eq
      let a := a.drop x.length
      let b := b.drop y.length
      let m := a.takeWhile Char.isDigit
      let n := b.takeWhile Char.isDigit
      (texts.then (compare (Raw.toNat m) (Raw.toNat n))).then
        (compareVersions fuel (a.drop m.length) (b.drop n.length))

/-! ## Sorting -/

/-- how two keys are compared -/
structure KeyStyle where
  numeric : Bool := false
  general : Bool := false
  human : Bool := false
  month : Bool := false
  version : Bool := false
  fold : Bool := false
  dictionary : Bool := false
  printing : Bool := false
  blanksFirst : Bool := false
  blanksLast : Bool := false
  reverse : Bool := false
  deriving DecidableEq, Repr

namespace KeyStyle

def withLetter (s : KeyStyle) (c : Char) (behind : Bool) : Option KeyStyle :=
  match c with
  | 'n' => some { s with numeric := true }
  | 'g' => some { s with general := true }
  | 'h' => some { s with human := true }
  | 'M' => some { s with month := true }
  | 'V' => some { s with version := true }
  | 'f' => some { s with fold := true }
  | 'd' => some { s with dictionary := true }
  | 'i' => some { s with printing := true }
  | 'b' => some (if behind then { s with blanksLast := true } else { s with blanksFirst := true })
  | 'r' => some { s with reverse := true }
  | _ => none

def order (s : KeyStyle) (a b : Raw) : Ordering :=
  let clean (t : Raw) : Raw :=
    let t := if s.dictionary then t.filter fun c => c.isAlphanum || c = ' ' || c = '\t' else t
    let t := if s.printing then t.filter fun c => ' ' ≤ c && c ≤ '~' else t
    if s.fold then t.map Char.toUpper else t
  let float (t : Raw) : Float :=
    ((floatPrefix (t.dropWhile Raw.isSpace)).map (·.1)).getD (0.0 / 0.0)
  let o :=
    if s.numeric then compareNumbers a b
    else if s.general then
      let x := float a
      let y := float b
      match x.isNaN, y.isNaN with
      | true, true => .eq
      | true, false => .lt
      | false, true => .gt
      | false, false => if x < y then .lt else if y < x then .gt else .eq
    else if s.human then compareSizes a b
    else if s.month then compare (monthOf a) (monthOf b)
    else if s.version then compareVersions (a.length + b.length + 1) a b
    else compareRaw (clean a) (clean b)
  if s.reverse then o.swap else o

end KeyStyle

/-- a part of a line as a key: fields and characters count from one; an end at character zero is that of the field -/
structure Key where
  field : Nat := 1
  char : Nat := 1
  lastField : Option Nat := none
  lastChar : Nat := 0
  style : KeyStyle := {}
  /-- the key has a style of its own -/
  styled : Bool := false
  deriving DecidableEq, Repr

namespace Key

def letters (behind : Bool) (s : KeyStyle) (r : Raw) : KeyStyle × Raw :=
  match r with
  | [] => (s, [])
  | c :: r' =>
    match s.withLetter c behind with
    | some s => letters behind s r'
    | none => (s, r)

/-- a position: a field, perhaps a character, and what is behind them -/
def position (r : Raw) : Nat × Option Nat × Raw :=
  let f := r.takeWhile Char.isDigit
  match r.drop f.length with
  | '.' :: r =>
    let c := r.takeWhile Char.isDigit
    (Raw.toNat f, some (Raw.toNat c), r.drop c.length)
  | r => (Raw.toNat f, none, r)

def read (t : Raw) : Except Raw Key :=
  if (t.head?.map Char.isDigit).getD false = false then
    .error ("invalid number at field start: invalid count at start of " ++ quote t)
  else
    let (field, char, r) := position t
    if field = 0 then .error ("field number is zero: invalid field specification " ++ quote t)
    else if char = some 0 then .error ("character offset is zero: invalid field specification " ++ quote t)
    else
      let (style, r') := letters false {} r
      let k : Key := { field, char := char.getD 1, style, styled := r'.length < r.length }
      match r' with
      | [] => .ok k
      | ',' :: r =>
        if (r.head?.map Char.isDigit).getD false = false then
          .error ("invalid number after ',': invalid count at start of " ++ quote r)
        else
          let (field, char, r) := position r
          if field = 0 then .error ("field number is zero: invalid field specification " ++ quote t)
          else
            let (style, r') := letters true k.style r
            if r' = [] then
              .ok { k with lastField := some field, lastChar := char.getD 0, style, styled := k.styled || r ≠ [] }
            else .error ("stray character in field spec: invalid field specification " ++ quote t)
      | _ => .error ("stray character in field spec: invalid field specification " ++ quote t)

def behindFields (mark : Option Char) (inclusive : Bool) : (n : Nat) → Raw → Raw
  | 0, r => r
  | n + 1, r =>
    match mark with
    | some m =>
      let r := r.dropWhile (· ≠ m)
      if n = 0 ∧ inclusive then r else behindFields mark inclusive n r.tail
    | none =>
      let isBlank (c : Char) : Bool := c = ' ' || c = '\t' || c = '\n'
      behindFields mark inclusive n ((r.dropWhile isBlank).dropWhile (!isBlank ·))

def of (k : Key) (mark : Option Char) (line : Raw) : Raw :=
  let isBlank (c : Char) : Bool := c = ' ' || c = '\t'
  let start := behindFields mark false (k.field - 1) line
  let start := if k.style.blanksFirst then start.dropWhile isBlank else start
  let start := start.drop (k.char - 1)
  match k.lastField with
  | none => start
  | some f =>
    let behind :=
      if k.lastChar = 0 then behindFields mark true f line
      else
        let r := behindFields mark false (f - 1) line
        let r := if k.style.blanksLast then r.dropWhile isBlank else r
        r.drop k.lastChar
    start.take (start.length - behind.length)

end Key

structure Sorting where
  keys : List Key := []
  style : KeyStyle := {}
  mark : Option Char := none
  stable : Bool := false
  unique : Bool := false

namespace Sorting

def keysOf (s : Sorting) (line : Raw) : List Raw :=
  if s.keys = [] then
    [if s.style.blanksFirst then line.dropWhile fun c => c = ' ' || c = '\t' else line]
  else s.keys.map fun k => k.of s.mark line

def orderKeys (s : Sorting) (a b : List Raw) : Ordering :=
  let styles := if s.keys = [] then [s.style] else s.keys.map (·.style)
  ((styles.zip (a.zip b)).foldl (fun (o : Ordering) p => o.then (p.1.order p.2.1 p.2.2)) .eq)

/-- two lines with their keys; lines with equal keys are compared as a whole -/
def order (s : Sorting) (a b : List Raw × Raw) : Ordering :=
  let o := s.orderKeys a.1 b.1
  if s.stable ∨ s.unique ∨ (s.keys = [] ∧ s.style = {}) then o
  else
    let last := compareRaw a.2 b.2
    o.then (if s.style.reverse then last.swap else last)

/-- the first of lines with equal keys -/
def distinct (s : Sorting) (ls : List (List Raw × Raw)) : List (List Raw × Raw) :=
  (ls.foldl (fun (acc : List (List Raw × Raw)) l =>
    match acc.head? with
    | some m => if s.orderKeys m.1 l.1 = .eq then acc else l :: acc
    | none => [l]) []).reverse

def sorted (s : Sorting) (lines : List Raw) : List Raw :=
  let keyed := lines.map fun l => (s.keysOf l, l)
  let ordered := keyed.mergeSort fun a b => s.order a b ≠ .gt
  ((if s.unique then s.distinct ordered else ordered)).map (·.2)

/-- lists that are in order already, brought together -/
def mergedFiles (s : Sorting) (files : List (List Raw)) : List Raw :=
  let keyed := files.map fun ls => ls.map fun l => (s.keysOf l, l)
  let all := keyed.foldl (fun acc ls => List.merge acc ls fun a b => s.order a b ≠ .gt) []
  (if s.unique then s.distinct all else all).map (·.2)

/-- the first line that is not in order, with its number -/
def disorder? (s : Sorting) (lines : List Raw) : Option (Nat × Raw) :=
  let keyed := lines.map fun l => (s.keysOf l, l)
  let pairs := (List.range keyed.length).zip (keyed.zip keyed.tail)
  (pairs.find? fun p =>
    let o := s.order p.2.1 p.2.2
    o = .gt || (s.unique && o = .eq)).map fun p => (p.1 + 2, p.2.2.2)

end Sorting

def sort (c : Call) : Answer :=
  let flags := ("bdfghiMnrV".toList).map fun l => ({ letter := l } : Option_)
  let known := flags ++
    [option 'n' "numeric-sort", option 'r' "reverse", option 'f' "ignore-case", option 'b' "ignore-leading-blanks",
     option 'g' "general-numeric-sort", option 'h' "human-numeric-sort", option 'V' "version-sort",
     option 'd' "dictionary-order", option 'M' "month-sort", option 'u' "unique", option 's' "stable",
     option 'c' "check", option 'C' [], option 'm' "merge", option 'z' "zero-terminated", valuedOption 'k' "key",
     valuedOption 't' "field-separator", valuedOption 'o' "output", valuedOption 'S' "buffer-size",
     valuedOption 'T' "temporary-directory", valuedOption 'p' "parallel"]
  c.parse known 2 fun p =>
    let style := p.given.foldl (fun (s : KeyStyle) g =>
      if ("bdfghiMnrV".toList).contains g.1 then (s.withLetter g.1 false).getD s else s) {}
    let mark : Except Raw (Option Char) :=
      match p.value? 't' with
      | none => .ok none
      | some [] => .error "empty tab"
      | some [x] => .ok (some x)
      | some ['\\', '0'] => .ok (some '\x00')
      | some t => .error ("multi-character tab " ++ quote t)
    match mark, (p.values 'k').mapM Key.read with
    | .error e, _ => c.fail e 2
    | _, .error e => c.fail e 2
    | .ok mark, .ok keys =>
      let keys := keys.map fun k => if k.styled then k else { k with style := { style with blanksLast := style.blanksFirst } }
      let s : Sorting := { keys, style, mark, stable := p.has 's', unique := p.has 'u' }
      let files := if p.operands = [] then [['-']] else p.operands
      let fault := files.findSome? fun f =>
        match c.readInput f with
        | .ok _ => none
        | .error .isDirectory => some ("read failed: " ++ showName f ++ ": Is a directory")
        | .error e => some ("cannot read: " ++ showName f ++ ": " ++ e.words)
      let taken := Call.takenBy p.operands
      match fault with
      | some e => c.fail e 2
      | none =>
        let ending := if p.has 'z' then '\x00' else '\n'
        let linesOf (r : Raw) : List Raw :=
          if p.has 'z' then
            let ls := Text.pieces '\x00' r
            if ls.getLast? = some [] then ls.dropLast else ls
          else Raw.lines r
        if p.has 'c' ∨ p.has 'C' then
          let name := files.headD []
          match s.disorder? (linesOf ((c.readInput name).toOption.getD [])) with
          | none => { taken }
          | some (n, l) =>
            if p.has 'C' then { status := 1, taken }
            else
              { c.fail (showName name ++ ":" ++ Text.ofNat n ++ ": disorder: " ++ l) 1 with taken }
        else
          let (got, _) := c.gather p.operands
          let lines := got.flatMap fun g => linesOf g.2
          let out := (if p.has 'm' then s.mergedFiles (got.map fun g => linesOf g.2) else s.sorted lines).flatMap fun l => l ++ [ending]
          match p.value? 'o' with
          | none => { Answer.print out with taken }
          | some f =>
            match c.tree.write c.here (Raw.toText f) (Raw.toBytes out) false with
            | .ok (t, _) => { tree := some t, taken }
            | .error e => c.fail ("open failed: " ++ showName f ++ ": " ++ e.words) 2

/-! ## Lines that repeat -/

def groups (same : Raw → Raw → Bool) (lines : List Raw) : List (List Raw) :=
  ((lines.foldl (fun (acc : List (List Raw)) l =>
    match acc with
    | (m :: ms) :: r => if same ((m :: ms).getLastD m) l then (l :: m :: ms) :: r else [l] :: (m :: ms) :: r
    | _ => [l] :: acc) []).map List.reverse).reverse

/-- prints one line out of several equal ones -/
def uniq (c : Call) : Answer :=
  let known :=
    [option 'c' "count", option 'd' "repeated", option 'u' "unique", option 'i' "ignore-case", option 'D' "all-repeated",
     valuedOption 'f' "skip-fields", valuedOption 's' "skip-chars", valuedOption 'w' "check-chars",
     option 'z' "zero-terminated"]
  c.parse known 1 fun p =>
    match p.operands with
    | _ :: _ :: x :: _ => c.misused ("extra operand " ++ quote x) 1
    | operands =>
      let file := operands.headD ['-']
      match c.readInput file with
      | .error .isDirectory => c.fail ("error reading " ++ quoteName file ++ ": Is a directory") 1
      | .error e => c.fail (showName file ++ ": " ++ e.words) 1
      | .ok text =>
        let fields := ((p.value? 'f').map Raw.toNat).getD 0
        let chars := ((p.value? 's').map Raw.toNat).getD 0
        let part (l : Raw) : Raw :=
          let l := (Key.behindFields none false fields l).drop chars
          let l := match p.value? 'w' with
            | some w => l.take (Raw.toNat w)
            | none => l
          if p.has 'i' then l.map Char.toLower else l
        let ending := if p.has 'z' then '\x00' else '\n'
        let lines :=
          if p.has 'z' then
            let ls := Text.pieces '\x00' text
            if ls.getLast? = some [] then ls.dropLast else ls
          else Raw.lines text
        let gs := groups (fun a b => part a = part b) lines
        let kept := gs.filter fun g =>
          (!p.has 'd' || 1 < g.length) && (!p.has 'u' || g.length = 1) && (!p.has 'D' || 1 < g.length)
        let shown (g : List Raw) : Raw :=
          if p.has 'D' then g.flatMap (· ++ [ending])
          else
            let count : Raw := if p.has 'c' then Raw.pad 7 false (Text.ofNat g.length) ++ [' '] else []
            count ++ g.headD [] ++ [ending]
        let out := kept.flatMap shown
        let taken := Call.takenBy (operands.take 1)
        match operands with
        | [_, target] =>
          if target = ['-'] then { Answer.print out with taken }
          else
            match c.tree.write c.here (Raw.toText target) (Raw.toBytes out) false with
            | .ok (t, _) => { tree := some t, taken }
            | .error e => c.fail (showName target ++ ": " ++ e.words) 1
        | _ => { Answer.print out with taken }

/-! ## Lines of two files -/

def twoFiles (c : Call) (operands : List Raw) (f : List Raw → List Raw → Answer) : Answer :=
  match operands with
  | [] => c.misused "missing operand" 1
  | [a] => c.misused ("missing operand after " ++ quote a) 1
  | [a, b] =>
    match c.readInput a, c.readInput b with
    | .error e, _ => c.fail (showName a ++ ": " ++ e.words) 1
    | _, .error e => c.fail (showName b ++ ": " ++ e.words) 1
    | .ok x, .ok y => { f (Raw.lines x) (Raw.lines y) with taken := Call.takenBy operands }
  | _ :: _ :: x :: _ => c.misused ("extra operand " ++ quote x) 1

/-- where a line is -/
inductive Side
  | left
  | right
  | both
  deriving DecidableEq, Repr

/-- the lines of two ordered lists, each once -/
def merged : (fuel : Nat) → List Raw → List Raw → List (Side × Raw)
  | 0, _, _ => []
  | _, [], [] => []
  | fuel + 1, a :: as, [] => (.left, a) :: merged fuel as []
  | fuel + 1, [], b :: bs => (.right, b) :: merged fuel [] bs
  | fuel + 1, a :: as, b :: bs =>
    match compareRaw a b with
    | .eq => (.both, a) :: merged fuel as bs
    | .lt => (.left, a) :: merged fuel as (b :: bs)
    | .gt => (.right, b) :: merged fuel (a :: as) bs

/-- the number of the first line that belongs in front of the one before it -/
def firstUnordered? (key : Raw → Raw) (ls : List Raw) : Option Nat :=
  (((List.range ls.length).zip (ls.zip ls.tail)).find? fun p =>
    compareRaw (key p.2.1) (key p.2.2) = .gt).map fun p => p.1 + 1

/-- prints the lines of two files in three columns -/
def comm (c : Call) : Answer :=
  let known :=
    [option '1' [], option '2' [], option '3' [], option 'C' "check-order", option 'N' "nocheck-order",
     valuedOption 'o' "output-delimiter", option 't' "total", option 'z' "zero-terminated"]
  c.parse known 1 fun p =>
    twoFiles c p.operands fun a b =>
      let mark := (p.value? 'o').getD ['\t']
      let ms := merged (a.length + b.length + 1) a b
      let shown (m : Side × Raw) : Raw :=
        let one : Raw := if p.has '1' then [] else mark
        let two : Raw := if p.has '2' then [] else mark
        match m.1 with
        | .left => if p.has '1' then [] else m.2 ++ ['\n']
        | .right => if p.has '2' then [] else one ++ m.2 ++ ['\n']
        | .both => if p.has '3' then [] else one ++ two ++ m.2 ++ ['\n']
      let seen := ms.any fun m => m.1 ≠ .both
      -- where in the common order a line of one file is read
      let reading (side : Side) (ls : List Raw) : Option Nat :=
        (firstUnordered? (fun l => l) ls).map fun n =>
          let own := ((List.range ms.length).zip ms).filter fun q => q.2.1 = side || q.2.1 = .both
          ((own[n - 1]?).map (·.1)).getD 0
      let wrong (n : Char) : Raw := c.name ++ ": file " ++ [n] ++ " is not in sorted order\n"
      let last : Raw := c.name ++ ": input is not in sorted order\n"
      let complaints : Raw :=
        if seen = false ∨ p.has 'N' then []
        else
          match reading .left a, reading .right b with
          | none, none => []
          | some _, none => wrong '1' ++ last
          | none, some _ => wrong '2' ++ last
          | some m, some n => (if m ≤ n then wrong '1' ++ wrong '2' else wrong '2' ++ wrong '1') ++ last
      .buffered complaints (ms.flatMap shown) (if complaints = [] then 0 else 1)

structure Joining where
  first : Nat := 1
  second : Nat := 1
  mark : Option Char := none
  empty : Raw := []
  /-- the fields of a line: zero for the common one, or a file and a field -/
  form : Option (List (Nat × Nat)) := none
  fold : Bool := false

namespace Joining

def fields (j : Joining) (l : Raw) : List Raw :=
  match j.mark with
  | some m => Text.pieces m l
  | none =>
    let isBlank (c : Char) : Bool := c = ' ' || c = '\t'
    (Text.pieces ' ' (l.map fun c => if isBlank c then ' ' else c)).filter (· ≠ [])

def field (fs : List Raw) (n : Nat) : Raw :=
  fs.getD (n - 1) []

def line (j : Joining) (key : Raw) (a b : Option (List Raw)) : Raw :=
  let separator := [j.mark.getD ' ']
  let value (fs : Option (List Raw)) (n : Nat) : Raw :=
    let v := (fs.map fun fs => field fs n).getD []
    if v = [] then j.empty else v
  let others (fs : Option (List Raw)) (n : Nat) : List Raw :=
    ((fs.getD []).take (n - 1) ++ (fs.getD []).drop n).map fun v => if v = [] then j.empty else v
  let parts :=
    match j.form with
    | some items =>
      items.map fun i => if i.1 = 0 then (if key = [] then j.empty else key) else if i.1 = 1 then value a i.2 else value b i.2
    | none => key :: others a j.first ++ others b j.second
  Text.paste separator parts ++ ['\n']

end Joining

def keyGroups (key : List Raw → Raw) (ls : List (List Raw)) : List (Raw × List (List Raw)) :=
  ((ls.foldl (fun (acc : List (Raw × List (List Raw))) l =>
    match acc with
    | (k, g) :: r => if k = key l then (k, l :: g) :: r else (key l, [l]) :: (k, g) :: r
    | [] => [(key l, [l])]) []).map fun p => (p.1, p.2.reverse)).reverse

def matchGroups : (fuel : Nat) → List (Raw × List (List Raw)) → List (Raw × List (List Raw)) →
    List (Raw × List (List Raw) × List (List Raw))
  | 0, _, _ => []
  | _, [], [] => []
  | fuel + 1, (k, g) :: as, [] => (k, g, []) :: matchGroups fuel as []
  | fuel + 1, [], (k, g) :: bs => (k, [], g) :: matchGroups fuel [] bs
  | fuel + 1, (k, g) :: as, (l, h) :: bs =>
    match compareRaw k l with
    | .eq => (k, g, h) :: matchGroups fuel as bs
    | .lt => (k, g, []) :: matchGroups fuel as ((l, h) :: bs)
    | .gt => (l, [], h) :: matchGroups fuel ((k, g) :: as) bs

/-- joins the lines of two files that have a field in common -/
def join (c : Call) : Answer :=
  let known := letters "1:2:j:t:a:v:e:o:i"
  c.parse known 1 fun p =>
    let number (l : Char) : Option Nat := (p.value? l).map Raw.toNat
    let form := (p.value? 'o').map fun t =>
      let items := (Text.pieces ',' (t.map fun x => if x = ' ' then ',' else x)).filter (· ≠ [])
      items.map fun i =>
        match Text.pieces '.' i with
        | [f, n] => (Raw.toNat f, Raw.toNat n)
        | _ => (0, 0)
    let j : Joining :=
      { first := ((number '1').or (number 'j')).getD 1, second := ((number '2').or (number 'j')).getD 1
        mark := (p.value? 't').bind List.head?, empty := (p.value? 'e').getD [], form, fold := p.has 'i' }
    twoFiles c p.operands fun a b =>
      let left := a.map j.fields
      let right := b.map j.fields
      let cased (t : Raw) : Raw := if j.fold then t.map Char.toLower else t
      let ms := matchGroups (left.length + right.length + 1) (keyGroups (fun l => cased (Joining.field l j.first)) left)
        (keyGroups (fun l => cased (Joining.field l j.second)) right)
      let alone (n : Raw) : Bool := (p.values 'a').contains n || (p.values 'v').contains n
      let pairs := !p.has 'v'
      let out := ms.flatMap fun m =>
        match m.2.1, m.2.2 with
        | ls, [] => if alone ['1'] then ls.flatMap fun l => j.line (Joining.field l j.first) (some l) none else []
        | [], rs => if alone ['2'] then rs.flatMap fun r => j.line (Joining.field r j.second) none (some r) else []
        | ls, rs =>
          if pairs then
            ls.flatMap fun l => rs.flatMap fun r => j.line (Joining.field l j.first) (some l) (some r)
          else []
      let names := p.operands
      let unmatched := ms.any fun m => m.2.1.isEmpty || m.2.2.isEmpty
      let wrong (n : Nat) (ls : List Raw) (k : Nat) : Raw :=
        match firstUnordered? (fun l => cased (Joining.field (j.fields l) k)) ls with
        | some i =>
          c.name ++ ": " ++ names.getD n [] ++ ":" ++ Text.ofNat (i + 1) ++ ": is not sorted: " ++ ls.getD i [] ++ ['\n']
        | none => []
      let complaints := if unmatched then wrong 0 a j.first ++ wrong 1 b j.second else []
      let last : Raw := c.name ++ ": input is not in sorted order\n"
      if complaints = [] then .print out else .buffered (complaints ++ last) out 1

end IncludeAudit.Tool
