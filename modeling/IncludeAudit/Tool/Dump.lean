/-
Files shown as numbers: bytes in blocks, each block on a line with its place, in one form or several.

- `Form.fields`: a block in a form, `dumpLines`: all blocks, `od`: the tool.
-/
import IncludeAudit.Tool.Format

namespace IncludeAudit.Tool

namespace Dump

/-- how a piece of a block is shown -/
inductive Style
  | named
  | character
  | signed
  | octal
  | unsigned
  | hex
  | float
  deriving DecidableEq, Repr

/-- a form of output: a style, the bytes of a piece, and whether the characters are shown as well -/
structure Form where
  style : Style
  size : Nat
  trailer : Bool := false
  deriving DecidableEq, Repr

def numberOf (bytes : Raw) : Nat :=
  bytes.foldr (fun c n => n * 256 + c.toNat) 0

def controlNames : List Raw :=
  Raw.words ("nul soh stx etx eot enq ack bel bs ht nl vt ff cr so si dle dc1 dc2 dc3 dc4 nak syn etb can em sub esc " ++
    "fs gs rs us sp")

def nameOf (c : Char) : Raw :=
  let n := c.toNat % 128
  if n = 127 then "del" else (controlNames[n]?).getD [Char.ofNat n]

def characterOf (c : Char) : Raw :=
  let escapes : List (Char × Raw) :=
    [('\x00', "\\0"), ('\x07', "\\a"), ('\x08', "\\b"), ('\x0c', "\\f"), ('\n', "\\n"), ('\r', "\\r"), ('\t', "\\t"),
     ('\x0b', "\\v")]
  match (escapes.find? (·.1 = c)).map (·.2) with
  | some e => e
  | none =>
    if ' ' ≤ c ∧ c ≤ '~' then [c]
    else
      let digits := Nat.toDigits 8 c.toNat
      List.replicate (3 - digits.length) '0' ++ digits

/-- a number in as few digits as tell it apart -/
def shortest (x : Float) (same : Float → Bool) : (tries : Nat) → (digits : Nat) → Raw
  | 0, digits => ({ letter := 'g', precision := some digits } : Directive).showFloat x
  | tries + 1, digits =>
    let t := ({ letter := 'g', precision := some digits } : Directive).showFloat x
    match floatPrefix t with
    | some (y, _) => if same y then t else shortest x same tries (digits + 1)
    | none => t

/-- bytes as a number with a point -/
def floatOf (bytes : Raw) : Raw :=
  if bytes.length = 4 then
    let x := Float32.ofBits (UInt32.ofNat (numberOf bytes))
    let small := x.abs < Float32.ofBits 0x00800000
    shortest x.toFloat (fun y => y.toFloat32 == x) 12 (if small then 1 else 6)
  else
    let x := Float.ofBits (UInt64.ofNat (numberOf bytes))
    let small := x.abs < Float.ofBits 0x0010000000000000
    shortest x (fun y => y == x) 20 (if small then 1 else 15)

namespace Form

/-- how many characters a piece takes -/
def width (f : Form) : Nat :=
  match f.style with
  | .named | .character => 3
  | .octal => (8 * f.size + 2) / 3
  | .hex => 2 * f.size
  | .signed => (Nat.toDigits 10 (Nat.pow 256 f.size / 2)).length + 1
  | .unsigned => (Nat.toDigits 10 (Nat.pow 256 f.size - 1)).length
  | .float => if f.size = 4 then 15 else 24

def piece (f : Form) (highFirst : Bool) (bytes : Raw) : Raw :=
  let bytes := bytes ++ List.replicate (f.size - bytes.length) '\x00'
  let bytes := if highFirst then bytes.reverse else bytes
  let n := numberOf bytes
  let padded (base width : Nat) : Raw :=
    let ds := Nat.toDigits base n
    List.replicate (width - ds.length) '0' ++ ds
  match f.style with
  | .named => nameOf (bytes.headD ' ')
  | .character => characterOf (bytes.headD ' ')
  | .octal => padded 8 f.width
  | .hex => padded 16 f.width
  | .unsigned => Text.ofNat n
  | .signed =>
    let half := Nat.pow 256 f.size / 2
    Text.ofInt (if n < half then n else (n : Int) - (Nat.pow 256 f.size : Nat))
  | .float => floatOf bytes

/-- bytes in pieces -/
def cut (size : Nat) : (fuel : Nat) → Raw → List Raw
  | 0, _ => []
  | _, [] => []
  | fuel + 1, r => r.take size :: cut size fuel (r.drop size)

/-- how many characters the pieces of a whole block take -/
def blockWidth (f : Form) (block : Nat) : Nat :=
  (f.width + 1) * (block / f.size)

/-- the pieces of a block; pieces of several forms stand below one another -/
def fields (f : Form) (highFirst : Bool) (block total : Nat) (bytes : Raw) : Raw :=
  let count := block / f.size
  let pad := total - f.blockWidth block
  let shareAfter (i : Nat) : Nat := pad * (count - i) / count
  let ps := cut f.size (bytes.length + 1) bytes
  let shown := ((List.range ps.length).zip ps).flatMap fun (i, p) =>
    ' ' :: Raw.pad (f.width + (shareAfter i - shareAfter (i + 1))) false (f.piece highFirst p)
  if f.trailer then
    let gap := total - shown.length
    let visible : Raw := bytes.map fun c => if ' ' ≤ c ∧ c ≤ '~' then c else '.'
    shown ++ List.replicate gap ' ' ++ "  >" ++ visible ++ ['<']
  else shown

end Form

/-- how the whole is shown -/
structure Layout where
  forms : List Form
  /-- the base of places, and how many digits they have; none for no places -/
  radix : Option (Nat × Nat) := some (8, 7)
  block : Nat := 16
  /-- lines that are the same are shown as well -/
  verbose : Bool := false
  /-- the high byte of a piece comes first -/
  highFirst : Bool := false
  deriving DecidableEq, Repr

namespace Layout

def place (l : Layout) (n : Nat) : Raw :=
  match l.radix with
  | none => []
  | some (base, digits) =>
    let ds := Nat.toDigits base n
    List.replicate (digits - ds.length) '0' ++ ds

def lines (l : Layout) (n : Nat) (bytes : Raw) : Raw :=
  let total := (l.forms.map fun f => f.blockWidth l.block).foldl max 0
  ((List.range l.forms.length).zip l.forms).flatMap fun (i, f) =>
    let p := l.place n
    (if i = 0 then p else List.replicate p.length ' ') ++ f.fields l.highFirst l.block total bytes ++ ['\n']

/-- all blocks from a place on; a block that is the same as the one before is left out -/
def dump (l : Layout) : (fuel : Nat) → (place : Nat) → Raw → (before : Option Raw) → (starred : Bool) → List Raw → List Raw
  | 0, _, _, _, _, out => out
  | fuel + 1, n, r, before, starred, out =>
    let ended : List Raw := if l.radix.isSome then (l.place n ++ ['\n']) :: out else out
    let b := r.take l.block
    match b with
    | [] => ended
    | _ =>
      let rest := r.drop l.block
      if !l.verbose ∧ before = some b ∧ b.length = l.block then
        dump l fuel (n + b.length) rest before true (if starred then out else ['*', '\n'] :: out)
      else dump l fuel (n + b.length) rest (some b) false (l.lines n b :: out)

/-- runs of visible characters that a zero byte ends, at least so long, with their places -/
def texts (l : Layout) (least : Nat) : (place : Nat) → Raw → (run : Raw) → List Raw
  | _, [], _ => []
  | n, c :: r, run =>
    if ' ' ≤ c ∧ c ≤ '~' then texts l least (n + 1) r (c :: run)
    else if c = '\x00' ∧ least ≤ run.length then
      let place := l.place (n - run.length)
      (place ++ (if place = [] then [] else [' ']) ++ run.reverse ++ ['\n']) :: texts l least (n + 1) r []
    else texts l least (n + 1) r []

end Layout

/-! ## Arguments -/

/-- the size that follows the letter of a type -/
def readSize (float : Bool) (r : Raw) : Except Raw (Nat × Raw) :=
  match r with
  | 'C' :: r => if float then .ok (8, 'C' :: r) else .ok (1, r)
  | 'S' :: r => if float then .ok (8, 'S' :: r) else .ok (2, r)
  | 'I' :: r => if float then .ok (8, 'I' :: r) else .ok (4, r)
  | 'F' :: r => if float then .ok (4, r) else .ok (4, 'F' :: r)
  | 'D' :: r => if float then .ok (8, r) else .ok (4, 'D' :: r)
  | 'L' :: r => .ok (8, r)
  | r =>
    let ds := r.takeWhile Char.isDigit
    let behind := r.drop ds.length
    if ds = [] then .ok (if float then 8 else 4, r)
    else
      let n := Raw.toNat ds
      let allowed : List Nat := if float then [4, 8] else [1, 2, 4, 8]
      if n ∈ allowed then .ok (n, behind) else .error (Text.ofNat n)

/-- the forms that a text names -/
def readForms (whole : Raw) : (fuel : Nat) → Raw → Except Raw (List Form)
  | 0, _ => .ok []
  | _, [] => .ok []
  | fuel + 1, c :: r => do
    let sized (style : Style) (kind : Raw) : Except Raw (Form × Raw) :=
      match readSize (style = .float) r with
      | .ok (size, r) => .ok ({ style, size }, r)
      | .error n =>
        .error ("invalid type string " ++ quote whole ++ ";\nthis system doesn't provide a " ++ n ++ "-byte " ++ kind ++ " type")
    let (f, r) ← (match c with
      | 'a' => .ok ({ style := .named, size := 1 }, r)
      | 'c' => .ok ({ style := .character, size := 1 }, r)
      | 'd' => sized .signed "integral"
      | 'o' => sized .octal "integral"
      | 'u' => sized .unsigned "integral"
      | 'x' => sized .hex "integral"
      | 'f' => sized .float "floating point"
      | c => .error ("invalid character '" ++ c :: "' in type string " ++ quote whole) : Except Raw (Form × Raw))
    match r with
    | 'z' :: r =>
      let fs ← readForms whole fuel r
      return { f with trailer := true } :: fs
    | r =>
      let fs ← readForms whole fuel r
      return f :: fs

/-- options that stand for forms -/
def shortForms : List (Char × Raw) :=
  [('a', "a"), ('b', "o1"), ('c', "c"), ('d', "u2"), ('f', "fF"), ('i', "dI"), ('l', "dL"), ('o', "o2"), ('s', "d2"),
   ('x', "x2"), ('h', "x2"), ('e', "fD"), ('B', "o2"), ('D', "u4"), ('F', "fD"), ('H', "x4"), ('I', "dL"), ('L', "dL"),
   ('O', "o4"), ('X', "x4")]

/-- a number of bytes: with a base, and with a letter for its unit -/
def readCount (t : Raw) : Option Nat :=
  let hex : Raw := "0x"
  if hex.isPrefixOf t ∧ 2 < t.length ∧ (t.drop 2).all fun c => (Shell.Sum.digit? c).any (· < 16) then
    some ((t.drop 2).foldl (fun n c => n * 16 + (Shell.Sum.digit? c).getD 0) 0)
  else if t.head? = some '0' ∧ t.all fun c => '0' ≤ c && c ≤ '7' then
    some (t.foldl (fun n c => n * 8 + (c.toNat - 48)) 0)
  else size? t

def known : List Option_ :=
  (shortForms.map fun f => { letter := f.1 }) ++
    [valuedOption 'A' "address-radix", valuedOption 'j' "skip-bytes", valuedOption 'N' "read-bytes",
     valuedOption 'S' "strings", valuedOption 't' "format", option 'v' "output-duplicates",
     { letter := 'w', long := "width", attached := true }, valuedOption '\x01' "endian"]

end Dump

/-- the greatest block that sizes divide, up to a wanted width -/
def blockFor (forms : List Dump.Form) (wanted : Nat) : Nat :=
  let l := forms.foldl (fun n f => Nat.lcm n f.size) 1
  if wanted % l = 0 ∧ wanted ≠ 0 then wanted else if l ≤ wanted then wanted - wanted % l else l

/-- shows files as numbers -/
def od (c : Call) : Answer :=
  c.parse Dump.known 1 fun p =>
    let asked : Raw → Except Raw (List Dump.Form) := fun t => Dump.readForms t (t.length + 1) t
    let forms : Except Raw (List Dump.Form) :=
      (p.given.mapM fun g =>
        if g.1 = 't' then asked g.2
        else
          match (Dump.shortForms.find? (·.1 = g.1)).map (·.2) with
          | some t => asked t
          | none => .ok []).map List.flatten
    let radix : Except Raw (Option (Nat × Nat)) :=
      match p.value? 'A' with
      | none | some ['o'] => .ok (some (8, 7))
      | some ['d'] => .ok (some (10, 7))
      | some ['x'] => .ok (some (16, 6))
      | some ['n'] => .ok none
      | some t =>
        .error ("invalid output address radix '" ++ t ++ "'; it must be one character from [doxn]")
    let count (letter : Char) : Except Raw (Option Nat) :=
      match p.value? letter with
      | none => .ok none
      | some t =>
        match Dump.readCount t with
        | some n => .ok (some n)
        | none =>
          let bad : Raw :=
            if (t.head?.any Char.isDigit) then "invalid suffix in -" ++ letter :: " argument " else "invalid -" ++ letter :: " argument "
          .error (bad ++ '\'' :: t ++ ['\''])
    let width : Except Raw (Option Nat) :=
      match p.value? 'w' with
      | none => .ok none
      | some [] => .ok (some 32)
      | some t =>
        match Dump.readCount t with
        | some n => .ok (some n)
        | none => .error ("invalid -w argument '" ++ t ++ ['\''])
    match forms, radix, count 'j', count 'N', width with
    | .ok forms, .ok radix, .ok skip, .ok most, .ok width =>
      let forms := if forms.isEmpty then [{ style := .octal, size := 2 }] else forms
      let wanted := width.getD 16
      let block := blockFor forms wanted
      let warning : Raw :=
        if block ≠ wanted ∧ width.isSome then
          c.name ++ ": warning: invalid width " ++ Text.ofNat wanted ++ "; using " ++ Text.ofNat block ++ " instead\n"
        else []
      let (texts, complaints) := c.gather p.operands
      let all := texts.flatMap (·.2)
      let skip := skip.getD 0
      if all.length < skip then
        { c.fail "cannot skip past end of combined input" 1 with taken := Call.takenBy p.operands }
      else
        let shown := (all.drop skip).take (most.getD all.length)
        let l : Dump.Layout :=
          { forms, radix, block, verbose := p.has 'v', highFirst := p.value? '\x01' = some "big" }
        let out :=
          if texts.isEmpty then []
          else if p.has 'S' then (l.texts (((p.value? 'S').bind Dump.readCount).getD 3) skip shown []).flatten
          else (l.dump (shown.length + 2) skip shown none false []).reverse.flatten
        { Answer.buffered (warning ++ complaints) out (if complaints = [] then 0 else 1) with
          taken :=
            match most with
            | some n => if Call.takenBy p.operands = .everything then .exactly (min (skip + n) c.input.length) else .nothing
            | none => Call.takenBy p.operands }
    | .error e, _, _, _, _ => c.fail e 1
    | _, .error e, _, _, _ => c.fail e 1
    | _, _, .error e, _, _ => c.fail e 1
    | _, _, _, .error e, _ => c.fail e 1
    | _, _, _, _, .error e => c.fail e 1

end IncludeAudit.Tool
