/-
Output by formats: pieces of text, and directives that show an argument as text or as a number.

- `Format.pieces`: the pieces of a format, `Directive.showInt` and its neighbours: one value as a directive says,
`printf`: a format over and over until no argument is left.
-/
import IncludeAudit.Decimal.Fixed
import IncludeAudit.Shell.Arithmetic
import IncludeAudit.Shell.Quoting
import IncludeAudit.Tool.Basic
import IncludeAudit.Tool.Calendar

namespace IncludeAudit.Tool

structure Directive where
  left : Bool := false
  plus : Bool := false
  blank : Bool := false
  alternate : Bool := false
  zeros : Bool := false
  width : Option Nat := none
  precision : Option Nat := none
  /-- width or precision come from an argument -/
  starWidth : Bool := false
  starPrecision : Bool := false
  letter : Char
  /-- the format of a time inside the directive -/
  inner : Raw := []
  deriving DecidableEq, Repr

/-- the size of a number with a point -/
inductive Amount
  | nan
  | infinite
  | finite (r : Decimal.Ratio)

/-- the size of a double -/
def Amount.ofFloat (x : Float) : Amount :=
  if x.isNaN then .nan else if x.isInf then .infinite else .finite (Decimal.magnitudeOf x)

namespace Directive

def fill (d : Directive) (mayZero : Bool) (sign body : Raw) : Raw :=
  let gap := d.width.getD 0 - (sign.length + body.length)
  if d.left then sign ++ body ++ List.replicate gap ' '
  else if d.zeros ∧ mayZero then sign ++ List.replicate gap '0' ++ body
  else List.replicate gap ' ' ++ sign ++ body

def showText (d : Directive) (t : Raw) : Raw :=
  d.fill false [] (t.take (d.precision.getD t.length))

def sign (d : Directive) (negative : Bool) : Raw :=
  if negative then ['-'] else if d.plus then ['+'] else if d.blank then [' '] else []

/-- an integer in base ten -/
def showInt (d : Directive) (n : Int) : Raw :=
  let digits := if d.precision = some 0 ∧ n = 0 then [] else Decimal.padded (d.precision.getD 1) n.natAbs
  d.fill d.precision.isNone (d.sign (n < 0)) digits

/-- a natural number in the base of the directive -/
def showNat (d : Directive) (n : Nat) : Raw :=
  let base := if d.letter = 'o' then 8 else if d.letter = 'u' then 10 else 16
  let digits := Nat.toDigits base n
  let digits := if d.letter = 'X' then digits.map Char.toUpper else digits
  let digits := if d.precision = some 0 ∧ n = 0 then [] else digits
  let digits := List.replicate (d.precision.getD 1 - digits.length) '0' ++ digits
  let digits := if d.alternate ∧ d.letter = 'o' ∧ digits.head? ≠ some '0' then '0' :: digits else digits
  let front : Raw := if d.alternate ∧ n ≠ 0 ∧ base = 16 then ['0', d.letter] else []
  d.fill d.precision.isNone front digits

/-- a number with a point, whose significand has so many bits -/
def showAmount (d : Directive) (bits : Nat) (negative : Bool) (a : Amount) : Raw :=
  let upper := d.letter.isUpper
  let cased (t : Raw) : Raw := if upper then t.map Char.toUpper else t
  match a with
  | .nan => d.fill false (d.sign negative) (cased "nan")
  | .infinite => d.fill false (d.sign negative) (cased "inf")
  | .finite r =>
    let mark := if upper then 'E' else 'e'
    let places := d.precision.getD 6
    let body :=
      match d.letter.toLower with
      | 'f' => Decimal.fixedRatio r places
      | 'e' => Decimal.scientificRatio r places mark
      | 'a' => cased (Decimal.hexadecimal r bits (if bits = 64 then 4 else 1) d.precision)
      | _ => Decimal.generalRatio r places mark d.alternate
    d.fill true (d.sign negative) body

/-- a double -/
def showFloat (d : Directive) (x : Float) : Raw :=
  d.showAmount 53 (x.toBits.toNat ≥ 0x8000000000000000) (Amount.ofFloat x)

end Directive

inductive Piece
  | text (r : Raw)
  | directive (d : Directive)
  /-- a directive with a letter that means nothing, as it is spelled -/
  | unknown (r : Raw)
  /-- a percent sign that no letter follows, as it is spelled -/
  | dangling (r : Raw)
  /-- a complaint about an escape, and whether output goes on -/
  | fault (message : Raw) (goesOn : Bool)
  /-- a complaint about the form of a time, which has this character behind it -/
  | odd (c : Raw)
  /-- no more output at all -/
  | stop
  deriving DecidableEq, Repr

/-! ## Escapes -/

/-- which complaints a tool makes -/
inductive Manner
  /-- as part of a shell -/
  | builtIn
  | free
  /-- as part of a shell with the wider language -/
  | wide
  deriving DecidableEq, Repr

/-- how escapes are read: the tools differ in a few of them -/
structure Escapes where
  /-- octal numbers do not need a zero in front -/
  bareOctal : Bool := true
  /-- a zero in front of an octal number does not count among its three digits -/
  longOctal : Bool := false
  /-- hexadecimal numbers and the escape character -/
  hex : Bool := false
  /-- `\c` ends all output -/
  stops : Bool := false
  /-- a backslash in front of a double quote goes -/
  quotes : Bool := false
  /-- the same in front of a quote and a question mark -/
  marks : Bool := false
  /-- characters by their numbers, and whether they are written in UTF-8 -/
  points : Option Bool := none
  /-- who complains about numbers that are missing -/
  teller : Option Manner := none
  deriving DecidableEq, Repr

/-- the character that a letter behind a backslash stands for -/
def simpleEscape? : Char → Option Char
  | 'a' => some '\x07'
  | 'b' => some '\x08'
  | 'f' => some '\x0c'
  | 'n' => some '\n'
  | 'r' => some '\r'
  | 't' => some '\t'
  | 'v' => some '\x0b'
  | '\\' => some '\\'
  | _ => none

/-- a character by the low eight bits of its number -/
def byte (n : Nat) : Char :=
  Char.ofNat (n % 256)

inductive Escaped
  | text (t rest : Raw)
  /-- no more output at all -/
  | stop
  /-- a complaint; with `goesOn` the backslash stands for itself -/
  | fault (message : Raw) (goesOn : Bool) (rest : Raw)

def numberOf (base : Nat) (digits : Raw) : Nat :=
  digits.foldl (fun n d => n * base + (Shell.Sum.digit? d).getD 0) 0

/-- numbers that stand for no character of their own: control characters, plain letters and halves of pairs -/
def isReserved (n : Nat) : Bool :=
  (n ≤ 0x9f && n ≠ 0x24 && n ≠ 0x40 && n ≠ 0x60) || (0xd800 ≤ n && n ≤ 0xdfff)

/-- what an escape behind a backslash stands for -/
def escape (e : Escapes) (r : Raw) : Escaped :=
  match r with
  | [] => .text ['\\'] []
  | c :: r' =>
    let itself : Escaped := .text ['\\', c] r'
    if e.stops ∧ c = 'c' then .stop
    else
      match simpleEscape? c with
      | some d => .text [d] r'
      | none =>
        if e.longOctal ∧ c = '0' then
          let ds := (Shell.Sum.digits 8 r').take 3
          .text [byte (numberOf 8 ds)] (r'.drop ds.length)
        else if e.bareOctal ∧ c.isDigit ∧ c < '8' then
          let ds := (Shell.Sum.digits 8 r).take 3
          .text [byte (numberOf 8 ds)] (r.drop ds.length)
        else if e.hex ∧ c = 'x' then
          let ds := (Shell.Sum.digits 16 r').take 2
          if ds ≠ [] then .text [byte (numberOf 16 ds)] (r'.drop ds.length)
          else
            match e.teller with
            | some .wide => .fault "missing hex digit for \\x" true r
            | some _ => .fault "missing hexadecimal number in escape" false r
            | none => itself
        else if (c = 'u' ∨ c = 'U') ∧ e.points.isSome then
          let most := if c = 'u' then 4 else 8
          let ds := (Shell.Sum.digits 16 r').take most
          let n := numberOf 16 ds
          let digits := if n < 0x10000 then 4 else 8
          match e.teller with
          | some .free =>
            if ds.length < most then .fault "missing hexadecimal number in escape" false r
            else if isReserved n then
              .fault ("invalid universal character name \\" ++ c :: List.replicate (most - (Nat.toDigits 16 n).length) '0' ++
                Nat.toDigits 16 n) false r
            else .text (Shell.Quoting.codePoint (e.points = some true) digits n) (r'.drop ds.length)
          | teller =>
            if ds ≠ [] then .text (Shell.Quoting.codePoint (e.points = some true) digits n) (r'.drop ds.length)
            else if teller.isSome then .fault ("missing unicode digit for \\" ++ [c]) true r
            else itself
        else if c = 'e' ∨ (c = 'E' ∧ e.points.isSome ∧ e.teller ≠ some .free) then .text ['\x1b'] r'
        else if (e.quotes ∧ c = '"') ∨ (e.marks ∧ (c = '\'' ∨ c = '?')) then .text [c] r'
        else itself

/-- a text with its escapes, whether output ends there, and complaints -/
def unescape (e : Escapes) : (fuel : Nat) → Raw → Raw × Bool × List Raw
  | 0, r => (r, false, [])
  | _, [] => ([], false, [])
  | fuel + 1, c :: r =>
    if c = '\\' then
      match escape e r with
      | .stop => ([], true, [])
      | .fault m false _ => ([], true, [m])
      | .fault m true r =>
        let (more, stop, faults) := unescape e fuel r
        ('\\' :: more, stop, m :: faults)
      | .text t r =>
        let (more, stop, faults) := unescape e fuel r
        (t ++ more, stop, faults)
    else
      let (more, stop, faults) := unescape e fuel r
      (c :: more, stop, faults)

namespace Format

/-- a piece in front of others; texts run together -/
def cons : Piece → List Piece → List Piece
  | .text t, .text t' :: r => .text (t ++ t') :: r
  | p, r => p :: r

/-- the flags, the width and the precision of a directive, and what is behind them -/
def head (quotes : Bool) (r : Raw) : Directive × Raw :=
  let flags := r.takeWhile fun c => c ∈ ("-+ #0" : Raw) || (quotes && c = '\'')
  let r := r.drop flags.length
  let d : Directive :=
    { left := '-' ∈ flags, plus := '+' ∈ flags, blank := ' ' ∈ flags, alternate := '#' ∈ flags, zeros := '0' ∈ flags
      letter := ' ' }
  let (d, r) : Directive × Raw :=
    match r with
    | '*' :: r => ({ d with starWidth := true }, r)
    | r =>
      let ds := r.takeWhile Char.isDigit
      ({ d with width := Raw.nat? ds }, r.drop ds.length)
  match r with
  | '.' :: '*' :: r => ({ d with starPrecision := true }, r)
  | '.' :: r =>
    let ds := r.takeWhile Char.isDigit
    ({ d with precision := some (Raw.toNat ds) }, r.drop ds.length)
  | r => (d, r)

/-- a text up to the bracket that closes it, and what is behind that; brackets may stand inside one another -/
def enclosed : (fuel : Nat) → (depth : Nat) → Raw → Raw × Raw
  | 0, _, _ => ([], [])
  | _, _, [] => ([], [])
  | fuel + 1, depth, c :: r =>
    if c = ')' ∧ depth ≤ 1 then ([], r)
    else
      let (inner, behind) := enclosed fuel (if c = '(' then depth + 1 else if c = ')' then depth - 1 else depth) r
      (c :: inner, behind)

/-- the pieces of a format; `known` are the letters of directives, and `skipped` letters of sizes that mean nothing -/
def pieces (e : Option Escapes) (known skipped : Raw) : (fuel : Nat) → Raw → List Piece
  | 0, _ => []
  | _, [] => []
  | fuel + 1, c :: r =>
    if c = '%' then
      match r with
      | '%' :: r => cons (.text ['%']) (pieces e known skipped fuel r)
      | r =>
        let (d, behind) := head ((e.bind (·.teller)).isSome) r
        let time? : Option (Raw × Raw) :=
          match behind with
          | '(' :: more => if 'T' ∈ known then some (enclosed (more.length + 1) 1 more) else none
          | _ => none
        match time? with
        | some (inner, 'T' :: behind) => .directive { d with inner, letter := 'T' } :: pieces e known skipped fuel behind
        | some (_, behind) => .odd (behind.take 1) :: cons (.text ['%']) (pieces e known skipped fuel r)
        | none =>
          match behind.dropWhile (· ∈ skipped) with
          | [] => [.dangling ('%' :: r)]
          | l :: behind' =>
            if l ∈ known then .directive { d with letter := l } :: pieces e known skipped fuel behind'
            else .unknown ('%' :: r.take (r.length - behind'.length)) :: pieces e known skipped fuel behind'
    else if c = '\\' then
      match e with
      | none => cons (.text [c]) (pieces e known skipped fuel r)
      | some e' =>
        match escape e' r with
        | .stop => [.stop]
        | .fault m goesOn r =>
          .fault m goesOn :: if goesOn then cons (.text ['\\']) (pieces e known skipped fuel r) else []
        | .text t r => cons (.text t) (pieces e known skipped fuel r)
    else cons (.text [c]) (pieces e known skipped fuel r)

end Format

/-! ## Numbers as arguments -/

/-- a decimal numeral at the start of a text as digits and a power of ten, and what is behind it -/
def decimalNumeral (r : Raw) : Option (Nat × Int × Raw) :=
  let whole := r.takeWhile Char.isDigit
  let r := r.drop whole.length
  let (part, r') : Raw × Raw :=
    match r with
    | '.' :: r' =>
      let part := r'.takeWhile Char.isDigit
      (part, r'.drop part.length)
    | _ => ([], r)
  if whole = [] ∧ part = [] then none
  else
    let n := Raw.toNat (whole ++ part)
    let power (negative : Bool) (r : Raw) : Option (Int × Raw) :=
      let ds := r.takeWhile Char.isDigit
      if ds = [] then none else some (if negative then -(Raw.toNat ds : Int) else Raw.toNat ds, r.drop ds.length)
    let exponent : Option (Int × Raw) :=
      match r' with
      | 'e' :: '-' :: r | 'E' :: '-' :: r => power true r
      | 'e' :: '+' :: r | 'E' :: '+' :: r => power false r
      | 'e' :: r | 'E' :: r => power false r
      | _ => none
    let (e, r'') := exponent.getD (0, r')
    some (n, e - part.length, r'')

/-- the double nearest to `n * 10 ^ e` -/
def toFloat (n : Nat) (e : Int) : Float :=
  if n = 0 then 0.0
  else if e < -400 - (Nat.toDigits 10 n).length then 0.0
  else if 400 < e then 1.0 / 0.0
  else if e < 0 then Float.ofScientific n true e.natAbs else Float.ofScientific n false e.toNat

/-- a number with a point as it is spelled -/
inductive Numeral
  | nan
  | infinite
  /-- `n * 10 ^ e` -/
  | decimal (n : Nat) (e : Int)
  deriving DecidableEq, Repr

/-- the sign and the numeral at the start of a text, and what is behind them -/
def numeralPrefix (r : Raw) : Option (Bool × Numeral × Raw) :=
  let r := r.dropWhile Raw.isSpace
  let (negative, r) : Bool × Raw :=
    match r with
    | '-' :: r => (true, r)
    | '+' :: r => (false, r)
    | r => (false, r)
  let low := (r.take 3).map Char.toLower
  if low = "inf" then
    some (negative, .infinite, r.drop (if (r.take 8).map Char.toLower = "infinity" then 8 else 3))
  else if low = "nan" then some (negative, .nan, r.drop 3)
  else
    let plain := (decimalNumeral r).map fun (n, e, behind) => (negative, .decimal n e, behind)
    match r with
    | '0' :: x :: r' =>
      if (x = 'x' ∨ x = 'X') ∧ Shell.Sum.digits 16 r' ≠ [] then
        let (n, behind) := Shell.Sum.numeral r
        some (negative, .decimal n.natAbs 0, behind)
      else plain
    | _ => plain

/-- the nearest double -/
def Numeral.toFloat : Numeral → Float
  | nan => 0.0 / 0.0
  | infinite => 1.0 / 0.0
  | decimal n e => Tool.toFloat n e

/-- the size of the nearest number with so many bits -/
def Numeral.amount (bits : Nat) (m : Numeral) : Amount :=
  if bits = 53 then Amount.ofFloat m.toFloat
  else
    match m with
    | .nan => .nan
    | .infinite => .infinite
    | .decimal n e =>
      let size : Int := e + (Nat.toDigits 10 n).length
      if n = 0 ∨ size < -4950 then .finite ⟨0, 1⟩
      else if 4932 < size then .infinite
      else .finite ((Decimal.Ratio.ofDecimal n e).rounding bits)

/-- the number at the start of a text, and what is behind it -/
def floatPrefix (r : Raw) : Option (Float × Raw) :=
  (numeralPrefix r).map fun (negative, n, behind) => (if negative then -n.toFloat else n.toFloat, behind)

/-! ## The tool -/

/-- the output of a format so far -/
structure Written where
  output : Raw := []
  errors : Raw := []
  status : Nat := 0
  rest : List Raw
  /-- no more output -/
  stopped : Bool := false
  /-- a directive has asked for an argument -/
  asked : Bool := false

namespace Written

def next (w : Written) : Raw × Written :=
  (w.rest.headD [], { w with rest := w.rest.tail, asked := true })

/-- a complaint that does not end the output -/
def complain (w : Written) (lead message : Raw) : Written :=
  { w with errors := w.errors ++ lead ++ message ++ ['\n'], status := 1 }

end Written

/-- what is said of an argument that is no number -/
def numberFault (m : Manner) (arg : Raw) (started : Bool) : Raw :=
  match m, started with
  | .builtIn, false => arg ++ ": expected numeric value"
  | .builtIn, true => arg ++ ": not completely converted"
  | .wide, _ =>
    let isOctal := arg.head? = some '0' && (arg.drop 1).head?.any Char.isDigit
    let isHex := arg.head? = some '0' && (arg.drop 1).head? = some 'x'
    arg ++ if isHex then ": invalid hex number" else if isOctal then ": invalid octal number" else ": invalid number"
  | .free, false => quote arg ++ ": expected a numeric value"
  | .free, true => quote arg ++ ": value not completely converted"

/-- the number of the character behind a quote; more than one character may be worth a warning -/
def quotedArgument? (m : Manner) (wide : Bool) (lead : Raw) (arg : Raw) (w : Written) : Option (Nat × Written) :=
  match arg with
  | [] => none
  | c :: r =>
    if (c = '\'' ∨ c = '"') ∧ (r ≠ [] ∨ m ≠ .free) then
      let (first, rest) : Nat × Raw :=
        match r with
        | [] => (0, [])
        | a :: rest =>
          match (if wide ∧ m ≠ .builtIn then Raw.characterAt? r else none) with
          | some (d, n) => (d.toNat, r.drop n)
          | none => (a.toNat, rest)
      let told : Raw := lead ++ "warning: " ++ rest ++ ": character(s) following character constant have been ignored\n"
      some (first, if m = .free ∧ rest ≠ [] then { w with errors := w.errors ++ told } else w)
    else none

/-- the integer that an argument spells; a quote stands in front of a character -/
def integerArgument (m : Manner) (wide : Bool) (lead : Raw) (unsigned : Bool) (arg : Raw) (w : Written) : Int × Written :=
  match arg with
  | [] => (0, w)
  | _ =>
    match quotedArgument? m wide lead arg w with
    | some (n, w) => (n, w)
    | none =>
      let t := arg.dropWhile Raw.isSpace
      let (negative, t) : Bool × Raw :=
        match t with
        | '-' :: t => (true, t)
        | '+' :: t => (false, t)
        | t => (false, t)
      if t.head?.any Char.isDigit = false then (0, w.complain lead (numberFault m arg false))
      else
        let base := if ("0x" : Raw).isPrefixOf t ∨ ("0X" : Raw).isPrefixOf t then 16 else if t.head? = some '0' then 8 else 10
        let body := if base = 16 then t.drop 2 else t
        let ds := Shell.Sum.digits base body
        let n : Int := ds.foldl (fun n d => n * base + (Shell.Sum.digit? d).getD 0) 0
        let n := if negative then -n else n
        let behind := body.drop ds.length
        let (low, high) : Int × Int := 
          if unsigned then (-0xffffffffffffffff, 0xffffffffffffffff) else (-0x8000000000000000, 0x7fffffffffffffff)
        let cut := max low (min high n)
        if cut ≠ n then
          let told : Raw := if m = .free then quote arg else if m = .wide then "warning: " ++ arg else arg
          let w' := w.complain lead (told ++ ": Numerical result out of range")
          (cut, if m = .wide then { w' with status := w.status } else w')
        else if behind ≠ [] then (n, w.complain lead (numberFault m arg true))
        else (n, w)

def writePiece (m : Manner) (wide : Bool) (lead : Raw) (w : Written) (p : Piece) : Written :=
  if w.stopped then w
  else
    match p with
    | .text t => { w with output := w.output ++ t }
    | .stop => { w with stopped := true, rest := [] }
    | .unknown r =>
      let message : Raw :=
        match m with
        | .builtIn => r.take 2 ++ ": invalid directive"
        | .wide => '\x60' :: r.getLast?.toList ++ "': invalid format character"
        | .free => r ++ ": invalid conversion specification"
      let w := w.complain lead message
      { w with stopped := true, rest := [], status := if m = .builtIn then 2 else 1 }
    | .fault message true => { w with errors := w.errors ++ lead ++ message ++ ['\n'] }
    | .fault message false => { w.complain lead message with stopped := true, rest := [] }
    | .odd c => { w with errors := w.errors ++ lead ++ "warning: \x60" ++ c ++ "': invalid time format specification\n" }
    | .dangling r =>
      let message : Raw :=
        match m with
        | .builtIn => "missing format character"
        | .wide => '\x60' :: r ++ "': missing format character"
        | .free => r ++ ": invalid conversion specification"
      let w := w.complain lead message
      { w with stopped := true, rest := [], status := if m = .builtIn then 2 else 1 }
    | .directive d =>
      let (d, w) : Directive × Written :=
        if d.starWidth then
          let (a, w) := w.next
          let (n, w) := integerArgument m wide lead false a w
          ({ d with width := some n.natAbs, left := d.left || n < 0 }, w)
        else (d, w)
      let (d, w) : Directive × Written :=
        if d.starPrecision then
          let (a, w) := w.next
          let (n, w) := integerArgument m wide lead false a w
          ({ d with precision := if n < 0 then none else some n.toNat }, w)
        else (d, w)
      let (a, w) := w.next
      let put (w : Written) (t : Raw) : Written := { w with output := w.output ++ t }
      match d.letter with
      | 's' => put w (d.showText a)
      | 'c' => put w (d.showText (a.take 1))
      | 'b' =>
        let e : Escapes :=
          { longOctal := true, hex := m ≠ .builtIn, stops := true, points := if m = .builtIn then none else some wide
            teller := if m = .builtIn then none else some m }
        let (t, stop, faults) := unescape e (a.length + 1) a
        let w := faults.foldl (fun w f => { w with errors := w.errors ++ lead ++ f ++ ['\n'] }) w
        let w := put w (d.showText t)
        if stop then { w with stopped := true, rest := [] } else w
      | 'q' => put w (d.showText (if m = .wide then Shell.Quoting.escaped a else Quotation.inSparingQuotes true a))
      | 'Q' =>
        let shown := Shell.Quoting.escaped (a.take (d.precision.getD a.length))
        put w ({ d with precision := none }.showText shown)
      | 'T' =>
        let moment : Moment :=
          match Raw.int? a with
          | some n => if n < 0 then present else { seconds := n }
          | none => present
        let form : Raw := if d.inner = [] then "%X" else d.inner
        put w (d.showText (moment.shown "UTC" 0 (form.length + 100) form))
      | 'd' | 'i' =>
        let (n, w) := integerArgument m wide lead false a w
        put w (d.showInt n)
      | 'u' | 'o' | 'x' | 'X' =>
        let (n, w) := integerArgument m wide lead true a w
        put w (d.showNat (n % 0x10000000000000000).toNat)
      | 'n' => w
      | _ =>
        let bits := if m = .builtIn then 53 else 64
        let amount (n : Nat) : Amount := .finite ⟨n, 1⟩
        match a with
        | [] => put w (d.showAmount bits false (amount 0))
        | _ =>
          match quotedArgument? m wide lead a w with
          | some (n, w) => put w (d.showAmount bits false (amount n))
          | none =>
            match numeralPrefix a with
            | none => put (w.complain lead (numberFault m a false)) (d.showAmount bits false (amount 0))
            | some (negative, x, behind) =>
              put (if behind = [] then w else w.complain lead (numberFault m a true))
                (d.showAmount bits negative (x.amount bits))

/-- a format over and over, as long as it asks for arguments and there are any -/
def writeAll (m : Manner) (wide : Bool) (lead : Raw) (ps : List Piece) : (fuel : Nat) → Written → Written
  | 0, w => w
  | fuel + 1, w =>
    let w := ps.foldl (writePiece m wide lead) { w with asked := false }
    if w.stopped ∨ w.asked = false ∨ w.rest.isEmpty then w else writeAll m wide lead ps fuel w

/-- shows arguments as a format says; `lead` stands in front of complaints, and `wide` text goes by characters -/
def printf (m : Manner) (wide : Bool) (lead : Raw) (arguments : List Raw) : Answer :=
  let arguments :=
    match arguments with
    | ['-', '-'] :: r => r
    | r => r
  match arguments with
  | [] =>
    match m with
    | .builtIn => .fail (lead ++ "usage: printf format [arg ...]") 2
    | .wide => .fail "printf: usage: printf [-v var] format [arguments]" 2
    | .free =>
      let name := lead.take (lead.length - 2)
      .fail (lead ++ "missing operand\nTry '" ++ name ++ " --help' for more information.") 1
  | f :: args =>
    let known : Raw :=
      match m with
      | .free => "sbcdiouxXeEfFgGq"
      | .builtIn => "sbcdiouxXeEfFgGaA"
      | .wide => "sbcdiouxXeEfFgGaAqQTn"
    let e : Escapes :=
      { hex := m ≠ .builtIn, stops := m = .free, quotes := m ≠ .builtIn, marks := m = .wide
        points := if m = .builtIn then none else some wide, teller := if m = .builtIn then none else some m }
    let ps := Format.pieces (some e) known
      (match m with
        | .free => "hlLqjzt"
        | .builtIn => []
        | .wide => "hjlLtz") (f.length + 1) f
    let w := writeAll m wide lead ps (args.length + 1) { rest := args }
    let excess : Raw :=
      if m = .free ∧ w.asked = false ∧ w.stopped = false then
        match args with
        | a :: _ => lead ++ "warning: ignoring excess arguments, starting with " ++ quote a ++ ['\n']
        | [] => []
      else []
    .buffered (w.errors ++ excess) w.output w.status

/-! ## Words -/

/-- prints words with blanks between them; the shell's own version knows only `-n` and always reads escapes. `wide` text
goes by characters -/
def echo (m : Manner) (wide always : Bool) (arguments : List Raw) : Answer :=
  let isOption (w : Raw) : Bool := 1 < w.length && w.head? = some '-' && w.tail.all (· ∈ ("neE" : Raw))
  let words :=
    match m with
    | .builtIn => if arguments.head? = some "-n" then arguments.tail else arguments
    | .free | .wide => arguments.dropWhile isOption
  let given := (arguments.take (arguments.length - words.length)).flatMap List.tail
  let escapes : Bool :=
    match m with
    | .builtIn => true
    | .free | .wide => (given.reverse.find? (· ≠ 'n') = some 'e') || (always && given.all (· = 'n'))
  let line := Text.paste [' '] words
  let (line, stop) : Raw × Bool :=
    if escapes then
      let e : Escapes :=
        { bareOctal := m = .builtIn, longOctal := true, hex := m ≠ .builtIn, stops := true
          points := if m = .wide then some wide else none }
      let (t, stop, _) := unescape e (line.length + 1) line
      (t, stop)
    else (line, false)
  .print (if stop ∨ 'n' ∈ given then line else line ++ ['\n'])

end IncludeAudit.Tool
