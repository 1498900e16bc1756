/-
The words of a source: names, numbers, texts and signs, with marks where a line ends and where a block begins and
ends. Inside brackets lines do not count.

- `Lexer.tokens`: the words of a source with their spots, and what is wrong with them.
-/
import IncludeAudit.Offside.Syntax
import IncludeAudit.Text.Printable
import IncludeAudit.Tool.Format

namespace IncludeAudit.Offside

/-- a word of a source -/
inductive Token
  | name (n : Text)
  | int (n : Int)
  | float (x : Float)
  | imaginary (x : Float)
  | str (t : Text)
  | bytes (r : Raw)
  /-- a text with values in it, as it is written; raw when backslashes stand for themselves. The number is that of the
  characters in front of it -/
  | template (raw : Bool) (front : Nat) (t : Text)
  /-- a text with an escape that means nothing, and what is said of it -/
  | spoilt (message : Text)
  | sign (t : Text)
  | newline
  | indent
  | dedent
  | finish
  deriving Repr

/-- a word, where it starts and where it ends -/
structure Placed where
  token : Token
  line : Nat
  first : Nat
  lastLine : Nat
  last : Nat
  deriving Repr

namespace Lexer

/-- a source while it is read -/
structure Scan where
  rest : Text
  line : Nat := 1
  column : Nat := 0
  /-- a line begins here -/
  fresh : Bool := true
  /-- open brackets with their places, the latest first -/
  brackets : List (Char × Nat × Nat) := []
  /-- columns of the blocks that are open, the innermost first; each with tabs counted as eight and as one -/
  indents : List (Nat × Nat) := []
  /-- words, the latest first -/
  found : List Placed := []

namespace Scan

/-- goes on by one character -/
def step (s : Scan) : Scan :=
  match s.rest with
  | [] => s
  | '\n' :: r => { s with rest := r, line := s.line + 1, column := 0 }
  | _ :: r => { s with rest := r, column := s.column + 1 }

/-- goes on by several characters -/
def skip (s : Scan) (n : Nat) : Scan :=
  (s.rest.take n).foldl (fun s _ => s.step) s

/-- a word of so many characters -/
def add (s : Scan) (n : Nat) (t : Token) : Scan :=
  let after := s.skip n
  let w : Placed := { token := t, line := s.line, first := s.column, lastLine := after.line, last := after.column }
  { after with found := w :: s.found }

/-- a mark that takes no room -/
def mark (s : Scan) (t : Token) : Scan :=
  s.add 0 t

/-- the spot of the next characters -/
def spot (s : Scan) (n : Nat) : Spot :=
  { line := s.line, first := s.column, last := some (s.column + n) }

end Scan

def startsName (c : Char) : Bool :=
  c.isAlpha || c = '_' || 128 ≤ c.toNat

def isNameChar (c : Char) : Bool :=
  startsName c || c.isDigit

/-- signs, longer ones first -/
def signs : List Text :=
  Raw.words ("**= //= >>= <<= ... := -> ** // == != <> <= >= << >> += -= *= /= %= &= |= ^= @= + - * / % @ & | ^ ~ < > " ++
    "( ) [ ] \x7b \x7d , : . ; = !")

def closing? (c : Char) : Option Char :=
  if c = '(' then some ')' else if c = '[' then some ']' else if c = '\x7b' then some '\x7d' else none

/-- the value of a digit in bases up to sixteen -/
def digit? (c : Char) : Option Nat :=
  if c.isDigit then some (c.toNat - 48)
  else if 'a' ≤ c ∧ c ≤ 'f' then some (c.toNat - 87)
  else if 'A' ≤ c ∧ c ≤ 'F' then some (c.toNat - 55)
  else none

/-- digits as a number -/
def numeral (base : Nat) (t : Text) : Nat :=
  t.foldl (fun n c => n * base + (digit? c).getD 0) 0

def letterEscapes : List (Char × Char) :=
  [('n', '\n'), ('t', '\t'), ('r', '\r'), ('\\', '\\'), ('\'', '\''), ('"', '"'), ('a', '\x07'), ('b', '\x08'),
   ('f', '\x0c'), ('v', '\x0b')]

def namedChars : List (String × Char) :=
  [("BULLET", '•'), ("EM DASH", '—'), ("EN DASH", '–'), ("HORIZONTAL ELLIPSIS", '…'), ("EURO SIGN", '€'),
   ("COPYRIGHT SIGN", '©'), ("REGISTERED SIGN", '®'), ("DEGREE SIGN", '°'), ("NO-BREAK SPACE", '\u00a0'),
   ("SNOWMAN", '☃'), ("CHECK MARK", '✓'), ("HEAVY CHECK MARK", '✔'), ("BALLOT X", '✗'), ("RIGHTWARDS ARROW", '→'),
   ("LEFTWARDS ARROW", '←'), ("UPWARDS ARROW", '↑'), ("DOWNWARDS ARROW", '↓'), ("BLACK STAR", '★'), ("WHITE STAR", '☆'),
   ("BLACK HEART SUIT", '♥'), ("WHITE SMILING FACE", '☺'), ("GREEK SMALL LETTER ALPHA", 'α'),
   ("GREEK SMALL LETTER BETA", 'β'), ("GREEK SMALL LETTER PI", 'π'), ("GREEK CAPITAL LETTER OMEGA", 'Ω'),
   ("GREEK CAPITAL LETTER DELTA", 'Δ'), ("GREEK SMALL LETTER LAMDA", 'λ'), ("LATIN SMALL LETTER E WITH ACUTE", 'é'),
   ("LATIN SMALL LETTER E WITH GRAVE", 'è'), ("LATIN SMALL LETTER A WITH GRAVE", 'à'),
   ("LATIN SMALL LETTER SHARP S", 'ß'), ("LATIN SMALL LETTER N WITH TILDE", 'ñ'),
   ("LATIN SMALL LETTER O WITH DIAERESIS", 'ö'), ("LATIN SMALL LETTER U WITH DIAERESIS", 'ü'),
   ("LATIN SMALL LETTER A WITH DIAERESIS", 'ä'), ("SPACE", ' '), ("LATIN SMALL LETTER A", 'a'),
   ("LATIN CAPITAL LETTER A", 'A'), ("DIGIT ONE", '1'), ("COLON", ':'), ("SOLIDUS", '/'), ("REVERSE SOLIDUS", '\\'),
   ("ZERO WIDTH SPACE", '\u200b'), ("ZERO WIDTH JOINER", '\u200d'), ("BYTE ORDER MARK", '\ufeff'),
   ("COMBINING ACUTE ACCENT", '\u0301'), ("INFINITY", '∞'), ("NOT EQUAL TO", '≠'), ("LESS-THAN OR EQUAL TO", '≤'),
   ("GREATER-THAN OR EQUAL TO", '≥'), ("MULTIPLICATION SIGN", '×'), ("DIVISION SIGN", '÷'), ("POUND SIGN", '£'),
   ("YEN SIGN", '¥'), ("SECTION SIGN", '§'), ("PILCROW SIGN", '¶'), ("MICRO SIGN", 'µ'), ("GRINNING FACE", '😀')]

/-- what a backslash and the character behind it stand for, and how many of the characters behind are taken; without a
meaning both stand for themselves. Characters by a longer number or by a name mean themselves in bytes -/
def escape? (wide : Bool) (c : Char) (r : Text) : Option (Text × Nat) :=
  let hex (n : Nat) : Option (Text × Nat) :=
    let ds := r.take n
    if ds.length = n ∧ ds.all (fun d => (digit? d).isSome) then some ([Char.ofNat (numeral 16 ds)], n) else none
  match letterEscapes.find? (·.1 = c) with
  | some (_, d) => some ([d], 0)
  | none =>
    if c = '\n' then some ([], 0)
    else if c = 'x' then hex 2
    else if c = 'u' ∧ wide then hex 4
    else if c = 'U' ∧ wide then hex 8
    else if c = 'N' ∧ wide ∧ r.head? = some '\x7b' then
      let name := r.tail.takeWhile (· ≠ '\x7d')
      (namedChars.find? (·.1 = String.ofList (name.map Char.toUpper))).map fun p => ([p.2], name.length + 2)
    else
      let octal := ((c :: r).take 3).takeWhile fun d => '0' ≤ d && d ≤ '7'
      if octal ≠ [] then
        let n := numeral 8 octal
        some ([Char.ofNat (if wide then n else n % 256)], octal.length - 1)
      else none

/-- a text with its escapes read -/
def unescape (wide : Bool) : (fuel : Nat) → Text → Text
  | 0, _ => []
  | _, [] => []
  | fuel + 1, '\\' :: c :: r =>
    match escape? wide c r with
    | some (t, n) => t ++ unescape wide fuel (r.drop n)
    | none => '\\' :: unescape wide fuel (c :: r)
  | fuel + 1, c :: r => c :: unescape wide fuel r

/-- what is wrong with an escape of a text, with the number of characters that it takes: a number that is too short or too
large, or a name that nobody has -/
def escapeTrouble? (c : Char) (r : Text) : Option (Text × Nat) :=
  let hex (n : Nat) (what : Text) : Option (Text × Nat) :=
    let ds := (r.take n).takeWhile fun d => (digit? d).isSome
    if ds.length < n then some ("truncated \\" ++ c :: what ++ " escape", ds.length + 2)
    else if 0x10ffff < numeral 16 ds then some ("illegal Unicode character", n + 2)
    else none
  if c = 'x' then hex 2 "XX"
  else if c = 'u' then hex 4 "XXXX"
  else if c = 'U' then hex 8 "XXXXXXXX"
  else if c = 'N' then
    let name := (r.drop 1).takeWhile (· ≠ '\x7d')
    if r.head? ≠ some '\x7b' ∨ name = [] ∨ r.length < name.length + 2 then
      some ("malformed \\N character escape", if r.head? = some '\x7b' then name.length + 3 else 2)
    else if (escape? true c r).isNone then some ("unknown Unicode character name", name.length + 4)
    else none
  else none

/-- a complaint about the first escape of a text that means nothing; `place` counts what a decoder would have taken -/
def escapeFault? (wide : Bool) : (fuel : Nat) → (place : Nat) → Text → Option Text
  | 0, _, _ => none
  | _, _, [] => none
  | fuel + 1, place, '\\' :: c :: r =>
    let trouble? := if wide then escapeTrouble? c r else if c = 'x' then escapeTrouble? c r else none
    match trouble? with
    | some (what, n) =>
      if wide then
        let span := Text.ofNat place ++ '-' :: Text.ofNat (place + n - 1)
        some ("(unicode error) 'unicodeescape' codec can't decode bytes in position " ++ span ++ ": " ++ what)
      else some ("(value error) invalid \\x escape at position " ++ Text.ofNat place)
    | none => escapeFault? wide fuel (place + 1 + if c.toNat < 128 then 1 else 10) r
  | fuel + 1, place, c :: r => escapeFault? wide fuel (place + if c.toNat < 128 then 1 else 10) r

/-- the inside of a text up to its closing quotes, and the number of characters up to behind them -/
def quoted (quotes : Text) : (fuel : Nat) → Text → Text → Option (Text × Nat)
  | 0, _, _ => none
  | _, [], _ => none
  | fuel + 1, c :: r, before =>
    if quotes.isPrefixOf (c :: r) then some (before.reverse, before.length + quotes.length)
    else if c = '\n' ∧ quotes.length = 1 then none
    else if c = '\\' then
      match r with
      | d :: r => quoted quotes fuel r (d :: c :: before)
      | [] => none
    else quoted quotes fuel r (c :: before)

/-- a text with the letters in front of its quotes -/
def text? (s : Scan) : Option (Except Fault Scan) :=
  let letters := s.rest.takeWhile fun c => c ∈ ("rRbBfFuU" : Text)
  let r := s.rest.drop letters.length
  let low := letters.map Char.toLower
  match r with
  | q :: _ =>
    if (q = '"' ∨ q = '\'') ∧ letters.length ≤ 2 then
      let quotes := if [q, q, q].isPrefixOf r then [q, q, q] else [q]
      let isTemplate : Bool := 'f' ∈ low
      let inside := r.drop quotes.length
      match quoted quotes (r.length + 1) inside [] with
      | none =>
        let front : Text := if quotes.length = 3 then "unterminated triple-quoted" else "unterminated"
        let message := front ++ " string literal (detected at line "
        let size := (r.filter (· = '\n')).length - if r.getLast? = some '\n' then 1 else 0
        let last := s.line + if quotes.length = 3 then size else 0
        some (.error { message := message ++ Text.ofNat last ++ ")", spot := s.spot 1 })
      | some (inside, n) =>
        let n := letters.length + quotes.length + n
        let raw := 'r' ∈ low
        let isBytes : Bool := 'b' ∈ low
        let trouble? := if raw ∨ isTemplate then none else escapeFault? (!isBytes) (inside.length + 1) 0 inside
        let token :=
          if let some message := trouble? then Token.spoilt message
          else if isTemplate then Token.template raw (letters.length + quotes.length) inside
          else if isBytes then .bytes (if raw then inside else unescape false (inside.length + 1) inside)
          else .str (if raw then inside else unescape true (inside.length + 1) inside)
        if isBytes ∧ inside.any (fun c => 128 ≤ c.toNat) then
          some (.error { message := "bytes can only contain ASCII literal characters", spot := s.spot n })
        else some (.ok (s.add n token))
    else none
  | [] => none

/-- a number in base ten, perhaps with a point and a power of ten -/
def decimal (s : Scan) : Scan :=
  let whole := s.rest.takeWhile fun c => c.isDigit || c = '_'
  let r := s.rest.drop whole.length
  let part := if r.head? = some '.' then '.' :: r.tail.takeWhile (fun c => c.isDigit || c = '_') else []
  let r := r.drop part.length
  let power :=
    match r with
    | e :: r =>
      let signs := r.takeWhile fun c => c = '+' || c = '-'
      let digits := (r.drop signs.length).takeWhile Char.isDigit
      if (e = 'e' ∨ e = 'E') ∧ signs.length ≤ 1 ∧ digits ≠ [] then e :: signs ++ digits else []
    | [] => []
  let t := whole ++ part ++ power
  let clean := t.filter (· ≠ '_')
  let value := ((Tool.floatPrefix clean).map (·.1)).getD 0
  let behind := (s.rest.drop t.length).head?
  if behind = some 'j' ∨ behind = some 'J' then s.add (t.length + 1) (.imaginary value)
  else if part = [] ∧ power = [] then s.add t.length (.int (Raw.toNat clean))
  else s.add t.length (.float value)

def number (s : Scan) : Scan :=
  let based (base : Nat) : Scan :=
    let ds := (s.rest.drop 2).takeWhile fun c => (digit? c).isSome || c = '_'
    s.add (2 + ds.length) (.int (numeral base (ds.filter (· ≠ '_'))))
  match s.rest with
  | '0' :: x :: _ =>
    if x = 'x' ∨ x = 'X' then based 16
    else if x = 'o' ∨ x = 'O' then based 8
    else if x = 'b' ∨ x = 'B' then based 2
    else decimal s
  | _ => decimal s

/-- zeros in front of a number in base ten, which might be read in base eight -/
def hasIdleZeros (t : Text) : Bool :=
  let ds := t.takeWhile fun c => c.isDigit || c = '_'
  let behind := (t.drop ds.length).head?
  ds.head? = some '0' && ds.any (fun c => c ≠ '0' && c ≠ '_') && behind ≠ some '.' && behind ≠ some 'e' &&
    behind ≠ some 'E'

/-- what is wrong with a number, as it is written -/
def numberFault? (s : Scan) : Option Fault :=
  let r := s.rest
  let ds := r.takeWhile fun c => c.isAlphanum || c = '_'
  let low := ds.map Char.toLower
  let at_ (n : Nat) (message : Text) : Fault := { message, spot := { s.spot 0 with first := s.column + n - 1, last := some (s.column + n) } }
  let based (name : Text) (isDigit : Char → Bool) : Option Fault :=
    let body := low.drop 2
    match body.zipIdx.find? fun p => !(isDigit p.1 || p.1 = '_') with
    | some (c, i) =>
      if c.isDigit then some (at_ (i + 3) ("invalid digit '" ++ c :: "' in " ++ name ++ " literal"))
      else if i = 0 then some (at_ 2 ("invalid " ++ name ++ " literal"))
      else some (at_ (i + 2) ("invalid " ++ name ++ " literal"))
    | none => if body = [] ∨ body.getLast? = some '_' then some (at_ ds.length ("invalid " ++ name ++ " literal")) else none
  if ("0x" : Text).isPrefixOf low then based "hexadecimal" fun c => (digit? c).isSome
  else if ("0o" : Text).isPrefixOf low then based "octal" fun c => '0' ≤ c && c ≤ '7'
  else if ("0b" : Text).isPrefixOf low then based "binary" fun c => c = '0' || c = '1'
  else if hasIdleZeros r then
    let n := (r.takeWhile fun c => c = '0' || c = '_').length
    let message : Text := "leading zeros in decimal integer literals are not permitted; use an 0o prefix for octal integers"
    some { message, spot := s.spot n }
  else
    let digits := r.takeWhile fun c => c.isDigit || c = '_'
    let end_ := (decimal s).column
    let behind := s.rest.drop (end_ - s.column)
    let joined := digits.getLast? = some '_' || (digits.zip digits.tail).any fun p => p.1 = '_' && p.2 = '_'
    if joined then
      let good := (digits.zip digits.tail).takeWhile fun p => !(p.1 = '_' && p.2 = '_')
      some (at_ (good.length + 1) "invalid decimal literal")
    else
      match behind with
      | c :: more =>
        let word := (c :: more).takeWhile Char.isAlphanum
        let follows : Bool := (Raw.words "and else for if in is not or").any fun k => k = word
        if (c.isAlpha ∨ c = '_') ∧ !follows then some (at_ (end_ - s.column) "invalid decimal literal") else none
      | [] => none

/-- blocks that end in front of a column -/
def close (column : Nat) (s : Scan) : Scan :=
  let gone := s.indents.takeWhile (column < ·.1)
  { gone.foldl (fun s _ => s.mark .dedent) s with indents := s.indents.drop gone.length }

/-- the start of a line: blank ones do not count -/
def startLine (s : Scan) : Except Fault Scan :=
  let blanks := s.rest.takeWhile fun c => c = ' ' || c = '\t' || c = '\x0c'
  let column := blanks.foldl (fun n c => if c = '\t' then (n / 8 + 1) * 8 else if c = '\x0c' then 0 else n + 1) 0
  let narrow := blanks.foldl (fun n c => if c = '\x0c' then 0 else n + 1) 0
  let s := s.skip blanks.length
  let mixed : Except Fault Scan :=
    .error { kind := "TabError", message := "inconsistent use of tabs and spaces in indentation"
             spot := { line := s.line, first := (s.rest.takeWhile (· ≠ '\n')).length + s.column, last := none } }
  match s.rest with
  | [] => .ok { s with fresh := false }
  | '\n' :: _ => .ok s.step
  | '\r' :: '\n' :: _ => .ok (s.skip 2)
  | '#' :: r => .ok (s.skip (1 + (r.takeWhile (· ≠ '\n')).length))
  | _ =>
    let s := { s with fresh := false }
    let current := s.indents.headD (0, 0)
    if column = current.1 then if narrow = current.2 then .ok s else mixed
    else if current.1 < column then
      if narrow ≤ current.2 then mixed else .ok { s.mark .indent with indents := (column, narrow) :: s.indents }
    else
      let s := close column s
      if (s.indents.headD (0, 0)).1 = column then if (s.indents.headD (0, 0)).2 = narrow then .ok s else mixed
      else
        let line := (s.rest.takeWhile (· ≠ '\n')).length
        .error { kind := "IndentationError", message := "unindent does not match any outer indentation level"
                 spot := { line := s.line, first := s.column + line, last := some (s.column + line + 1) } }

/-- four digits or more in base sixteen -/
def codeOf (c : Char) : Text :=
  let ds := (Nat.toDigits 16 c.toNat).map Char.toUpper
  "U+" ++ List.replicate (4 - ds.length) '0' ++ ds

/-- the next word inside a line -/
def word (s : Scan) : Except Fault Scan :=
  match s.rest with
  | [] => .ok s
  | c :: r =>
    if c = '\n' then
      if s.brackets = [] then .ok { (s.mark .newline).step with fresh := true } else .ok s.step
    else if c = ' ' ∨ c = '\t' ∨ c = '\r' ∨ c = '\x0c' then .ok s.step
    else if c = '#' then .ok (s.skip (1 + (r.takeWhile (· ≠ '\n')).length))
    else if c = '\\' then
      if r.head? = some '\n' then .ok (s.skip 2)
      else if ("\r\n" : Text).isPrefixOf r then .ok (s.skip 3)
      else if r = [] then .error { message := "unexpected EOF while parsing", spot := s.spot 1 }
      else
        let spot : Spot := { line := s.line, first := s.column + 1, last := some (s.column + 2) }
        .error { message := "unexpected character after line continuation character", spot }
    else if c.isDigit ∨ (c = '.' ∧ (r.head?.map Char.isDigit) = some true) then
      match numberFault? s with
      | some f => .error f
      | none => .ok (number s)
    else
      match text? s with
      | some result => result
      | none =>
        if startsName c ∧ (c.toNat < 128 ∨ isLetterBeyond c) then
          let n := (c :: r).takeWhile isNameChar
          .ok (s.add n.length (.name n))
        else
          match signs.find? fun t => t.isPrefixOf (c :: r) with
          | none =>
            if c.toNat < 128 then .error { message := "invalid syntax", spot := s.spot 1 }
            else if Text.isPrintable c then
              .error { message := "invalid character '" ++ c :: "' (" ++ codeOf c ++ ")", spot := s.spot 1 }
            else .error { message := "invalid non-printable character " ++ codeOf c, spot := s.spot 1 }
          | some t =>
            let added := s.add t.length (.sign t)
            if (closing? c).isSome then .ok { added with brackets := (c, s.line, s.column) :: s.brackets }
            else if c = ')' ∨ c = ']' ∨ c = '\x7d' then
              match s.brackets with
              | [] => .error { message := "unmatched '" ++ [c, '\''], spot := s.spot 1 }
              | (o, line, _) :: outer =>
                if closing? o = some c then .ok { added with brackets := outer }
                else
                  let place : Text := if line = s.line then [] else " on line " ++ Text.ofNat line
                  let message : Text := "closing parenthesis '" ++ [c] ++ "' does not match opening parenthesis '" ++ [o]
                  .error { message := message ++ '\'' :: place, spot := s.spot 1 }
            else .ok added
where
  /-- letters outside ASCII; what is no letter has a range of its own -/
  isLetterBeyond (c : Char) : Bool :=
    let n := c.toNat
    c = 'ª' || c = 'µ' || c = 'º' || (0xC0 ≤ n && c ≠ '×' && c ≠ '÷' && !(0x2000 ≤ n && n ≤ 0x2BFF) &&
      !(0x3000 ≤ n && n ≤ 0x3004) && !(0xFE00 ≤ n && n ≤ 0xFE6F) && !(0xFF00 ≤ n && n ≤ 0xFF20) && !(0x1F000 ≤ n && n ≤ 0x1FAFF))

/-- all words of a source up to a fault -/
def scan : (fuel : Nat) → Scan → Scan × Option Fault
  | 0, s => (s, none)
  | fuel + 1, s =>
    if s.rest = [] then (s, none)
    else
      match (if s.fresh then startLine s else word s) with
      | .ok s => scan fuel s
      | .error e => (s, some e)

/-- what has been found in a source -/
structure Found where
  tokens : List Placed
  /-- a word that cannot be one -/
  fault : Option Fault := none
  /-- the bracket that is still open at the end, and its place -/
  isOpen : Option (Char × Nat × Nat) := none

/-- the words of a source with their spots, and what is wrong with them -/
def tokens (source : Text) : Found :=
  let source := if source.head? = some '\ufeff' then source.tail else source
  if '\x00' ∈ source then
    { tokens := [], fault := some { message := "source code string cannot contain null bytes" } }
  else
    let (s, fault) := scan (2 * source.length + 2) { rest := source }
    let isOpen := s.brackets.head?
    let s := if s.fresh ∨ isOpen.isSome then s else s.mark .newline
    let line := if source.getLast? = some '\n' then s.line - 1 else s.line
    { tokens := ((close 0 { s with line, column := 0 }).mark .finish).found.reverse, fault, isOpen }

/-- the words of a part of a source that stands in brackets -/
def innerTokens (source : Text) (line column : Nat) : Found :=
  let (s, fault) := scan (2 * source.length + 2) { rest := source, line, column, fresh := false, brackets := [('(', line, column)] }
  { tokens := (s.mark .finish).found.reverse, fault, isOpen := none }

end Lexer
end IncludeAudit.Offside
