/-
Operations on texts that scripts use: cutting, trimming, searching, replacing and case; they serve for bytes as well.

- `Strings.quoted`, `Strings.quotedBytes`: texts and bytes as they are written in a source.
-/
import IncludeAudit.Offside.Syntax
import IncludeAudit.Text.Letters
import IncludeAudit.Text.Printable

namespace IncludeAudit.Offside.Strings

/-! ## In quotes -/

/-- a number in base sixteen with so many digits at least -/
def hex (width n : Nat) : Text :=
  let ds := Nat.toDigits 16 n
  List.replicate (width - ds.length) '0' ++ ds

def escape (c : Char) : Text :=
  let n := c.toNat
  if n < 256 then "\\x" ++ hex 2 n else if n < 65536 then "\\u" ++ hex 4 n else "\\U" ++ hex 8 n

/-- a text as it is written in a source; with `narrow` only characters of ASCII stand for themselves -/
def quotedAs (narrow : Bool) (t : Text) : Text :=
  let q := if '\'' ∈ t ∧ '"' ∉ t then '"' else '\''
  let one (c : Char) : Text :=
    if c = q ∨ c = '\\' then ['\\', c]
    else if c = '\n' then "\\n"
    else if c = '\r' then "\\r"
    else if c = '\t' then "\\t"
    else if ' ' ≤ c ∧ c ≤ '~' then [c]
    else if narrow ∨ c.toNat < 160 then escape c
    else if Text.isPrintable c ∧ !Text.isBlankChar c then [c]
    else escape c
  q :: t.flatMap one ++ [q]

/-- a text as it is written in a source -/
def quoted (t : Text) : Text :=
  quotedAs false t

/-- bytes as they are written in a source -/
def quotedBytes (r : Raw) : Text :=
  let q := if '\'' ∈ r ∧ '"' ∉ r then '"' else '\''
  let one (c : Char) : Text :=
    if c = q ∨ c = '\\' then ['\\', c]
    else if c = '\n' then "\\n"
    else if c = '\r' then "\\r"
    else if c = '\t' then "\\t"
    else if ' ' ≤ c ∧ c ≤ '~' then [c]
    else "\\x" ++ hex 2 c.toNat
  'b' :: q :: r.flatMap one ++ [q]

/-! ## Case -/

/-- all letters as capitals -/
def upper (t : Text) : Text :=
  t.flatMap Text.capital

/-- all letters as small ones -/
def lower (t : Text) : Text :=
  if 'Σ' ∈ t then
    (t.foldl (fun (acc : Text × Bool × Text) c =>
      let (done, inWord, rest) := acc
      let behind := rest.drop 1
      let ends := inWord && !(behind.head?.any Text.isLetter)
      ((if c = 'Σ' ∧ ends then 'ς' :: done else (Text.small c).reverse ++ done), Text.isLetter c, behind)) ([], false, t)).1.reverse
  else t.flatMap Text.small

/-- letters for comparisons that do not mind case -/
def folded (t : Text) : Text :=
  t.flatMap Text.folded

/-- the character has a capital and a small form -/
def isCased (c : Char) : Bool :=
  Text.isSmall c || Text.isCapital c || Text.isTitled c

/-- capitals where words begin -/
def title (t : Text) : Text :=
  (t.foldl (fun (acc : Text × Bool) c =>
    let new := if acc.2 then Text.small c else Text.titled c
    (new.reverse ++ acc.1, isCased c)) ([], false)).1.reverse

def capitalize : Text → Text
  | [] => []
  | c :: r => Text.titled c ++ lower r

/-- capitals and small letters exchanged -/
def swapcase (t : Text) : Text :=
  t.flatMap fun c => if Text.isCapital c then Text.small c else if Text.isSmall c then Text.capital c else [c]

/-- there are letters, and all of them are capitals -/
def isUpper (t : Text) : Bool :=
  t.any Text.isCapital && t.all fun c => !Text.isSmall c && !Text.isTitled c

/-- there are letters, and all of them are small -/
def isLower (t : Text) : Bool :=
  t.any Text.isSmall && t.all fun c => !Text.isCapital c && !Text.isTitled c

/-- every word begins with a capital, and only there are capitals -/
def isTitle (t : Text) : Bool :=
  let (ok, _, any) := t.foldl (fun (acc : Bool × Bool × Bool) c =>
    let (ok, inWord, any) := acc
    if Text.isCapital c ∨ Text.isTitled c then (ok && !inWord, true, true)
    else if Text.isSmall c then (ok && inWord, true, any || ok)
    else (ok, false, any)) (true, false, false)
  ok && any

def isIdentifier (t : Text) : Bool :=
  match t with
  | c :: r => (Text.isLetter c || c = '_') && r.all fun c => Text.isLetter c || Text.isDecimal c || c = '_' || c = '·'
  | [] => false

/-! ## Searching and cutting -/

def findFrom (part : Text) : (place : Nat) → Text → Option Nat
  | n, [] => if part = [] then some n else none
  | n, c :: r => if part.isPrefixOf (c :: r) then some n else findFrom part (n + 1) r

/-- the first place of a part, counted from the start -/
def find? (part t : Text) : Option Nat :=
  findFrom part 0 t

def findLast? (part t : Text) : Option Nat :=
  (find? part.reverse t.reverse).map fun n => t.length - part.length - n

/-- how often a part stands in a text, without overlaps -/
def count (part : Text) : (fuel : Nat) → (found : Nat) → Text → Nat
  | 0, found, _ => found
  | fuel + 1, found, t =>
    if part = [] then t.length + 1
    else
      match find? part t with
      | none => found
      | some n => count part fuel (found + 1) (t.drop (n + part.length))

/-- the parts between separators, at most so many cuts; the parts that are done come first, the latest in front -/
def splitOn (sep : Text) : (fuel : Nat) → (cuts : Option Nat) → Text → List Text → List Text
  | 0, _, t, done => (t :: done).reverse
  | fuel + 1, cuts, t, done =>
    if cuts = some 0 then (t :: done).reverse
    else
      match find? sep t with
      | none => (t :: done).reverse
      | some n => splitOn sep fuel (cuts.map (· - 1)) (t.drop (n + sep.length)) (t.take n :: done)

/-- the parts between separators, at most so many cuts -/
def split (sep : Text) (cuts : Option Nat) (t : Text) : List Text :=
  splitOn sep (t.length + 1) cuts t []

/-- the words between blanks, at most so many cuts; the words that are done come first, the latest in front -/
def wordsOf (isBlank : Char → Bool) : (fuel : Nat) → (cuts : Option Nat) → Text → List Text → List Text
  | 0, _, _, done => done.reverse
  | fuel + 1, cuts, t, done =>
    match t.dropWhile isBlank with
    | [] => done.reverse
    | t =>
      if cuts = some 0 then (t :: done).reverse
      else
        let w := t.takeWhile fun c => !isBlank c
        wordsOf isBlank fuel (cuts.map (· - 1)) (t.drop w.length) (w :: done)

def isBlank (c : Char) : Bool :=
  Text.isBlankChar c || (0x1c ≤ c.toNat && c.toNat ≤ 0x1f)

def isBlankByte (c : Char) : Bool :=
  c.toNat < 128 && Text.isBlankChar c

def words (isBlank : Char → Bool) (cuts : Option Nat) (t : Text) : List Text :=
  wordsOf isBlank (t.length + 1) cuts t []

def wordsFromEnd (isBlank : Char → Bool) (cuts : Option Nat) (t : Text) : List Text :=
  ((words isBlank cuts t.reverse).map List.reverse).reverse

/-- the parts between separators, at most so many cuts, which are made from the end -/
def splitFromEnd (sep : Text) (cuts : Option Nat) (t : Text) : List Text :=
  ((split sep.reverse cuts t.reverse).map List.reverse).reverse

/-- another text in place of a part, at most so often -/
def replace (old new : Text) (times : Option Nat) (t : Text) : Text :=
  if old = [] then
    let n := min ((times.getD (t.length + 1))) (t.length + 1)
    let front := (t.take n).flatMap fun c => new ++ [c]
    front ++ (if t.length < n then new else []) ++ t.drop n
  else Text.paste new (split old times t)

def trimStart (p : Char → Bool) (t : Text) : Text :=
  t.dropWhile p

def trimEnd (p : Char → Bool) (t : Text) : Text :=
  (t.reverse.dropWhile p).reverse

def endsLine (wide : Bool) (c : Char) : Bool :=
  c = '\n' || c = '\r' || (wide && (c = '\x0b' || c = '\x0c' || c = '\x1c' || c = '\x1d' || c = '\x1e' || c = '\x85' ||
    c = '\u2028' || c = '\u2029'))

/-- the lines, with what ends them if that is wanted -/
def linesOf (wide keep : Bool) : (fuel : Nat) → Text → Text → List Text → List Text
  | 0, _, _, done => done.reverse
  | _, [], line, done => if line = [] then done.reverse else (line.reverse :: done).reverse
  | fuel + 1, c :: r, line, done =>
    let ending := if c = '\r' ∧ r.head? = some '\n' then 2 else 1
    if endsLine wide c then
      linesOf wide keep fuel ((c :: r).drop ending) []
        ((line.reverse ++ if keep then (c :: r).take ending else []) :: done)
    else linesOf wide keep fuel r (c :: line) done

def lines (wide keep : Bool) (t : Text) : List Text :=
  linesOf wide keep (t.length + 1) t [] []

/-- blanks in place of tabs -/
def expandTabs (size : Nat) (t : Text) : Text :=
  (t.foldl (fun (acc : Text × Nat) c =>
    if c = '\t' then
      let n := if size = 0 then 0 else size - acc.2 % size
      (List.replicate n ' ' ++ acc.1, acc.2 + n)
    else (c :: acc.1, if c = '\n' ∨ c = '\r' then 0 else acc.2 + 1)) ([], 0)).1.reverse

def center (width : Nat) (fill : Char) (t : Text) : Text :=
  let gap := width - t.length
  let left := gap / 2 + (if gap % 2 = 1 ∧ width % 2 = 1 then 1 else 0)
  List.replicate left fill ++ t ++ List.replicate (gap - left) fill

def zeroFill (width : Nat) (t : Text) : Text :=
  let zeros := List.replicate (width - t.length) '0'
  match t with
  | c :: r => if c = '+' ∨ c = '-' then c :: zeros ++ r else zeros ++ t
  | [] => zeros

/-- one text in front of another by the numbers of their characters -/
def less : Text → Text → Bool
  | _, [] => false
  | [], _ :: _ => true
  | a :: s, b :: t => if a = b then less s t else a.toNat < b.toNat

end IncludeAudit.Offside.Strings
