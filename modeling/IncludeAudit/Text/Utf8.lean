/-
Bytes as text in UTF-8. `scan` marks every longest run of bytes that cannot begin a character; reading a file refuses
such a run, reading what a tool prints puts the replacement character in its place.
-/
import IncludeAudit.Text

namespace IncludeAudit.Utf8

/-- a character under way: its bits so far, the bytes still missing, and the range of the next byte -/
structure Partial where
  bits : Nat
  missing : Nat
  low : Nat := 0x80
  high : Nat := 0xBF
  deriving DecidableEq, Repr

/-- what a byte can be at the start of a character -/
inductive Lead
  | whole (c : Char)
  | begins (p : Partial)
  | stray

/-- overlong forms, surrogates and values past the last character are cut off at the second byte -/
def lead (b : UInt8) : Lead :=
  let n := b.toNat
  if n < 0x80 then .whole (Char.ofNat n)
  else if n < 0xC2 then .stray
  else if n < 0xE0 then .begins { bits := n - 0xC0, missing := 1 }
  else if n < 0xF0 then
    .begins
      { bits := n - 0xE0, missing := 2, low := if n = 0xE0 then 0xA0 else 0x80,
        high := if n = 0xED then 0x9F else 0xBF }
  else if n < 0xF5 then
    .begins
      { bits := n - 0xF0, missing := 3, low := if n = 0xF0 then 0x90 else 0x80,
        high := if n = 0xF4 then 0x8F else 0xBF }
  else .stray

/-- characters that have been read, the latest first, and the one under way; `none` stands for a part that is no
character -/
structure Scan where
  done : List (Option Char) := []
  open_ : Option Partial := none
  deriving DecidableEq, Repr

namespace Scan

/-- a byte that no character is open for -/
def start (done : List (Option Char)) (b : UInt8) : Scan :=
  match lead b with
  | .whole c => { done := some c :: done }
  | .begins p => { done, open_ := some p }
  | .stray => { done := none :: done }

/-- one more byte -/
def step (s : Scan) (b : UInt8) : Scan :=
  match s.open_ with
  | none => start s.done b
  | some p =>
    if p.low ≤ b.toNat ∧ b.toNat ≤ p.high then
      let bits := p.bits * 0x40 + (b.toNat - 0x80)
      if p.missing ≤ 1 then { done := some (Char.ofNat bits) :: s.done }
      else { s with open_ := some { bits, missing := p.missing - 1 } }
    else start (none :: s.done) b

/-- all that has been read; a character that is still open is none -/
def result (s : Scan) : List (Option Char) :=
  (if s.open_.isSome then none :: s.done else s.done).reverse

end Scan

/-- the characters of a byte string, with `none` for each longest part that is none -/
def scan (bytes : List UInt8) : List (Option Char) :=
  (bytes.foldl Scan.step {}).result

def decode? (bytes : List UInt8) : Option Text :=
  (scan bytes).mapM id

def decodeLossy (bytes : List UInt8) : Text :=
  (scan bytes).map (·.getD '\uFFFD')

def encode (t : Text) : List UInt8 :=
  t.flatMap String.utf8EncodeChar

end IncludeAudit.Utf8

/-!
## Raw text

Text that goes by bytes: one character, below 256, for each byte. Programs cut, count and compare what they read byte
by byte, and a character of the text proper is then several characters of the raw text.
-/

namespace IncludeAudit

/-- text with one character for each byte -/
abbrev Raw := Text

namespace Raw

def ofBytes (bytes : List UInt8) : Raw :=
  bytes.map fun b => Char.ofNat b.toNat

def toBytes (r : Raw) : List UInt8 :=
  r.map fun c => UInt8.ofNat c.toNat

/-- the bytes of a text in UTF-8 -/
def ofText (t : Text) : Raw :=
  if t.all fun c => c.toNat < 128 then t else ofBytes (Utf8.encode t)

/-- the text that the bytes spell in UTF-8 -/
def toText (r : Raw) : Text :=
  if r.all fun c => c.toNat < 128 then r else Utf8.decodeLossy (toBytes r)

/-- the decimal number at the start, zero when there is none -/
def toNat (r : Raw) : Nat :=
  (r.takeWhile Char.isDigit).foldl (fun n c => n * 10 + (c.toNat - 48)) 0

/-- the number that the text spells with digits only -/
def nat? (r : Raw) : Option Nat :=
  if r ≠ [] ∧ r.all Char.isDigit then some (toNat r) else none

/-- the integer that the text spells with digits only behind an optional sign -/
def int? : Raw → Option Int
  | '-' :: r => (nat? r).map fun n => -(n : Int)
  | '+' :: r => (nat? r).map fun n => (n : Int)
  | r => (nat? r).map fun n => (n : Int)

/-- an order of raw texts: byte by byte, a shorter text first -/
def le : Raw → Raw → Bool
  | [], _ => true
  | _ :: _, [] => false
  | a :: r, b :: t => if a = b then le r t else a.toNat < b.toNat

/-- one more character of a text that is cut into lines: the finished lines and the open one, the latest first -/
def lineStep (acc : List Raw × Raw) (c : Char) : List Raw × Raw :=
  if c = '\n' then (acc.2.reverse :: acc.1, []) else (acc.1, c :: acc.2)

/-- the lines without their line feeds; text behind the last line feed is a line as well -/
def lines (r : Raw) : List Raw :=
  let (done, last) := r.foldl lineStep ([], [])
  (if last = [] then done else last.reverse :: done).reverse

/-- blanks that stand between words -/
def isSpace (c : Char) : Bool :=
  c = ' ' || (9 ≤ c.toNat && c.toNat ≤ 13)

def words (r : Raw) : List Raw :=
  let (ws, last) := r.foldr (fun c (acc : List Raw × Raw) =>
    if isSpace c then (if acc.2 = [] then acc.1 else acc.2 :: acc.1, []) else (acc.1, c :: acc.2)) ([], [])
  if last = [] then ws else last :: ws

/-- the text brought to a width with blanks, in front of it or behind it -/
def pad (width : Nat) (behind : Bool) (r : Raw) : Raw :=
  let gap := List.replicate (width - r.length) ' '
  if behind then r ++ gap else gap ++ r

/-- the first place of one text in another: what is in front of it and what is behind it -/
def splitAt? (part : Raw) : Raw → Option (Raw × Raw)
  | [] => if part = [] then some ([], []) else none
  | c :: r =>
    if part.isPrefixOf (c :: r) then some ([], (c :: r).drop part.length)
    else (splitAt? part r).map fun p => (c :: p.1, p.2)

end Raw
end IncludeAudit
