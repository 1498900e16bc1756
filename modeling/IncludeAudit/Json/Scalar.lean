/-
Reading words, strings and numbers of a JSON document. Strings are read one character at a time by an automaton that
also reads escapes, whose four hex digits are counted in bytes. A number keeps the digits that fit into 64 bits,
counts the others, and is then multiplied or divided by one power of ten.
-/
import IncludeAudit.Decimal.Shortest
import IncludeAudit.Json.Cursor

namespace IncludeAudit.Json

/-! ## Words -/

/-- reads the rest of `true`, `false` or `null`; a wrong byte is read as well -/
def readWord : Text → Cursor → Except Fault Cursor
  | [], c => .ok c
  | x :: word, c =>
    match c.rest with
    | [] => .error (c.fault .endInValue)
    | y :: r =>
      if y = x then readWord word ⟨r, c.offset + y.utf8Size⟩ else .error ⟨.expectedIdent, c.offset + 1⟩

/-! ## Strings -/

def hexDigit? (x : Char) : Option Nat :=
  if '0' ≤ x ∧ x ≤ '9' then some (x.toNat - 48)
  else if 'a' ≤ x ∧ x ≤ 'f' then some (x.toNat - 87)
  else if 'A' ≤ x ∧ x ≤ 'F' then some (x.toNat - 55)
  else none

/-- four hex digits under way: the bytes still missing, and the value unless a digit was wrong -/
structure Hex where
  missing : Nat := 4
  value : Option Nat := some 0
  deriving DecidableEq, Repr

/-- one more character in the place of a hex digit -/
def Hex.push (h : Hex) (x : Char) : Hex :=
  { missing := h.missing - x.utf8Size
    value := h.value.bind fun v => (hexDigit? x).map (v * 16 + ·) }

/-- where in a string the next character stands -/
inductive InString
  | plain
  | escape
  /-- hex digits of an escape, behind the first half of a pair if there was one -/
  | hex (first : Option Nat) (h : Hex)
  /-- behind the first half of a pair -/
  | paired (first : Nat)
  /-- behind the backslash of the second half -/
  | pairedEscape (first : Nat)
  deriving DecidableEq, Repr

/-- the character that a letter behind a backslash stands for -/
def unescape? : Char → Option Char
  | '"' => some '"'
  | '\\' => some '\\'
  | '/' => some '/'
  | 'b' => some '\x08'
  | 'f' => some '\x0c'
  | 'n' => some '\n'
  | 'r' => some '\r'
  | 't' => some '\t'
  | _ => none

/-- the first half of a surrogate pair -/
def isHigh (n : Nat) : Bool :=
  0xD800 ≤ n && n < 0xDC00

/-- the second half of a surrogate pair -/
def isLow (n : Nat) : Bool :=
  0xDC00 ≤ n && n < 0xE000

/-- what four hex digits add to a string, or the state that waits for the second half of a pair -/
def unit (first : Option Nat) (n : Nat) : Except Cause (Option Char × InString) :=
  match first with
  | some m =>
    if isLow n then .ok (some (Char.ofNat (0x10000 + (m - 0xD800) * 0x400 + (n - 0xDC00))), .plain)
    else .error .loneSurrogate
  | none =>
    if isLow n then .error .loneSurrogate
    else if isHigh n then .ok (none, .paired n)
    else .ok (some (Char.ofNat n), .plain)

/-- reads a string behind its opening quote -/
def readStringFrom : InString → (offset : Nat) → (before : Text) → Text → Except Fault (Behind Text)
  | .hex _ _, offset, _, [] => .error ⟨.endInString, offset⟩
  | _, offset, _, [] => .error ⟨.endInString, offset⟩
  | .plain, offset, before, x :: r =>
    if x = '"' then .ok (before.reverse, ⟨r, offset + 1⟩)
    else if x = '\\' then readStringFrom .escape (offset + 1) before r
    else if x.toNat < 0x20 then .error ⟨.controlCharacter, offset + 1⟩
    else readStringFrom .plain (offset + x.utf8Size) (x :: before) r
  | .escape, offset, before, x :: r =>
    if x = 'u' then readStringFrom (.hex none {}) (offset + 1) before r
    else
      match unescape? x with
      | some y => readStringFrom .plain (offset + 1) (y :: before) r
      | none => .error ⟨.invalidEscape, offset + 1⟩
  | .hex first h, offset, before, x :: r =>
    let h' := h.push x
    if 0 < h'.missing then readStringFrom (.hex first h') (offset + x.utf8Size) before r
    else
      match h'.value with
      | none => .error ⟨.invalidEscape, offset + h.missing⟩
      | some n =>
        match unit first n with
        | .error cause => .error ⟨cause, offset + 1⟩
        | .ok (some y, mode) => readStringFrom mode (offset + 1) (y :: before) r
        | .ok (none, mode) => readStringFrom mode (offset + 1) before r
  | .paired first, offset, before, x :: r =>
    if x = '\\' then readStringFrom (.pairedEscape first) (offset + 1) before r
    else .error ⟨.endOfEscape, offset + 1⟩
  | .pairedEscape first, offset, before, x :: r =>
    if x = 'u' then readStringFrom (.hex (some first) {}) (offset + 1) before r
    else .error ⟨.endOfEscape, offset + 1⟩

def readString (c : Cursor) : Except Fault (Behind Text) :=
  readStringFrom .plain c.offset [] c.rest

/-- moves over a string behind its opening quote; surrogates need no partner -/
def skipStringFrom : InString → (offset : Nat) → Text → Except Fault Cursor
  | _, offset, [] => .error ⟨.endInString, offset⟩
  | .escape, offset, x :: r =>
    if x = 'u' then skipStringFrom (.hex none {}) (offset + 1) r
    else if (unescape? x).isSome then skipStringFrom .plain (offset + 1) r
    else .error ⟨.invalidEscape, offset + 1⟩
  | .hex first h, offset, x :: r =>
    let h' := h.push x
    if 0 < h'.missing then skipStringFrom (.hex first h') (offset + x.utf8Size) r
    else if h'.value.isNone then .error ⟨.invalidEscape, offset + h.missing⟩
    else skipStringFrom .plain (offset + 1) r
  | _, offset, x :: r =>
    if x = '"' then .ok ⟨r, offset + 1⟩
    else if x = '\\' then skipStringFrom .escape (offset + 1) r
    else if x.toNat < 0x20 then .error ⟨.controlCharacter, offset⟩
    else skipStringFrom .plain (offset + x.utf8Size) r

def skipString (c : Cursor) : Except Fault Cursor :=
  skipStringFrom .plain c.offset c.rest

/-! ## Numbers -/

/-- the decimal digits in front, and the cursor behind them -/
def takeDigits (c : Cursor) : List Nat × Cursor :=
  let ds := c.rest.takeWhile Char.isDigit
  (ds.map fun d => d.toNat - 48, ⟨c.rest.drop ds.length, c.offset + ds.length⟩)

/-- digits behind a number as far as it stays below `limit`, and how many did not fit -/
def absorb (limit : Nat) : Nat → List Nat → Nat × Nat
  | n, [] => (n, 0)
  | n, d :: ds => if limit ≤ n * 10 + d then (n, ds.length + 1) else absorb limit (n * 10 + d) ds

/-- a number as it is read: an integer that fits into 64 bits, else a double -/
inductive Number
  | integer (n : Int)
  | floating (negative : Bool) (x : Float)

/-- one number divided over and over by the largest power of ten, for exponents that no table holds -/
def scaleDown : (fuel : Nat) → Float → (e : Nat) → Float
  | 0, x, _ => x
  | fuel + 1, x, e =>
    if e ≤ 308 then x / Float.ofScientific 1 false e
    else if x == 0 then x
    else scaleDown fuel (x / Float.ofScientific 1 false 308) (e - 308)

/-- `n * 10 ^ e` in one multiplication or division, `none` when it is too large -/
def scale (n : Nat) (e : Int) : Option Float :=
  let x := (UInt64.ofNat n).toFloat
  match e with
  | .ofNat k =>
    if 308 < k then if n = 0 then some x else none
    else
      let y := x * Float.ofScientific 1 false k
      if y.isInf then none else some y
  | .negSucc k => some (scaleDown 5 x (k + 1))

/-- the double at a cursor, once its digits and its exponent are known -/
def finishFloat (negative : Bool) (n : Nat) (e : Int) (c : Cursor) : Except Fault (Behind Number) :=
  match scale n e with
  | some x => .ok (.floating negative x, c)
  | none => .error (c.fault .numberOutOfRange)

/-- the sign of an exponent, a plus when there is none -/
def takeSign (c : Cursor) : Bool × Cursor :=
  match c.rest with
  | '+' :: r => (false, ⟨r, c.offset + 1⟩)
  | '-' :: r => (true, ⟨r, c.offset + 1⟩)
  | _ => (false, c)

/-- the largest exponent that is still counted, and one more -/
def exponentLimit : Nat := Decimal.twoTo 31

def readExponent (negative : Bool) (n : Nat) (e : Int) (c : Cursor) : Except Fault (Behind Number) :=
  let (down, c) := takeSign c
  match c.rest with
  | [] => .error (c.fault .endInValue)
  | x :: _ =>
    if x.isDigit = false then .error ⟨.invalidNumber, c.offset + 1⟩
    else
      let (ds, after) := takeDigits c
      let (k, dropped) := absorb exponentLimit 0 ds
      if 0 < dropped then
        if n ≠ 0 ∧ down = false then .error ⟨.numberOutOfRange, after.offset - dropped + 1⟩
        else .ok (.floating negative 0, after)
      else finishFloat negative n (if down then e - k else e + k) after

/-- reads the digits behind a point -/
def readFraction (negative : Bool) (n : Nat) (e : Int) (c : Cursor) : Except Fault (Behind Number) :=
  let (ds, after) := takeDigits c
  let (m, dropped) := absorb (Decimal.twoTo 64) n ds
  let e := e - ((ds.length - dropped : Nat) : Int)
  if ds.isEmpty then
    .error (after.faultAtNext (if after.rest.isEmpty then .endInValue else .invalidNumber))
  else
    match after.rest with
    | x :: r =>
      if x = 'e' ∨ x = 'E' then readExponent negative m e ⟨r, after.offset + 1⟩
      else finishFloat negative m e after
    | [] => finishFloat negative m e after

/-- the number whose digits before any point or exponent are known -/
def readNumberTail (negative : Bool) (n dropped : Nat) (c : Cursor) : Except Fault (Behind Number) :=
  match c.rest with
  | '.' :: r => readFraction negative n dropped ⟨r, c.offset + 1⟩
  | 'e' :: r => readExponent negative n dropped ⟨r, c.offset + 1⟩
  | 'E' :: r => readExponent negative n dropped ⟨r, c.offset + 1⟩
  | _ =>
    if 0 < dropped then finishFloat negative n dropped c
    else if negative = false then .ok (.integer n, c)
    else if n = 0 ∨ Decimal.twoTo 63 < n then .ok (.floating true (UInt64.ofNat n).toFloat, c)
    else .ok (.integer (-n), c)

def readNumber (negative : Bool) (c : Cursor) : Except Fault (Behind Number) :=
  match c.rest with
  | [] => .error (c.fault .endInValue)
  | '0' :: r =>
    let after : Cursor := ⟨r, c.offset + 1⟩
    if (r.head?.any Char.isDigit) then .error (after.faultAtNext .invalidNumber)
    else readNumberTail negative 0 0 after
  | x :: _ =>
    if x.isDigit = false then .error ⟨.invalidNumber, c.offset + 1⟩
    else
      let (ds, after) := takeDigits c
      let (n, dropped) := absorb (Decimal.twoTo 64) 0 ds
      readNumberTail negative n dropped after

/-- moves over an exponent behind its letter -/
def skipExponent (c : Cursor) : Except Fault Cursor :=
  let (_, c) := takeSign c
  match c.rest with
  | [] => .error (c.fault .invalidNumber)
  | x :: _ => if x.isDigit then .ok (takeDigits c).2 else .error ⟨.invalidNumber, c.offset + 1⟩

/-- moves over what stands behind the digits before any point or exponent -/
def skipNumberTail (c : Cursor) : Except Fault Cursor :=
  match c.rest with
  | '.' :: r =>
    let (ds, after) := takeDigits ⟨r, c.offset + 1⟩
    if ds.isEmpty then .error (after.faultAtNext .invalidNumber)
    else
      match after.rest with
      | x :: r => if x = 'e' ∨ x = 'E' then skipExponent ⟨r, after.offset + 1⟩ else .ok after
      | [] => .ok after
  | 'e' :: r => skipExponent ⟨r, c.offset + 1⟩
  | 'E' :: r => skipExponent ⟨r, c.offset + 1⟩
  | _ => .ok c

def skipNumber (c : Cursor) : Except Fault Cursor :=
  match c.rest with
  | [] => .error (c.fault .invalidNumber)
  | '0' :: r =>
    let after : Cursor := ⟨r, c.offset + 1⟩
    if (r.head?.any Char.isDigit) then .error (after.faultAtNext .invalidNumber) else skipNumberTail after
  | x :: _ => if x.isDigit then skipNumberTail (takeDigits c).2 else .error ⟨.invalidNumber, c.offset + 1⟩

/-! ## The text of a number -/

/-- how a double is written: in full while its leading digit stands between these powers of ten -/
structure FloatLayout where
  lowest : Int
  highest : Int

/-- in full from `0.00001` up to sixteen digits before the point, else with a signed exponent -/
def floatLayout : FloatLayout := ⟨-5, 15⟩

/-- the digits of a number without the zeros at their end, and how many there were -/
def dropZeros : (fuel : Nat) → Nat → Nat × Nat
  | 0, n => (n, 0)
  | fuel + 1, n =>
    if n % 10 = 0 ∧ n ≠ 0 then
      let (m, k) := dropZeros fuel (n / 10)
      (m, k + 1)
    else (n, 0)

/-- the text of a finite double without its sign -/
def writeMagnitude (layout : FloatLayout) (x : Float) : Text :=
  if x == 0 then "0.0"
  else
    let (n, e) := Decimal.shortest (Decimal.Double.ofBits x.toBits)
    let (n, zeros) := dropZeros 20 n
    let ds : Text := Text.ofNat n
    let lead : Int := e + zeros + ds.length - 1
    if lead < layout.lowest ∨ layout.highest < lead then
      let mantissa : Text :=
        match ds with
        | d :: [] => [d]
        | d :: more => d :: '.' :: more
        | [] => []
      mantissa ++ 'e' :: (if lead < 0 then '-' else '+') :: Text.ofNat lead.natAbs
    else if lead < 0 then "0." ++ List.replicate (lead.natAbs - 1) '0' ++ ds
    else
      let whole := lead.toNat + 1
      if ds.length ≤ whole then ds ++ List.replicate (whole - ds.length) '0' ++ ".0"
      else ds.take whole ++ '.' :: ds.drop whole

/-- how a number is named in a message -/
def Number.found : Number → Found
  | .integer n => .integer n
  | .floating negative x =>
    .floating ((if negative then (['-'] : Text) else []) ++ writeMagnitude floatLayout x)

end IncludeAudit.Json
