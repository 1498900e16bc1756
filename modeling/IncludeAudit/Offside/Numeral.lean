/-
Numbers as text and back, and the arithmetic of whole numbers that scripts use.

- `Numeral.float`, `Numeral.complex`: numbers in as few digits as tell them apart.
- `Numeral.int?`, `Numeral.float?`: the number that a text spells.
-/
import IncludeAudit.Decimal.Fixed
import IncludeAudit.Offside.Syntax
import IncludeAudit.Text.Letters
import IncludeAudit.Tool.Format

namespace IncludeAudit.Offside.Numeral

/-- the number has a minus sign, a zero as well -/
def isNegative (x : Float) : Bool :=
  x.toBits.toNat ≥ 0x8000000000000000

/-- a number with a point in as few digits as tell it apart; with `pointed` there is always a point -/
def shortest (pointed : Bool) (x : Float) : Text :=
  if x.isNaN then "nan"
  else
    let sign : Text := if isNegative x then ['-'] else []
    if x.isInf then sign ++ "inf"
    else if x == 0 then sign ++ (if pointed then "0.0" else "0" : Text)
    else
      let (n, e) := Decimal.shortest (Decimal.Double.ofBits x.abs.toBits)
      let ds := ((Text.ofNat n).reverse.dropWhile (· = '0')).reverse
      let point : Int := (Text.ofNat n).length + e
      if -4 < point ∧ point ≤ 16 then
        if point ≤ 0 then sign ++ "0." ++ List.replicate point.natAbs '0' ++ ds
        else
          let k := point.toNat
          let whole := ds.take k ++ List.replicate (k - ds.length) '0'
          let part : Text := if ds.length ≤ k then (if pointed then ".0" else []) else '.' :: ds.drop k
          sign ++ whole ++ part
      else
        let e := point - 1
        let front := if ds.length = 1 then ds else ds.take 1 ++ '.' :: ds.drop 1
        sign ++ front ++ Decimal.exponentMark 'e' e

/-- a number with a point -/
def float (x : Float) : Text :=
  shortest true x

/-- a number with an imaginary part -/
def complex (re im : Float) : Text :=
  let imaginary := shortest false im ++ ['j']
  if re == 0 ∧ !isNegative re then imaginary
  else
    let plus : Text := if isNegative im ∧ !im.isNaN then [] else ['+']
    '(' :: shortest false re ++ plus ++ imaginary ++ [')']

/-- blanks at both ends taken away -/
def trimmed (t : Text) : Text :=
  ((t.dropWhile Text.isBlankChar).reverse.dropWhile Text.isBlankChar).reverse

/-- low lines that do not stand between two digits -/
def hasLooseLine (isDigit : Char → Bool) : (before : Option Char) → Text → Bool
  | _, [] => false
  | before, '_' :: r =>
    !(before.any isDigit) || !(r.head?.any isDigit) || hasLooseLine isDigit (some '_') r
  | _, c :: r => hasLooseLine isDigit (some c) r

/-- the value of a digit or a letter -/
def digit? (base : Nat) (c : Char) : Option Nat :=
  let c := c.toLower
  let n :=
    match Text.digitValue? c with
    | some n => n
    | none => if 'a' ≤ c ∧ c ≤ 'z' then c.toNat - 87 else 99
  if n < base then some n else none

def int? (base : Nat) (t : Text) : Option Int :=
  let t := trimmed t
  let (negative, t) : Bool × Text :=
    match t with
    | '-' :: r => (true, r)
    | '+' :: r => (false, r)
    | r => (false, r)
  let marks : List (Text × Nat) := [("0x", 16), ("0o", 8), ("0b", 2)]
  let low := t.map Char.toLower
  let marked? := (marks.find? fun m => m.1.isPrefixOf low).filter fun m => base = m.2 || base = 0
  let (base, low, isMarked) : Nat × Text × Bool :=
    match marked? with
    | some (_, b) => (b, (low.drop 2), true)
    | none => (if base = 0 then 10 else base, low, base != 0)
  let low := if marked?.isSome ∧ low.head? = some '_' then low.tail else low
  let clean := low.filter (· ≠ '_')
  let padded : Bool := !isMarked && clean.head? = some '0' && clean.any fun c => c ≠ '0'
  if clean = [] ∨ padded ∨ clean.any (fun c => (digit? base c).isNone) ∨
      hasLooseLine (fun c => (digit? base c).isSome) none low then none
  else
    let n : Nat := clean.foldl (fun n c => n * base + (digit? base c).getD 0) 0
    some (if negative then -(n : Int) else n)

/-- the number with a point that a text spells -/
def float? (t : Text) : Option Float :=
  let t := (trimmed t).map fun c =>
    match Text.digitValue? c with
    | some n => Char.ofNat (48 + n)
    | none => c
  if hasLooseLine Char.isDigit none t then none
  else
    let t := t.filter (· ≠ '_')
    if t.any fun c => c = 'x' || c = 'X' || c = '(' then none
    else if t.head?.any Raw.isSpace then none
    else
      match Tool.floatPrefix t with
      | some (x, []) => some x
      | _ => none

/-- the whole part of a number -/
def truncated (x : Float) : Int :=
  let r := Decimal.magnitudeOf x
  let n : Int := (r.top / r.bottom : Nat)
  if x < 0 then -n else n

/-- the number with a point that is nearest to a quotient -/
def quotient (negative : Bool) (top bottom : Nat) : Float :=
  if top = 0 then (if negative then -0.0 else 0.0)
  else
    -- at least 64 bits of the quotient, and whether something is left
    let shift : Int := 66 + (Nat.log2 bottom : Int) - (Nat.log2 top : Int)
    let a := if 0 ≤ shift then top * Nat.pow 2 shift.toNat else top
    let b := if 0 ≤ shift then bottom else bottom * Nat.pow 2 shift.natAbs
    let n := a / b
    let size : Int := (Nat.log2 n : Int) - shift
    -- the smallest numbers have fewer digits
    let bits : Int := if size < -1022 then 53 - (-1022 - size) else 53
    let drop : Nat := ((Nat.log2 n + 1 : Nat) - bits : Int).toNat
    let unit := Nat.pow 2 drop
    let kept := n / unit
    let rest := 2 * (n % unit)
    let up : Bool := unit < rest || (rest = unit && (a % b ≠ 0 || kept % 2 = 1))
    let x := Float.scaleB (Float.ofNat (kept + if up then 1 else 0)) ((drop : Int) - shift)
    if negative then -x else x

/-- an integer as a number with a point; none when it is too great -/
def ofInt? (n : Int) : Option Float :=
  let x := Float.ofInt n
  if x.isInf then none else some x

/-- an integer by bits, in so many of them -/
def bitsOf (width : Nat) (n : Int) : Nat :=
  (n % (Nat.pow 2 width : Nat)).toNat

/-- an operation on the bits of two integers -/
def bitwise (f : Nat → Nat → Nat) (a b : Int) : Int :=
  let width := max (Nat.log2 a.natAbs) (Nat.log2 b.natAbs) + 2
  let n := f (bitsOf width a) (bitsOf width b)
  if Nat.pow 2 (width - 1) ≤ n then (n : Int) - (Nat.pow 2 width : Nat) else n

/-- a power of a number, of which only what is left by another one counts -/
def powerMod (base exponent m : Nat) : (fuel : Nat) → (acc : Nat) → Nat
  | 0, acc => acc
  | fuel + 1, acc =>
    if exponent = 0 then acc % m
    else powerMod (base * base % m) (exponent / 2) m fuel (if exponent % 2 = 1 then acc * base % m else acc)

/-- the number of bits of a number -/
def bitLength (n : Nat) : Nat :=
  if n = 0 then 0 else Nat.log2 n + 1

/-- the whole part of a square root, from above -/
def root : (fuel : Nat) → (n x : Nat) → Nat
  | 0, _, x => x
  | fuel + 1, n, x =>
    let y := (x + n / x) / 2
    if y < x then root fuel n y else x

/-- the whole part of a square root -/
def sqrt (n : Nat) : Nat :=
  if n = 0 then 0 else root (bitLength n + 10) n (Nat.pow 2 ((bitLength n + 1) / 2))

/-- a number rounded to places, ties to the even neighbour -/
def rounded (x : Float) (places : Int) : Float :=
  if x.isNaN ∨ x.isInf ∨ 330 < places then x
  else
    let r := Decimal.magnitudeOf x
    let n := r.rounded (-places)
    let y := if 0 ≤ places then Tool.toFloat n (-places) else Tool.toFloat n (-places)
    if isNegative x then -y else y

/-- a number rounded to an integer, ties to the even neighbour -/
def nearest (x : Float) : Int :=
  let n : Int := (Decimal.magnitudeOf x).rounded 0
  if x < 0 then -n else n

/-- two integers whose quotient is a number -/
def ratio (x : Float) : Int × Nat :=
  let r := Decimal.magnitudeOf x
  let g := Nat.gcd r.top r.bottom
  let n : Int := (r.top / g : Nat)
  (if x < 0 then -n else n, r.bottom / g)

/-- a number in base sixteen -/
def hex (x : Float) : Text :=
  let sign : Text := if isNegative x then ['-'] else []
  if x.isNaN then "nan" else if x.isInf then sign ++ "inf"
  else
    let bits := x.toBits.toNat % 0x8000000000000000
    let e : Nat := bits / 0x10000000000000
    let m := bits % 0x10000000000000
    if bits = 0 then sign ++ "0x0.0p+0"
    else
      let ds := Nat.toDigits 16 m
      let ds := List.replicate (13 - ds.length) '0' ++ ds
      let exponent : Int := if e = 0 then -1022 else (e : Int) - 1023
      let mark : Text := if exponent < 0 then ['-'] else ['+']
      sign ++ "0x" ++ (if e = 0 then ['0'] else ['1']) ++ '.' :: ds ++ 'p' :: mark ++ Text.ofNat exponent.natAbs

end IncludeAudit.Offside.Numeral
