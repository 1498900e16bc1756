/-
Decimals of a wanted length: a double rounded to a number of places or of digits, ties to the even neighbour. The
double counts with its exact value.

- `fixed`: places behind the point, `scientific`: one digit in front of it and a power of ten, `general`: whichever of
the two is shorter, without zeros at the end.
-/
import IncludeAudit.Decimal.Shortest

namespace IncludeAudit.Decimal

/-- the point on the grid of `10 ^ e` that is nearest -/
def Ratio.rounded (r : Ratio) (e : Int) : Nat :=
  let (n, up) := r.onGrid e
  if up then n + 1 else n

/-- the numeral of a number with zeros in front up to a length -/
def padded (length n : Nat) : Text :=
  let t := Text.ofNat n
  List.replicate (length - t.length) '0' ++ t

/-- the value of a finite double without its sign -/
def magnitudeOf (x : Float) : Ratio :=
  let d := Double.ofBits x.toBits
  Ratio.ofDyadic d.significand d.exponent

/-- a number with `places` digits behind the point -/
def fixedRatio (r : Ratio) (places : Nat) : Text :=
  let t := padded (places + 1) (r.rounded (-places))
  if places = 0 then t else t.take (t.length - places) ++ '.' :: t.drop (t.length - places)

/-- the leading `digits + 1` digits of a number, and the power of ten of the first one -/
def leading (r : Ratio) (digits : Nat) : Nat × Int :=
  if r.top = 0 then (0, 0)
  else
    let e := r.magnitude
    let e := if tenTo (digits + 1) ≤ r.rounded (e - digits) ∧ r.rounded (e + 1 - digits) ≠ 0 then e + 1 else e
    (r.rounded (e - digits), e)

/-- the power of ten with its sign and at least two digits -/
def exponentMark (mark : Char) (e : Int) : Text :=
  mark :: (if e < 0 then '-' else '+') :: padded 2 e.natAbs

/-- one digit in front of the point and `places` behind it -/
def scientificRatio (r : Ratio) (places : Nat) (mark : Char) : Text :=
  let (n, e) := leading r places
  let t := padded (places + 1) n
  t.take 1 ++ (if places = 0 then [] else '.' :: t.drop 1) ++ exponentMark mark e

/-- a decimal without zeros at its end, and without a point that nothing follows -/
def trimmed (t : Text) : Text :=
  if '.' ∈ t then
    let t := (t.reverse.dropWhile (· = '0')).reverse
    if t.getLast? = some '.' then t.dropLast else t
  else t

/-- `digits` digits in all, in the shorter form -/
def generalRatio (r : Ratio) (digits : Nat) (mark : Char) (keepZeros : Bool) : Text :=
  let digits := max digits 1
  let (n, e) := leading r (digits - 1)
  let trim (t : Text) : Text := if keepZeros then t else trimmed t
  if e < -4 ∨ digits ≤ e then
    let t := padded digits n
    let front := t.take 1 ++ (if digits = 1 then [] else '.' :: t.drop 1)
    trim front ++ exponentMark mark e
  else trim (fixedRatio r (digits - 1 - e).toNat)

end IncludeAudit.Decimal

/-!
## Binary significands

Binary numbers with a significand of a wanted length, such as the 64 bits of extended doubles: the nearest one to a
ratio, ties to the even neighbour, and its digits in base sixteen.

- `Ratio.binary`: the nearest number as `significand * 2 ^ exponent`, `hexadecimal`: its digits.
-/

namespace IncludeAudit.Decimal

/-- `n * 10 ^ e` -/
def Ratio.ofDecimal (n : Nat) (e : Int) : Ratio :=
  match e with
  | .ofNat k => ⟨n * tenTo k, 1⟩
  | .negSucc k => ⟨n, tenTo (k + 1)⟩

def Ratio.nearest (r : Ratio) : Nat :=
  let n := r.top / r.bottom
  let rest := 2 * (r.top % r.bottom)
  if r.bottom < rest ∨ (r.bottom = rest ∧ n % 2 = 1) then n + 1 else n

/-- the number over `2 ^ e` -/
def Ratio.scaled (r : Ratio) (e : Int) : Ratio :=
  ⟨r.top * twoTo (-e).toNat, r.bottom * twoTo e.toNat⟩

/-- the nearest number with `bits` bits: its significand, whose first bit is set, and its exponent -/
def Ratio.binary (r : Ratio) (bits : Nat) : Nat × Int :=
  if r.top = 0 then (0, 0)
  else
    let e : Int := (Nat.log2 r.top : Int) - Nat.log2 r.bottom - bits + 1
    let e := if (r.scaled e).top < twoTo (bits - 1) * (r.scaled e).bottom then e - 1 else e
    let n := (r.scaled e).nearest
    if n = twoTo bits then (n / 2, e + 1) else (n, e)

/-- the ratio rounded to a significand of `bits` bits -/
def Ratio.rounding (r : Ratio) (bits : Nat) : Ratio :=
  let (n, e) := r.binary bits
  .ofDyadic n e

/-- digits in base sixteen with a point behind the first `lead` bits, and a power of two -/
def hexadecimal (r : Ratio) (bits lead : Nat) (places : Option Nat) : Text :=
  let kept := lead + 4 * min ((bits - lead) / 4) (places.getD bits)
  let (n, e) := (r.rounding bits).binary kept
  let digits := Nat.toDigits 16 n
  let front := digits.take 1
  let part := if n = 0 then [] else digits.drop 1
  let part :=
    match places with
    | some k => part ++ List.replicate (k - part.length) '0'
    | none => (part.reverse.dropWhile (· = '0')).reverse
  let power : Int := if n = 0 then 0 else e + (kept - lead : Nat)
  let sign : Char := if power < 0 then '-' else '+'
  "0x".toList ++ front ++ (if part = [] then [] else '.' :: part) ++ 'p' :: sign :: Text.ofNat power.natAbs

end IncludeAudit.Decimal
