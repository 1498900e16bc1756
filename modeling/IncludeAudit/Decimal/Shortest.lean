/-
Shortest decimals of binary64 numbers: of all decimals that lie strictly nearer to a double than to its neighbours
(ends included when its significand is even), the one with the fewest digits, and of those the nearest.

- `Double.ofBits`: a finite positive double as `significand * 2 ^ exponent`.
- `shortest`: its digits and the power of ten of the last one.
-/
import IncludeAudit.Text

namespace IncludeAudit.Decimal

def twoTo (n : Nat) : Nat :=
  Nat.pow 2 n

def tenTo (n : Nat) : Nat :=
  Nat.pow 10 n

/-- a positive number `top / bottom` -/
structure Ratio where
  top : Nat
  bottom : Nat

/-- `n * 2 ^ e` -/
def Ratio.ofDyadic (n : Nat) (e : Int) : Ratio :=
  match e with
  | .ofNat k => ⟨n * twoTo k, 1⟩
  | .negSucc k => ⟨n, twoTo (k + 1)⟩

/-- a finite double without its sign -/
structure Double where
  significand : Nat
  exponent : Int
  deriving DecidableEq, Repr

/-- the fields of a bit pattern; the exponent of the smallest doubles is shared with the next range -/
def Double.ofBits (bits : UInt64) : Double :=
  let n : Nat := bits.toNat % twoTo 63
  let e : Nat := n / twoTo 52
  if e = 0 then ⟨n % twoTo 52, -1074⟩ else ⟨twoTo 52 + n % twoTo 52, Int.ofNat e - 1075⟩

/-- the ends of the interval of numbers that round to a double, and whether the ends belong to it -/
structure Span where
  low : Ratio
  high : Ratio
  closed : Bool

/-- half a step on both sides, a quarter below a power of two -/
def Double.span (d : Double) : Span :=
  let below := if d.significand = twoTo 52 ∧ d.exponent ≠ -1074 then 1 else 2
  { low := .ofDyadic (4 * d.significand - below) (d.exponent - 2)
    high := .ofDyadic (4 * d.significand + 2) (d.exponent - 2)
    closed := d.significand % 2 = 0 }

/-- `n * 10 ^ e` lies in the span -/
def Span.holds (s : Span) (n : Nat) (e : Int) : Bool :=
  let up := tenTo e.toNat
  let down := tenTo (-e).toNat
  let low := (s.low.top * down, n * up * s.low.bottom)
  let high := (n * up * s.high.bottom, s.high.top * down)
  if s.closed then low.1 ≤ low.2 && high.1 ≤ high.2 else low.1 < low.2 && high.1 < high.2

/-- the power of ten of the leading digit -/
def Ratio.magnitude (r : Ratio) : Int :=
  if r.bottom ≤ r.top then ((Nat.toDigits 10 (r.top / r.bottom)).length : Int) - 1
  else
    let c := (r.bottom + r.top - 1) / r.top
    Int.negOfNat (Nat.toDigits 10 (c - 1)).length

/-- the two neighbours of a number on the grid of `10 ^ e`: the lower one, and whether the upper one is nearer -/
def Ratio.onGrid (r : Ratio) (e : Int) : Nat × Bool :=
  let top := r.top * tenTo (-e).toNat
  let bottom := r.bottom * tenTo e.toNat
  let n := top / bottom
  let rest := 2 * (top % bottom)
  (n, bottom < rest || (bottom = rest && n % 2 = 1))

/-- the first grid, from coarse to fine, with a point in the span; the seventeenth digit always gives one -/
def search (r : Ratio) (s : Span) : (tries : Nat) → (e : Int) → Nat × Int
  | 0, e => ((r.onGrid e).1, e)
  | tries + 1, e =>
    let (n, upIsNearer) := r.onGrid e
    let first := if upIsNearer then n + 1 else n
    let second := if upIsNearer then n else n + 1
    if 0 < first ∧ s.holds first e then (first, e)
    else if 0 < second ∧ s.holds second e then (second, e)
    else search r s tries (e - 1)

/-- the digits of a positive double as a number, and the power of ten of its last digit -/
def shortest (d : Double) : Nat × Int :=
  let r := Ratio.ofDyadic d.significand d.exponent
  search r d.span 18 (r.magnitude + 1)

end IncludeAudit.Decimal
