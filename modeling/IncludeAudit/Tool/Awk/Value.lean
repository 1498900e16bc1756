/-
Values of records and variables. A value is a number or a text, and text from outside counts as a number when it looks
like one.

- `Value.float`, `Value.shown`: a value as a number or as text, `Value.order`: how two values compare.
-/
import IncludeAudit.Tool.Format

namespace IncludeAudit.Tool.Awk

inductive Value
  | unset
  | number (x : Float)
  | text (t : Raw)
  /-- text from outside -/
  | given (t : Raw)
  deriving Repr, Inhabited

/-- the number at the start of a text, zero when there is none -/
def numberIn (t : Raw) : Float :=
  match floatPrefix t with
  | some (x, _) => x
  | none => 0

/-- the number that a whole text spells, with blanks around it -/
def numberOf? (t : Raw) : Option Float :=
  let t := t.dropWhile Raw.isSpace
  let t := (t.reverse.dropWhile Raw.isSpace).reverse
  let starts : Bool := t.head?.any fun c => c.isDigit || c = '+' || c = '-' || c = '.'
  let ends : Bool := t.getLast?.any fun c => c.isDigit || c = '.'
  if starts ∧ ends then
    match floatPrefix t with
    | some (x, []) => some x
    | _ => none
  else none

def integer? (x : Float) : Option Int :=
  if x.isNaN ∨ x.isInf then none
  else
    let r := Decimal.magnitudeOf x
    if r.top % r.bottom = 0 then
      let n : Int := r.top / r.bottom
      some (if x < 0 then -n else n)
    else none

/-- a number without what is behind its point -/
def truncated (x : Float) : Int :=
  if x.isNaN ∨ x.isInf then 0
  else
    let r := Decimal.magnitudeOf x
    let n : Int := r.top / r.bottom
    if x < 0 then -n else n

/-- a number as a machine integer -/
def clamped (x : Float) : Int :=
  let high : Int := 0x7fffffffffffffff
  if x.isInf then (if x < 0 then -high else high) else max (-high) (min high (truncated x))

/-- a number by a format for numbers with a point -/
def formatted (format : Raw) (x : Float) : Raw :=
  (Format.pieces none "eEfFgGdixXouc" "hlL" (format.length + 1) format).flatMap fun p =>
    match p with
    | .text t => t
    | .directive d => if d.letter ∈ ("eEfFgG" : Raw) then d.showFloat x else d.showInt (clamped x)
    | .unknown r => r
    | _ => []

/-- a number as text: integers have no point, others go by a format -/
def numeral (format : Raw) (x : Float) : Raw :=
  if x.isNaN then "-nan"
  else
  match integer? x with
  | some n =>
    if n < -0x8000000000000000 then formatted format x
    else if n = 0x10000000000000000 then Text.ofInt (n - 1)
    else if 0x10000000000000000 < n then formatted format x
    else Text.ofInt n
  | none => formatted format x

namespace Value

def float : Value → Float
  | .unset => 0
  | .number x => x
  | .text t | .given t => numberIn t

def shown (format : Raw) : Value → Raw
  | .unset => []
  | .number x => numeral format x
  | .text t | .given t => t

def holds : Value → Bool
  | .unset => false
  | .number x => x != 0
  | .text t => t ≠ []
  | .given t =>
    match numberOf? t with
    | some x => x != 0
    | none => t ≠ []

/-- the number that a value counts as in a comparison, if it counts as one -/
def asNumber? : Value → Option Float
  | .unset => some 0
  | .number x => some x
  | .text _ => none
  | .given t => numberOf? t

/-- the order of two values: as numbers when both count as numbers, and else as texts -/
def order (format : Raw) (a b : Value) : Ordering :=
  match asNumber? a, asNumber? b with
  | some x, some y => if x < y then .lt else if y < x then .gt else .eq
  | _, _ =>
    let s := a.shown format
    let t := b.shown format
    if s = t then .eq else if Raw.le s t then .lt else .gt

def ofBool (b : Bool) : Value :=
  .number (if b then 1 else 0)

/-- a natural number as a value -/
def ofNat (n : Nat) : Value :=
  .number (Float.ofNat n)

end Value

/-- `n / d` for a power of two, when a double holds it -/
def dyadic (n d : Nat) : Float :=
  if n = 0 then 0
  else
    let k := Nat.gcd n d
    Float.scaleB (Float.ofNat (n / k)) (-(Int.ofNat (d / k).log2))

/-- what is left when one number is taken from another as often as it goes, with the sign of the first -/
def remainder (x y : Float) : Float :=
  if x.isNaN ∨ y.isNaN ∨ x.isInf ∨ y == 0 then 0.0 / 0.0
  else if y.isInf then x
  else
    let a := Decimal.magnitudeOf x
    let b := Decimal.magnitudeOf y
    let r := dyadic (a.top * b.bottom % (b.top * a.bottom)) (a.bottom * b.bottom)
    if x < 0 then -r else r

end IncludeAudit.Tool.Awk
