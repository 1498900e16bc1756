/-
Functions of numbers: roots, powers, angles, divisors and sums without loss.

- `Reckoning.function`: a function by its name, `reckoningLibrary`: the module that holds them.
-/
import IncludeAudit.Offside.Library.Basic

namespace IncludeAudit.Offside.Reckoning

/-! ## Numbers that arguments are -/

/-- the number with a point that a value stands for -/
def realOf (v : Value) : Eval Float := do
  let w ← get
  match float? w v with
  | some x => return x
  | none =>
    match integer? w v with
    | some n => floatOfInt n
    | none =>
      match ← method? v "__float__" with
      | some f =>
        match float? (← get) (← call f []) with
        | some x => return x
        | none => mistyped ((← kindOf v) ++ ".__float__ returned non-float")
      | none =>
        match ← method? v "__index__" with
        | some f =>
          match integer? (← get) (← call f []) with
          | some n => floatOfInt n
          | none => mistyped "__index__ returned non-int"
        | none => mistyped ("must be real number, not " ++ (← kindOf v))

/-- the argument is not one that the function has a value for -/
def outside {α : Type} : Eval α :=
  misvalued "math domain error"

def tooGreat {α : Type} : Eval α :=
  raise .overflowError "math range error"

/-- a value that comes of `x`, or a complaint; a value without bounds is too great, or there is none -/
def checked (x y : Float) (grows : Bool) : Eval Value := do
  if y.isNaN ∧ !x.isNaN then outside
  else if y.isInf ∧ x.isFinite then
    if grows then tooGreat else outside
  else return .float y

/-! ## Functions of one number -/

/-- `exp x - 1`, also close to zero -/
def growth (x : Float) : Float :=
  let u := Float.exp x
  if u == 1.0 then x
  else
    let d := u - 1.0
    if d == -1.0 ∨ u.isInf then d else d * x / Float.log u

/-- `log (1 + x)`, also close to zero -/
def logNear (x : Float) : Float :=
  let u := 1.0 + x
  if u == 1.0 then x else if u.isInf then u else Float.log u * x / (u - 1.0)

/-- functions of one number: whether their values have no bounds where the argument has -/
def simple? (name : String) : Option ((Float → Float) × Bool) :=
  match name with
  | "acos" => some (Float.acos, false)
  | "acosh" => some (Float.acosh, false)
  | "asin" => some (Float.asin, false)
  | "asinh" => some (Float.asinh, false)
  | "atan" => some (Float.atan, false)
  | "atanh" => some (Float.atanh, false)
  | "cbrt" => some (Float.cbrt, false)
  | "cos" => some (Float.cos, false)
  | "cosh" => some (Float.cosh, true)
  | "exp" => some (Float.exp, true)
  | "exp2" => some (Float.exp2, true)
  | "expm1" => some (growth, true)
  | "fabs" => some (Float.abs, false)
  | "log1p" => some (logNear, false)
  | "sin" => some (Float.sin, false)
  | "sinh" => some (Float.sinh, true)
  | "sqrt" => some (Float.sqrt, false)
  | "tan" => some (Float.tan, false)
  | "tanh" => some (Float.tanh, false)
  | _ => none

/-- a logarithm of a value, of a number as great as it may be -/
def logOf (log : Float → Float) (v : Value) : Eval Float := do
  match integer? (← get) v with
  | some n =>
    if n ≤ 0 then outside
    match Numeral.ofInt? n with
    | some x => return log x
    | none =>
      let shift := Numeral.bitLength n.natAbs - 64
      return log (Float.ofNat (n.natAbs / Nat.pow 2 shift)) + Float.ofNat shift * log 2.0
  | none =>
    let x ← realOf v
    if x.isNaN then return x
    if x ≤ 0 then outside
    return log x

/-- a whole number near a value, by the method of a class, or by a way to cut off what is behind the point -/
def wholeNear (method : Text) (cut : Float → Float) (v : Value) : Eval Value := do
  match integer? (← get) v with
  | some n => return .int n
  | none =>
    match float? (← get) v with
    | some x => return .int (← wholePart (cut x))
    | none =>
      match ← method? v method with
      | some f => call f []
      | none =>
        if method = ("__trunc__" : Text) then
          mistyped ("type " ++ (← kindOf v) ++ " doesn't define __trunc__ method")
        else return .int (← wholePart (cut (← realOf v)))

/-! ## Functions of several numbers -/

def powerOfReals (x y : Float) : Eval Value := do
  let z := Float.pow x y
  if z.isNaN ∧ !x.isNaN ∧ !y.isNaN then outside
  else if z.isInf ∧ x.isFinite ∧ y.isFinite then
    if x == 0 then outside else tooGreat
  else return .float z

/-- the nearest number with a point to `n * 2 ^ e` -/
def dyadic (negative : Bool) (n : Nat) (e : Int) : Float :=
  if 0 ≤ e then Numeral.quotient negative (n * Nat.pow 2 e.toNat) 1 else Numeral.quotient negative n (Nat.pow 2 e.natAbs)

/-- what is left of a number behind the multiple of another one that is nearest to it -/
def restFromNearest (x y : Float) : Float :=
  if y.isInf then x
  else
    let r := floatRest x.abs y.abs
    let half := y.abs - r
    -- the quotient is odd when two steps leave something else
    let isOdd : Bool := floatRest x.abs (2.0 * y.abs) != r
    let z := if r < half then r else if half < r then -half else if isOdd then -half else r
    if Numeral.isNegative x then -z else z

/-- a number as a whole number of the smallest steps that there are -/
def steps (x : Float) : Int :=
  let d := Decimal.Double.ofBits x.toBits
  let n : Int := (d.significand * Nat.pow 2 (d.exponent + 1074).toNat : Nat)
  if Numeral.isNegative x then -n else n

/-- the sum of numbers, rounded once -/
def sumOfReals (xs : List Float) : Eval Float := do
  if xs.any Float.isNaN then return (0.0 / 0.0)
  let more := xs.filter Float.isInf
  match more with
  | x :: rest =>
    if rest.any fun y => y != x then misvalued "-inf + inf in fsum" else return x
  | [] =>
    let n := xs.foldl (fun (n : Int) x => n + steps x) 0
    let y := dyadic (n < 0) n.natAbs (-1074)
    if y.isInf then raise .overflowError "intermediate overflow in fsum" else return y

def lengthOfVector (xs : List Float) : Float :=
  if xs.any Float.isInf then 1.0 / 0.0
  else if xs.any Float.isNaN then 0.0 / 0.0
  else
    let n := xs.foldl (fun (n : Nat) x => n + (steps x).natAbs * (steps x).natAbs) 0
    if n = 0 then 0.0
    else
      -- at least 64 bits of the root, and a bit more when something is left
      let twice : Nat := (130 - Numeral.bitLength n + 1) / 2
      let m := n * Nat.pow 4 twice
      let r := Numeral.sqrt m
      dyadic false (2 * r + (if r * r = m then 0 else 1)) (-1074 - twice - 1)

/-- the product of the numbers from `low` on, `count` of them -/
def productFrom (low : Nat) : (fuel : Nat) → (count : Nat) → Nat
  | 0, _ => 1
  | fuel + 1, count =>
    if count = 0 then 1
    else if count = 1 then low
    else productFrom low fuel (count / 2) * productFrom (low + count / 2) fuel (count - count / 2)

/-- the product of `count` numbers from `low` on -/
def product (low count : Nat) : Nat :=
  productFrom low (Numeral.bitLength count + 2) count

/-- the next number with a point in the direction of another one -/
def nextToward (x y : Float) : Float :=
  if x.isNaN ∨ y.isNaN then x + y
  else if x == y then y
  else if x == 0 then (if 0 < y then Float.ofBits 1 else Float.ofBits 0x8000000000000001)
  else if (x < y) == (0 < x) then Float.ofBits (x.toBits + 1)
  else Float.ofBits (x.toBits - 1)

/-- a number that may not be negative -/
def countOf (message : Text) (v : Value) : Eval Nat := do
  let n ← wholeOf v
  if n < 0 then misvalued message else return n.toNat

def function (name : String) (g : Given) : Eval Value := do
  match simple? name with
  | some (f, grows) =>
    let x ← realOf (← g.one ("math." ++ name.toList))
    checked x (f x) grows
  | none =>
    let pair (compute : Float → Float → Eval Value) : Eval Value := do
      g.between name.toList 2 2
      let x ← realOf (g.at_ 0)
      let y ← realOf (g.at_ 1)
      compute x y
    match name with
    | "floor" => wholeNear "__floor__" Float.floor (← g.one "math.floor")
    | "ceil" => wholeNear "__ceil__" Float.ceil (← g.one "math.ceil")
    | "trunc" => wholeNear "__trunc__" (fun x => if x < 0 then x.ceil else x.floor) (← g.one "math.trunc")
    | "log" =>
      g.between "log" 1 2
      let x ← logOf Float.log (g.at_ 0)
      match g.args[1]? with
      | none => return .float x
      | some b =>
        let y ← logOf Float.log b
        if y == 0 then byZero "float division by zero" else return .float (x / y)
    | "log2" => return .float (← logOf Float.log2 (← g.one "math.log2"))
    | "log10" => return .float (← logOf Float.log10 (← g.one "math.log10"))
    | "pow" => pair powerOfReals
    | "atan2" => pair fun x y => return .float (Float.atan2 x y)
    | "fmod" =>
      pair fun x y => do
        if x.isNaN ∨ y.isNaN then return .float (x + y)
        if x.isInf ∨ y == 0 then outside
        return .float (floatRest x y)
    | "remainder" =>
      pair fun x y => do
        if x.isNaN ∨ y.isNaN then return .float (x + y)
        if x.isInf ∨ y == 0 then outside
        return .float (restFromNearest x y)
    | "copysign" =>
      pair fun x y => return .float (if Numeral.isNegative x == Numeral.isNegative y then x else -x)
    | "nextafter" => pair fun x y => return .float (nextToward x y)
    | "ulp" =>
      let x := (← realOf (← g.one "math.ulp")).abs
      if x.isNaN ∨ x.isInf then return .float x
      let y := nextToward x (1.0 / 0.0)
      return .float (if y.isInf then x - nextToward x 0.0 else y - x)
    | "modf" =>
      let x ← realOf (← g.one "math.modf")
      if x.isInf then return .tuple [.float (if x < 0 then -0.0 else 0.0), .float x]
      let n := if x < 0 then x.ceil else x.floor
      let rest := x - n
      return .tuple [.float (if rest == 0 ∧ Numeral.isNegative x then -0.0 else rest), .float n]
    | "frexp" =>
      let x ← realOf (← g.one "math.frexp")
      if x == 0 ∨ x.isNaN ∨ x.isInf then return .tuple [.float x, .int 0]
      let (m, e) := x.frExp
      return .tuple [.float m, .int e]
    | "ldexp" =>
      g.between "ldexp" 2 2
      let x ← realOf (g.at_ 0)
      let n ← (match integer? (← get) (g.at_ 1) with
        | some n => pure n
        | none => mistyped "Expected an int as second argument to ldexp.")
      if x == 0 ∨ x.isNaN ∨ x.isInf then return .float x
      if 5000 < n then tooGreat
      if n < -5000 then return .float (if x < 0 then -0.0 else 0.0)
      let y := dyadic (x < 0) (steps x).natAbs (n - 1074)
      if y.isInf then tooGreat else return .float y
    | "isnan" => return .truth (← realOf (← g.one "math.isnan")).isNaN
    | "isinf" => return .truth (← realOf (← g.one "math.isinf")).isInf
    | "isfinite" => return .truth (← realOf (← g.one "math.isfinite")).isFinite
    | "fsum" => return .float (← sumOfReals (← (← itemsOf (← g.one "math.fsum")).mapM realOf))
    | "hypot" => return .float (lengthOfVector (← g.args.mapM realOf))
    | "dist" =>
      g.between "dist" 2 2
      let p ← (← itemsOf (g.at_ 0)).mapM realOf
      let q ← (← itemsOf (g.at_ 1)).mapM realOf
      if p.length ≠ q.length then misvalued "both points must have the same number of dimensions"
      return .float (lengthOfVector ((p.zip q).map fun (x, y) => x - y))
    | "gcd" =>
      let ns := (← g.args.mapM wholeOf).map Int.natAbs
      let d : Nat := ns.foldl Nat.gcd 0
      return .int d
    | "lcm" =>
      let ns := (← g.args.mapM wholeOf).map Int.natAbs
      let m : Nat := ns.foldl Nat.lcm 1
      return .int m
    | "factorial" =>
      let n ← countOf "factorial() not defined for negative values" (← g.one "math.factorial")
      return .int (product 1 n)
    | "isqrt" => return .int (Numeral.sqrt (← countOf "isqrt() argument must be nonnegative" (← g.one "math.isqrt")))
    | "comb" =>
      g.between "comb" 2 2
      let n ← countOf "n must be a non-negative integer" (g.at_ 0)
      let k ← countOf "k must be a non-negative integer" (g.at_ 1)
      let k := if k ≤ n then min k (n - k) else k
      return .int (if n < k then 0 else product (n - k + 1) k / product 1 k)
    | "perm" =>
      g.between "perm" 1 2
      let n ← countOf "n must be a non-negative integer" (g.at_ 0)
      let k ← (match g.at_ 1 with
        | .none => pure n
        | v => countOf "k must be a non-negative integer" v)
      return .int (if n < k then 0 else product (n - k + 1) k)
    | _ => return .none

/-- the module of these functions -/
def library : Library :=
  { name := "math"
    functions := "acos acosh asin asinh atan atanh cbrt cos cosh exp exp2 expm1 fabs log1p sin sinh sqrt tan tanh floor " ++
      "ceil trunc log log2 log10 pow atan2 fmod remainder copysign nextafter ulp modf frexp ldexp isnan isinf isfinite " ++
      "fsum hypot dist gcd lcm factorial isqrt comb perm"
    run := function
    values := return [("pi", .float 3.141592653589793), ("e", .float 2.718281828459045), ("tau", .float 6.283185307179586),
      ("inf", .float (1.0 / 0.0)), ("nan", .float (0.0 / 0.0))]
    source := r#"
  | def degrees(x, /): return fabs(x) * (180.0 / pi) * copysign(1.0, x)
  | def radians(x, /): return fabs(x) * (pi / 180.0) * copysign(1.0, x)
  | def prod(iterable, /, *, start=1):
  |     for x in iterable: start = start * x
  |     return start
  | def isclose(a, b, *, rel_tol=1e-09, abs_tol=0.0):
  |     fabs(a), fabs(b)
  |     if rel_tol < 0.0 or abs_tol < 0.0: raise ValueError('tolerances must be non-negative')
  |     if a == b: return True
  |     if isinf(a) or isinf(b): return False
  |     d = fabs(b - a)
  |     return d <= fabs(rel_tol * b) or d <= fabs(rel_tol * a) or d <= abs_tol
  | _top = (23531376880.41076, 42919803642.6491,
  |     35711959237.35567, 17921034426.03721,
  |     6039542586.352028, 1439720407.3117216,
  |     248874557.86205417, 31426415.585400194,
  |     2876370.6289353725, 186056.26539522348,
  |     8071.672002365816, 210.82427775157936,
  |     2.5066282746310002)
  | _low = (0.0, 39916800.0, 120543840.0, 150917976.0, 105258076.0, 45995730.0, 13339535.0, 2637558.0, 357423.0, 32670.0,
  |     1925.0, 66.0, 1.0)
  | def _quotient(x):
  |     num = den = 0.0
  |     for a, b in zip(_top, _low) if x >= 5.0 else zip(reversed(_top), reversed(_low)):
  |         num, den = (num / x + a, den / x + b) if x >= 5.0 else (num * x + a, den * x + b)
  |     return num / den
  | def _sine(x):
  |     y = fmod(fabs(x), 2.0)
  |     n = round(2.0 * y)
  |     r = (sin(pi * y), cos(pi * (y - 0.5)), sin(pi * (1.0 - y)), -cos(pi * (y - 1.5)), sin(pi * (y - 2.0)))[n]
  |     return copysign(1.0, x) * r
  | def gamma(x, /):
  |     x = fabs(x) * copysign(1.0, x)
  |     if isnan(x) or x == inf: return x
  |     if x == -inf or x == 0.0: raise ValueError('math domain error')
  |     if x == floor(x):
  |         if x < 0.0: raise ValueError('math domain error')
  |         if x <= 23: return float(factorial(int(x) - 1))
  |     a = fabs(x)
  |     if a < 1e-20:
  |         if isinf(1.0 / x): raise OverflowError('math range error')
  |         return 1.0 / x
  |     if a > 200.0:
  |         if x < 0.0: return 0.0 / _sine(x)
  |         raise OverflowError('math range error')
  |     y = a + 5.52468004077673
  |     if a > 5.52468004077673: z = y - a - 5.52468004077673
  |     else: z = y - 5.52468004077673 - a
  |     z = z * 6.02468004077673 / y
  |     if x < 0.0:
  |         r = -pi / _sine(a) / a * exp(y) / _quotient(a)
  |         r -= z * r
  |         r = r / pow(y, a - 0.5) if a < 140.0 else r / pow(y, a / 2.0 - 0.25) / pow(y, a / 2.0 - 0.25)
  |     else:
  |         r = _quotient(a) / exp(y)
  |         r += z * r
  |         r = r * pow(y, a - 0.5) if a < 140.0 else r * pow(y, a / 2.0 - 0.25) * pow(y, a / 2.0 - 0.25)
  |     if isinf(r): raise OverflowError('math range error')
  |     return r
  | def lgamma(x, /):
  |     x = fabs(x) * copysign(1.0, x)
  |     if isnan(x): return x
  |     if isinf(x): return inf
  |     if x == floor(x) and x <= 2.0:
  |         if x <= 0.0: raise ValueError('math domain error')
  |         return 0.0
  |     a = fabs(x)
  |     if a < 1e-20: return -log(a)
  |     r = log(_quotient(a)) - 6.02468004077673
  |     r += (a - 0.5) * (log(a + 6.02468004077673 - 0.5) - 1)
  |     return log(pi) - log(fabs(_sine(a))) - log(a) - r if x < 0.0 else r
  | def _near(x):
  |     x2, total = x * x, 0.0
  |     k = 25.5
  |     for i in range(25):
  |         total = 2.0 + x2 * total / k
  |         k -= 1.0
  |     return total * x * exp(-x2) / 1.772453850905516
  | def _far(x):
  |     if x >= 30.0: return 0.0
  |     x2, a, da, p, p1, q, q1 = x * x, 0.0, 0.5, 1.0, 0.0, 0.5 + x * x, 1.0
  |     for i in range(50):
  |         a, da = a + da, da + 2.0
  |         b = da + x2
  |         p, p1 = b * p - a * p1, p
  |         q, q1 = b * q - a * q1, q
  |     return p / q * x * exp(-x2) / 1.772453850905516
  | def erf(x, /):
  |     a = fabs(x)
  |     if isnan(x): return x
  |     if a < 1.5: return _near(x)
  |     return copysign(1.0 - _far(a), x)
  | def erfc(x, /):
  |     a = fabs(x)
  |     if isnan(x): return x
  |     if a < 1.5: return 1.0 - _near(x)
  |     return _far(a) if x > 0.0 else 2.0 - _far(a)"# }

end IncludeAudit.Offside.Reckoning
